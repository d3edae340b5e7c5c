import TunnelEdge.Agent.Streams
import TunnelEdge.Lib.Pipe
import TunnelEdge.Relay.Endpoints
/-!
# From the public client to the local service

`handlePublicConnection` (`internal/gateway/public_handler.go`) opens a QUIC stream
to the agent, writes the label of the hostname to it, and relays between the client
and the stream. `Agent.handleStream` (`internal/agent/agent.go`) reads the label,
dials the service configured for it, and relays between the stream and the service.

So a byte passes through two relays in two processes, with the stream between them.
Of QUIC we assume that a stream is reliable and ordered. It may still break: a `Read`
or a `Write` may fail at any time. `Close` of a stream ends its sending direction
only, and the peer then reads EOF after everything that was sent, whatever made this
side close it.
-/

namespace TunnelEdge.Relay

open GoLib Transport

/-- `handlePublicConnection`, once it has the stream. -/
inductive GatewayEnd
  | label
  | relaying (call : TwoWay)
  | gone

inductive AgentEnd
  | label
  | dialing (localAddr : String)
  | relaying (localAddr : String) (call : TwoWay)
  | gone

/-- What the two processes start with: the label of the hostname, the tunnels of the agent, and the pools of both. -/
structure PathEnv where
  label : Bytes
  tunnels : List TunnelRoute
  gatewayPool : BufferPool := {}
  gatewayOthers : List Nat := []
  agentPool : BufferPool := {}
  agentOthers : List Nat := []
  gatewayOwns : gatewayPool.Owns gatewayOthers
  agentOwns : agentPool.Owns agentOthers

structure Path where
  gateway : GatewayEnd := .label
  agent : AgentEnd := .label
  up : Pipe := .new
  down : Pipe := .new

inductive PathLabel
  /-- `EncodeStreamLabel`, whose `Write` accepts `n` bytes. -/
  | sendLabel (n : Nat) (failed : Bool)
  | readLabel
  /-- The `Read` of the label fails. -/
  | loseLabel
  | dial (ok : Bool)
  | gateway (l : TwoWayLabel)
  | agent (l : TwoWayLabel)
  /-- A relay closes its ends after an error and when it is through, and the stream manager of the gateway may do
  so at any time. -/
  | gatewayCloses
  | agentCloses
deriving DecidableEq, Repr

def readsFrom (side : Side) (inn : Pipe) : TwoWayLabel → Option Pipe
  | .move s (.read bytes err) => if s = side then inn.take bytes (err = some .eof) else some inn
  | _ => some inn

/-- A direction writes to the stream, and closes it when it is through. A closed stream answers with an error. -/
def writesTo (side : Side) (c c' : TwoWay) (out : Pipe) : TwoWayLabel → Option Pipe
  | .move s (.write _ err) =>
    if s = side then
      if out.shut ∧ err = none then none else out.write ((c'.dir side).written.drop (c.dir side).written.length)
    else some out
  | .move s .writer => if s = side ∧ (c.dir side).writer.closing then some out.close else some out
  | _ => some out

/-- A step of a relay whose direction `side` reads from the stream and whose other direction writes to it. -/
def onStream (side : Side) (c : TwoWay) (inn out : Pipe) (l : TwoWayLabel) : Option (TwoWay × Pipe × Pipe) := do
  let c' ← c.step {} l
  let inn' ← readsFrom side inn l
  let out' ← writesTo side.other c c' out l
  pure (c', inn', out')

def Path.step (env : PathEnv) (w : Path) : PathLabel → Option Path
  | .sendLabel n failed =>
    match w.gateway, encodeStreamLabel env.label with
    | .label, .error _ => some { w with gateway := .gone, up := w.up.close }
    | .label, .ok frame =>
      if n ≤ frame.length ∧ (failed = false → n = frame.length) then
        (w.up.write (frame.take n)).map fun up =>
          if failed then { w with gateway := .gone, up := up.close }
          else
            { w with
              gateway := .relaying { shared := { pool := env.gatewayPool }, others := env.gatewayOthers }
              up }
      else none
    | _, _ => none
  | .readLabel =>
    match w.agent with
    | .label =>
      match handleStream env.tunnels w.up.unread with
      | .ok (localAddr, rest) =>
        (w.up.take (w.up.unread.take (w.up.unread.length - rest.length)) false).map fun up =>
          { w with agent := .dialing localAddr, up }
      -- the rest of the frame may still come
      | .error (.label (.read _ _)) =>
        if w.up.shut then some { w with agent := .gone, down := w.down.close } else none
      | .error _ => some { w with agent := .gone, down := w.down.close }
    | _ => none
  | .loseLabel =>
    match w.agent with
    | .label => some { w with agent := .gone, down := w.down.close }
    | _ => none
  | .dial ok =>
    match w.agent with
    | .dialing localAddr =>
      if ok then
        some { w with
          agent := .relaying localAddr { shared := { pool := env.agentPool }, others := env.agentOthers } }
      else some { w with agent := .gone, down := w.down.close }
    | _ => none
  | .gateway l =>
    match w.gateway with
    | .relaying c => (onStream .received c w.down w.up l).map fun (c, down, up) =>
        { w with gateway := .relaying c, down, up }
    | _ => none
  | .agent l =>
    match w.agent with
    | .relaying localAddr c => (onStream .sent c w.up w.down l).map fun (c, up, down) =>
        { w with agent := .relaying localAddr c, up, down }
    | _ => none
  | .gatewayCloses =>
    match w.gateway with
    | .relaying _ => some { w with up := w.up.close }
    | _ => none
  | .agentCloses =>
    match w.agent with
    | .relaying _ _ => some { w with down := w.down.close }
    | _ => none

/-! ## A relay at its end of the stream -/

variable {side : Side} {before after : Bytes} {c c' : TwoWay} {inn inn' out out' : Pipe} {l : TwoWayLabel}

theorem TwoWay.Orderly.step (hi : c.Orderly) (h : c.step {} l = some c') : c'.Orderly := by
  cases TwoWay.stepped h with
  | move hm => exact hi.move hm
  | @returned side' hr =>
    cases (c.dir side').err with
    | none => exact hi
    | some e => exact fun side => (hi side).cancel .canceled
  | cancel e => exact fun side => (hi side).cancel e
  | other _ hu => exact hi.other hu

/-- `before` was read from the stream before the relay started, and `after` was written to it. -/
structure OnStream (side : Side) (before after : Bytes) (c : TwoWay) (inn out : Pipe) : Prop where
  orderly : c.Orderly
  read : inn.read = before ++ (c.dir side).received
  written : out.written = after ++ (c.dir side.other).written
  eof : (c.dir side).readErr = some .eof → inn.ended = true

theorem OnStream.peer (h : OnStream side before after c inn out) (hr : inn'.read = inn.read)
    (he : inn'.ended = inn.ended) (hw : out'.written = out.written) : OnStream side before after c inn' out' :=
  ⟨h.orderly, hr.trans h.read, hw.trans h.written, fun hf => he.trans (h.eof hf)⟩

theorem step_writes {d d' : Direction} {sh sh' : Shared} {m : Move} (h : d.Step {} sh m sh' d')
    (hm : ∀ n err, m ≠ .write n err) : d'.written = d.written := by
  cases h with
  | writePart | writeAll | writeErr => exact absurd rfl (hm _ _)
  | reported | writerReported => simp
  | _ => rfl

theorem step_read {d d' : Direction} {sh sh' : Shared} {bytes : Bytes} {err : Option RelayErr}
    (h : d.Step {} sh (.read bytes err) sh' d') : d'.received = d.received ++ bytes ∧ d'.readErr = err := by
  cases h with
  | data => exact ⟨rfl, rfl⟩
  | noData => exact ⟨(List.append_nil _).symm, rfl⟩

theorem TwoWay.step_writes (h : c.step {} l = some c') (s : Side) :
    (c.dir s).written <+: (c'.dir s).written ∧
      ((∀ n err, l ≠ .move s (.write n err)) → (c'.dir s).written = (c.dir s).written) := by
  rcases TwoWay.step_dir h s with ⟨hd, -⟩ | ⟨m, rfl, hm⟩ | ⟨e, hd, -⟩
  · rw [hd]
    exact ⟨List.prefix_rfl, fun _ => rfl⟩
  · exact ⟨step_written hm, fun hl => Relay.step_writes hm fun n err h => hl n err (by rw [h])⟩
  · rw [hd]
    exact ⟨List.prefix_rfl, fun _ => rfl⟩

theorem TwoWay.step_read {bytes : Bytes} {err : Option RelayErr}
    (h : c.step {} (.move side (.read bytes err)) = some c') :
    (c'.dir side).received = (c.dir side).received ++ bytes ∧ (c'.dir side).readErr = err := by
  cases TwoWay.stepped h with
  | move hm => simpa using Relay.step_read hm
  | other hl => exact absurd rfl (hl _ _)

theorem TwoWay.step_no_read (h : c.step {} l = some c') (hl : ∀ bytes err, l ≠ .move side (.read bytes err)) :
    (c'.dir side).received = (c.dir side).received ∧ (c'.dir side).readErr = (c.dir side).readErr := by
  rcases TwoWay.step_dir h side with ⟨hd, -⟩ | ⟨m, rfl, hm⟩ | ⟨e, hd, -⟩
  · rw [hd]
    exact ⟨rfl, rfl⟩
  · rcases step_received hm with ⟨bytes, err, rfl, -⟩ | hsame
    · exact absurd rfl (hl bytes err)
    · exact hsame
  · rw [hd]
    exact ⟨rfl, rfl⟩

theorem of_readsFrom (hc : c.step {} l = some c') (h : readsFrom side inn l = some inn')
    (hr : inn.read = before ++ (c.dir side).received) (he : (c.dir side).readErr = some .eof → inn.ended = true) :
    inn'.written = inn.written ∧ inn'.read = before ++ (c'.dir side).received ∧
      ((c'.dir side).readErr = some .eof → inn'.ended = true) := by
  by_cases hl : ∃ bytes err, l = .move side (.read bytes err)
  · obtain ⟨bytes, err, rfl⟩ := hl
    simp only [readsFrom, if_true] at h
    obtain ⟨hw, hread, hended⟩ := Pipe.of_take h
    obtain ⟨hrec, herr⟩ := TwoWay.step_read hc
    refine ⟨hw, by rw [hread, hr, hrec, List.append_assoc], fun hf => ?_⟩
    rw [hended, ← herr, hf]
    rfl
  · have hno : ∀ bytes err, l ≠ .move side (.read bytes err) := fun bytes err h => hl ⟨bytes, err, h⟩
    obtain rfl : inn = inn' := by
      unfold readsFrom at h
      split at h
      · rename_i s bytes err
        rw [if_neg fun hs => hno bytes err (by rw [hs])] at h
        exact Option.some.inj h
      · exact Option.some.inj h
    obtain ⟨hrec, herr⟩ := TwoWay.step_no_read hc hno
    rw [hrec, herr]
    exact ⟨rfl, hr, he⟩

theorem of_writesTo (hc : c.step {} l = some c') (h : writesTo side c c' out l = some out')
    (hw : out.written = after ++ (c.dir side).written) :
    out'.read = out.read ∧ out'.ended = out.ended ∧ out'.written = after ++ (c'.dir side).written := by
  obtain ⟨hgrow, hsame⟩ := TwoWay.step_writes hc side
  unfold writesTo at h
  split at h
  · rename_i s n err
    split at h
    · rename_i hs
      subst hs
      split at h
      · cases h
      · obtain ⟨hwritten, hread, hended⟩ := Pipe.of_write h
        refine ⟨hread, hended, ?_⟩
        rw [hwritten, hw, List.append_assoc, List.prefix_iff_eq_append.1 hgrow]
    · rename_i hs
      cases h
      exact ⟨rfl, rfl, by rw [hw, hsame fun n err h => hs (by cases h; rfl)]⟩
  · rename_i s
    have hkept := hsame fun n err h => by cases h
    split at h <;> cases h <;> exact ⟨rfl, rfl, by rw [hkept]; exact hw⟩
  · rename_i hno _
    cases h
    exact ⟨rfl, rfl, by rw [hw, hsame fun n err h => hno side n err h]⟩

theorem OnStream.step (hi : OnStream side before after c inn out)
    (h : onStream side c inn out l = some (c', inn', out')) :
    OnStream side before after c' inn' out' ∧
      inn'.written = inn.written ∧ out'.read = out.read ∧ out'.ended = out.ended := by
  simp only [onStream, Option.bind_eq_bind, Option.bind_eq_some_iff, Option.pure_def, Option.some.injEq,
    Prod.mk.injEq] at h
  obtain ⟨_, hc, _, hr, _, hw, rfl, rfl, rfl⟩ := h
  obtain ⟨hinn, hread, heof⟩ := of_readsFrom hc hr hi.read hi.eof
  obtain ⟨hout, hended, hwritten⟩ := of_writesTo hc hw hi.written
  exact ⟨⟨hi.orderly.step hc, hread, hwritten, heof⟩, hinn, hout, hended⟩

theorem OnStream.start {pool : BufferPool} {others : List Nat} (ho : pool.Owns others) (hr : inn.read = before)
    (hw : out.written = after) : OnStream side before after { shared := { pool }, others } inn out :=
  ⟨(TwoWay.inv_init ho).dirs, by simpa using hr, by simpa using hw, fun h => by cases h⟩

/-! ## The label -/

def labelFrame (label : Bytes) : Bytes := msgStreamLabel :: putField8 label

/-- A frame that is decoded from the front of what a writer of `labelFrame label` has sent is this frame. -/
theorem decodeStreamLabel_front {label s more t rest label' : Bytes} (hlen : label.length ≤ maxLabelLen)
    (hs : s ++ t = labelFrame label ++ more) (h : decodeStreamLabel s = .ok (label', rest)) :
    label' = label ∧ s.take (s.length - rest.length) = labelFrame label := by
  have hall := decodeStreamLabel_reads.extend h t
  rw [hs] at hall
  obtain ⟨rfl, -⟩ := Prod.mk.inj (Except.ok.inj (hall.symm.trans (decodeStreamLabel_reads.decode hlen more)))
  obtain ⟨-, rfl⟩ := (decodeStreamLabel_reads _ _ _).1 h
  refine ⟨rfl, ?_⟩
  rw [List.length_append, Nat.add_sub_cancel, List.take_left, labelFrame]

/-- The address that the agent has for the label. -/
def PathEnv.service (env : PathEnv) : Option String :=
  (textOf env.label).bind fun label => (tunnelMap env.tunnels).lookup label

theorem handleStream_ok {tunnels : List TunnelRoute} {s rest : Bytes} {localAddr : String}
    (h : handleStream tunnels s = .ok (localAddr, rest)) : ∃ label, decodeStreamLabel s = .ok (label, rest) ∧
      ((textOf label).bind fun label => (tunnelMap tunnels).lookup label) = some localAddr := by
  unfold handleStream at h
  split at h
  · cases h
  · rename_i label rest' hd
    split at h
    · cases h
      exact ⟨label, hd, ‹_›⟩
    · cases h

/-! ## Every step keeps both ends in their place -/

variable {env : PathEnv} {up up' down down' : Pipe} {w w' : Path}

/-- How far the gateway is, and what it has made of the stream. -/
def GatewayEnd.Fits (env : PathEnv) (up down : Pipe) : GatewayEnd → Prop
  | .label => up.written = [] ∧ down.read = []
  | .relaying c => env.label.length ≤ maxLabelLen ∧ OnStream .received [] (labelFrame env.label) c down up
  | .gone => (env.label.length ≤ maxLabelLen ∨ up.written = []) ∧ up.written <+: labelFrame env.label ∧ down.read = []

def AgentEnd.Fits (env : PathEnv) (up down : Pipe) : AgentEnd → Prop
  | .label => up.read = [] ∧ down.written = []
  | .dialing localAddr => up.read = labelFrame env.label ∧ env.service = some localAddr ∧ down.written = []
  | .relaying localAddr c => env.service = some localAddr ∧ OnStream .sent (labelFrame env.label) [] c up down
  | .gone => down.written = []

theorem GatewayEnd.Fits.peer {g : GatewayEnd} (h : g.Fits env up down) (hw : up'.written = up.written)
    (hr : down'.read = down.read) (he : down'.ended = down.ended) : g.Fits env up' down' := by
  cases g with
  | label => exact ⟨hw.trans h.1, hr.trans h.2⟩
  | relaying c => exact ⟨h.1, h.2.peer hr he hw⟩
  | gone => exact ⟨by rw [hw]; exact h.1, by rw [hw]; exact h.2.1, hr.trans h.2.2⟩

theorem AgentEnd.Fits.peer {a : AgentEnd} (h : a.Fits env up down) (hw : down'.written = down.written)
    (hr : up'.read = up.read) (he : up'.ended = up.ended) : a.Fits env up' down' := by
  cases a with
  | label => exact ⟨hr.trans h.1, hw.trans h.2⟩
  | dialing localAddr => exact ⟨hr.trans h.1, h.2.1, hw.trans h.2.2⟩
  | relaying localAddr c => exact ⟨h.1, h.2.peer hr he hw⟩
  | gone => exact hw.trans h

theorem GatewayEnd.Fits.front {g : GatewayEnd} (h : g.Fits env up down) :
    (env.label.length ≤ maxLabelLen ∨ up.written = []) ∧ ∃ t more, up.written ++ t = labelFrame env.label ++ more := by
  cases g with
  | label => exact ⟨.inr h.1, labelFrame env.label, [], by rw [h.1, List.nil_append, List.append_nil]⟩
  | relaying c => exact ⟨.inl h.1, [], (c.dir .sent).written, by rw [List.append_nil]; exact h.2.written⟩
  | gone =>
    obtain ⟨t, ht⟩ := h.2.1
    exact ⟨h.1, t, [], by rw [ht, List.append_nil]⟩

structure Path.Inv (env : PathEnv) (w : Path) : Prop where
  gateway : w.gateway.Fits env w.up w.down
  agent : w.agent.Fits env w.up w.down

theorem Path.Inv.sendLabel (hi : w.Inv env) {n : Nat} {failed : Bool}
    (h : w.step env (.sendLabel n failed) = some w') : w'.Inv env := by
  simp only [Path.step] at h
  split at h
  · rename_i hg he
    cases h
    have hfit := hi.gateway
    rw [hg] at hfit
    exact ⟨⟨.inr hfit.1, by rw [show w.up.close.written = [] from hfit.1]; exact List.nil_prefix, hfit.2⟩,
      hi.agent.peer rfl rfl rfl⟩
  · rename_i frame hg he
    obtain ⟨hlen, rfl⟩ := (encodeStreamLabel_encodes _ _).1 he
    have hfit := hi.gateway
    rw [hg] at hfit
    split at h
    · rename_i hn
      obtain ⟨up, hu, rfl⟩ := Option.map_eq_some_iff.1 h
      obtain ⟨hwritten, hread, hended⟩ := Pipe.of_write hu
      rw [hfit.1, List.nil_append] at hwritten
      cases failed with
      | true =>
        refine ⟨⟨.inl hlen, ?_, hfit.2⟩, hi.agent.peer rfl hread hended⟩
        exact hwritten ▸ List.take_prefix ..
      | false =>
        have hall : up.written = labelFrame env.label := by
          rw [hwritten, hn.2 rfl, List.take_length, labelFrame]
        exact ⟨⟨hlen, .start env.gatewayOwns hfit.2 hall⟩, hi.agent.peer rfl hread hended⟩
    · cases h
  · cases h

theorem Path.Inv.readLabel (hi : w.Inv env) (h : w.step env .readLabel = some w') : w'.Inv env := by
  simp only [Path.step] at h
  split at h
  · rename_i ha
    have hfit := hi.agent
    rw [ha] at hfit
    have hover : Path.Inv env { w with agent := .gone, down := w.down.close } :=
      ⟨hi.gateway.peer rfl rfl rfl, hfit.2⟩
    split at h
    · rename_i localAddr rest hs
      obtain ⟨up, hu, rfl⟩ := Option.map_eq_some_iff.1 h
      obtain ⟨hwritten, hread, hended⟩ := Pipe.of_take hu
      obtain ⟨label, hdecode, hservice⟩ := handleStream_ok hs
      have hunread : w.up.unread = w.up.written := by
        rw [← w.up.read_append_unread, hfit.1, List.nil_append]
      obtain ⟨hlen | hnil, t, more, hfront⟩ := hi.gateway.front
      · rw [← hunread] at hfront
        obtain ⟨rfl, hframe⟩ := decodeStreamLabel_front hlen hfront hdecode
        refine ⟨hi.gateway.peer hwritten rfl rfl, ?_, hservice, hfit.2⟩
        rw [hread, hfit.1, hframe, List.nil_append]
      · -- nothing was sent, and no frame is empty
        rw [hunread, hnil] at hdecode
        cases hdecode
    · split at h
      · cases h
        exact hover
      · cases h
    · cases h
      exact hover
  · cases h

theorem Path.Inv.step {l : PathLabel} (hi : w.Inv env) (h : w.step env l = some w') : w'.Inv env := by
  cases l with
  | sendLabel n failed => exact hi.sendLabel h
  | readLabel => exact hi.readLabel h
  | loseLabel =>
    simp only [Path.step] at h
    split at h
    · rename_i ha
      cases h
      have hfit := hi.agent
      rw [ha] at hfit
      exact ⟨hi.gateway.peer rfl rfl rfl, hfit.2⟩
    · cases h
  | dial ok =>
    simp only [Path.step] at h
    split at h
    · rename_i localAddr ha
      have hfit := hi.agent
      rw [ha] at hfit
      split at h <;> cases h
      · exact ⟨hi.gateway, hfit.2.1, .start env.agentOwns hfit.1 hfit.2.2⟩
      · exact ⟨hi.gateway.peer rfl rfl rfl, hfit.2.2⟩
    · cases h
  | gateway l =>
    simp only [Path.step] at h
    split at h
    · rename_i c hg
      obtain ⟨⟨c', down, up⟩, hc, rfl⟩ := Option.map_eq_some_iff.1 h
      have hfit := hi.gateway
      rw [hg] at hfit
      obtain ⟨hstream, hwritten, hread, hended⟩ := hfit.2.step hc
      exact ⟨⟨hfit.1, hstream⟩, hi.agent.peer hwritten hread hended⟩
    · cases h
  | agent l =>
    simp only [Path.step] at h
    split at h
    · rename_i localAddr c ha
      obtain ⟨⟨c', up, down⟩, hc, rfl⟩ := Option.map_eq_some_iff.1 h
      have hfit := hi.agent
      rw [ha] at hfit
      obtain ⟨hstream, hwritten, hread, hended⟩ := hfit.2.step hc
      exact ⟨hi.gateway.peer hwritten hread hended, hfit.1, hstream⟩
    · cases h
  | gatewayCloses =>
    simp only [Path.step] at h
    split at h
    · cases h
      exact ⟨hi.gateway.peer rfl rfl rfl, hi.agent.peer rfl rfl rfl⟩
    · cases h
  | agentCloses =>
    simp only [Path.step] at h
    split at h
    · cases h
      exact ⟨hi.gateway.peer rfl rfl rfl, hi.agent.peer rfl rfl rfl⟩
    · cases h

theorem Path.inv_of_run {ls : List PathLabel} (h : Run (Path.step env) (fun _ _ => True) {} ls w) : w.Inv env := by
  refine h.inv (Path.Inv env) ⟨?_, ?_⟩ fun _ _ _ hi _ hst => hi.step hst
  · exact ⟨rfl, rfl⟩
  · exact ⟨rfl, rfl⟩

/-! ## From one end to the other -/

/-- A direction of the relay, which is as at its start as long as there is none. -/
def GatewayEnd.dir : GatewayEnd → Side → Direction
  | .relaying c => c.dir
  | _ => fun _ => {}

def AgentEnd.dir : AgentEnd → Side → Direction
  | .relaying _ c => c.dir
  | _ => fun _ => {}

def AgentEnd.localAddr : AgentEnd → Option String
  | .relaying localAddr _ => some localAddr
  | _ => none

/-- What has come in at the end where a direction starts: from the client, or from the service. -/
def Path.entered (w : Path) : Side → Bytes
  | .sent => (w.gateway.dir .sent).received
  | .received => (w.agent.dir .received).received

def Path.left (w : Path) : Side → Bytes
  | .sent => (w.agent.dir .sent).written
  | .received => (w.gateway.dir .received).written

theorem GatewayEnd.Fits.bounds {g : GatewayEnd} (h : g.Fits env up down) :
    up.written <+: labelFrame env.label ++ (g.dir .sent).received ∧ (g.dir .received).written <+: down.read := by
  cases g with
  | label => exact ⟨h.1 ▸ List.nil_prefix, List.nil_prefix⟩
  | relaying c =>
    rw [h.2.written, h.2.read, List.prefix_append_right_inj]
    exact ⟨(h.2.orderly .sent).flow.sent, (h.2.orderly .received).flow.sent⟩
  | gone => exact ⟨h.2.1.trans (List.prefix_append ..), List.nil_prefix⟩

theorem AgentEnd.Fits.bounds {a : AgentEnd} (h : a.Fits env up down) :
    ((a.dir .sent).written = [] ∨ labelFrame env.label ++ (a.dir .sent).written <+: up.read) ∧
      down.written <+: (a.dir .received).received := by
  cases a with
  | label => exact ⟨.inl rfl, h.2 ▸ List.nil_prefix⟩
  | dialing localAddr => exact ⟨.inl rfl, h.2.2 ▸ List.nil_prefix⟩
  | relaying localAddr c =>
    rw [h.2.written, h.2.read]
    exact ⟨.inr ((List.prefix_append_right_inj _).2 (h.2.orderly .sent).flow.sent), (h.2.orderly .received).flow.sent⟩
  | gone => exact ⟨.inl rfl, (show down.written = [] from h) ▸ List.nil_prefix⟩

/-- For every interleaving of the two processes, and whatever fails where: each end
gets, in order, what the other end has sent so far, and the agent relays to the
address that it has for the label. -/
theorem stream_in_order (env : PathEnv) {ls : List PathLabel} {w : Path}
    (h : Run (Path.step env) (fun _ _ => True) {} ls w) :
    (∀ side, w.left side <+: w.entered side) ∧
      ∀ localAddr, w.agent.localAddr = some localAddr → env.service = some localAddr := by
  have hi := Path.inv_of_run h
  refine ⟨fun side => ?_, fun localAddr hagent => ?_⟩
  · obtain ⟨hup, hdown⟩ := hi.gateway.bounds
    obtain ⟨hread, hwritten⟩ := hi.agent.bounds
    cases side with
    | sent =>
      rcases hread with hnil | hread
      · exact (show w.left .sent = [] from hnil) ▸ List.nil_prefix
      · have hall := (hread.trans w.up.front).trans hup
        rwa [List.prefix_append_right_inj] at hall
    | received => exact (hdown.trans w.down.front).trans hwritten
  · have hfit := hi.agent
    cases hend : w.agent with
    | relaying localAddr' c =>
      rw [hend] at hfit hagent
      exact hagent ▸ hfit.1
    | label | dialing | gone =>
      rw [hend] at hagent
      cases hagent

theorem unused_owns : BufferPool.Owns {} [] := ⟨List.nodup_nil, fun _ h => absurd h List.not_mem_nil⟩

/-- The service for the label `ww`, at an agent that has another tunnel too. -/
def webPath : PathEnv :=
  { label := [119, 119],
    tunnels := [{ label := "db", localAddr := "127.0.0.1:5432" }, { label := "ww", localAddr := "127.0.0.1:80" }],
    gatewayOwns := unused_owns, agentOwns := unused_owns }

/-- A direction passes on a byte, up to the end of the stream. -/
def passByte : List Move :=
  [.get none, .read [7] (some .eof), .reader, .send, .reader, .reader, .reader, .recv, .write 1 none, .writer, .writer,
    .recv, .writer, .writer]

def byteRun : List PathLabel :=
  [.sendLabel 4 false, .readLabel, .dial true] ++ passByte.map (fun m => .gateway (.move .sent m)) ++
    passByte.map fun m => .agent (.move .sent m)

theorem stream_in_order_byteRun :
    ∃ w, Run (Path.step webPath) (fun _ _ => True) {} byteRun w ∧ w.entered .sent = [7] ∧
      w.agent.localAddr = some "127.0.0.1:80" ∧ w.left .sent <+: w.entered .sent ∧
      webPath.service = some "127.0.0.1:80" := by
  have hrun : ∃ w, Run (Path.step webPath) (fun _ _ => True) {} byteRun w ∧
      (w.entered .sent = [7] ∧ w.agent.localAddr = some "127.0.0.1:80") := run_any (by decide +kernel)
  obtain ⟨w, hr, hin, haddr⟩ := hrun
  obtain ⟨horder, hservice⟩ := stream_in_order webPath hr
  exact ⟨w, hr, hin, haddr, horder .sent, hservice _ haddr⟩

def Direction.clean (d : Direction) : Bool := d.returned && d.err.isNone

/-- Where a direction returns nil in both processes, every byte has arrived, and both have counted the same. -/
theorem stream_complete (env : PathEnv) {ls : List PathLabel} {w : Path}
    (h : Run (Path.step env) (fun _ _ => True) {} ls w) {side : Side}
    (hg : (w.gateway.dir side).clean = true) (ha : (w.agent.dir side).clean = true) :
    w.left side = w.entered side ∧ (w.gateway.dir side).counted = (w.entered side).length ∧
      (w.agent.dir side).counted = (w.entered side).length := by
  have hi := Path.inv_of_run h
  obtain ⟨gateway, agent, up, down⟩ := w
  obtain ⟨hgfit, hafit⟩ := hi
  cases gateway with
  | label | gone => cases hg
  | relaying c =>
    cases agent with
    | label | dialing | gone => cases ha
    | relaying localAddr c' =>
      simp only [GatewayEnd.dir, AgentEnd.dir, Direction.clean, Bool.and_eq_true, Option.isNone_iff_eq_none] at hg ha
      obtain ⟨heof, hall, hcount⟩ := (hgfit.2.orderly side).delivered hg.1 hg.2
      obtain ⟨heof', hall', hcount'⟩ := (hafit.2.orderly side).delivered ha.1 ha.2
      cases side with
      | sent =>
        -- the agent has seen the end of the stream, so it has everything that the gateway wrote
        have hwhole := (up.whole (hafit.2.eof heof')).2
        rw [hafit.2.read, hgfit.2.written, List.append_cancel_left_eq] at hwhole
        have hsame : (c'.dir .sent).received = (c.dir .sent).received := hwhole.trans hall
        exact ⟨hall'.trans hsame, hcount, hcount'.trans (congrArg _ hsame)⟩
      | received =>
        have hwhole := (down.whole (hgfit.2.eof heof)).2
        rw [hgfit.2.read, hafit.2.written, List.append_cancel_left_eq] at hwhole
        have hsame : (c.dir .received).received = (c'.dir .received).received := hwhole.trans hall'
        exact ⟨hall.trans hsame, hcount.trans (congrArg _ hsame), hcount'⟩

theorem stream_complete_byteRun :
    ∃ w, Run (Path.step webPath) (fun _ _ => True) {} byteRun w ∧ w.entered .sent = [7] ∧
      w.left .sent = w.entered .sent ∧ (w.agent.dir .sent).counted = (w.entered .sent).length := by
  have hrun : ∃ w, Run (Path.step webPath) (fun _ _ => True) {} byteRun w ∧
      (w.entered .sent = [7] ∧ (w.gateway.dir .sent).clean = true ∧ (w.agent.dir .sent).clean = true) :=
    run_any (by decide +kernel)
  obtain ⟨w, hr, hin, hg, ha⟩ := hrun
  obtain ⟨hall, -, hcount⟩ := stream_complete webPath hr hg ha
  exact ⟨w, hr, hin, hall, hcount⟩

end TunnelEdge.Relay
