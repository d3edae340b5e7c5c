import TunnelEdge.Relay.Bidirectional
/-!
# The two ends of a relay

`TwoWay` leaves open what `Read` and `Write` return. Here they come from two
endpoints. Each produces a byte stream that ends with EOF or with another error,
takes what is written to it unless it fails, and answers `net.ErrClosed` once it
is closed. The relay closes an endpoint in two ways: a writer that is through
calls `closeWrite`, and the first error of the group closes both ends for good.

An endpoint may have a `bandwidthReader` in front of its `Read`. As
`golang.org/x/time/rate` has it, `WaitN` fails where more is asked for than the
burst, and otherwise delays, which does not show in the moves.
-/

namespace TunnelEdge.Relay

open GoLib

/-- What the relay can see of an `io.ReadWriteCloser`. -/
structure Endpoint where
  /-- The bytes that it is still to produce, and what `Read` returns after them. -/
  input : List UInt8
  ending : RelayErr := .eof
  /-- The error that its `Write` may fail with. -/
  writeErr : Option RelayErr := none
  /-- It has a method `CloseWrite`. -/
  closeWriter : Bool := true
  /-- The burst of the `bandwidthReader` in front of its `Read`. -/
  burst : Option Int := none
  /-- `CloseWrite` and `Close` were called. -/
  shut : Bool := false
  closed : Bool := false
deriving DecidableEq, Repr

namespace Endpoint

/-- The results that its `Read` may have, limiter apart. -/
def reads (e : Endpoint) (bytes : List UInt8) (err : Option RelayErr) : Bool :=
  if e.closed then bytes = [] && err = some .closed
  else bytes.isPrefixOf e.input && (err = none || (bytes = e.input && err = some e.ending))

def writes (e : Endpoint) (n : Nat) (err : Option RelayErr) : Bool :=
  if e.closed || e.shut then n = 0 && err = some .closed else err = none || err = e.writeErr

def close (e : Endpoint) : Endpoint := { e with closed := true }

/-- `closeWrite`: without the method, the endpoint is closed. -/
def closeWrite (e : Endpoint) : Endpoint := if e.closeWriter then { e with shut := true } else e.close

def produced (e : Endpoint) (n : Nat) : Endpoint := { e with input := e.input.drop n }

end Endpoint

def min64 (a b : Int) : Int := if a < b then a else b

/-- `WaitN` of a limiter with this burst, under a context that does not end. -/
def waitN (burst : Int) (n : Nat) : Option RelayErr := if burst < n then some .other else none

/-- The error that `bandwidthReader.Read` returns with these bytes. -/
def throttled (burst : Option Int) (bytes : List UInt8) (err : Option RelayErr) : Option RelayErr :=
  match burst with
  | none => err
  | some b => if 0 < bytes.length then (waitN b bytes.length).or err else err

def newBandwidthReader (e : Endpoint) (bandwidthBps : Int) : Option Int :=
  if bandwidthBps ≤ 0 then e.burst else some (min64 bandwidthBps (32 * 1024))

/-- `bandwidthLimitedRWC` embeds the interface, so it has `Close` and not `CloseWrite`. -/
def bandwidthLimitedRWC (bandwidthBps : Int) (e : Endpoint) : Endpoint :=
  { e with closeWriter := false, burst := newBandwidthReader e bandwidthBps }

/-- The deferred `closeWrite(dst)` comes next. -/
def WriterPc.closing : WriterPc → Bool
  | .closeWrite _ => true
  | _ => false

/-- A call of `bidirectionalWithOptions` and its ends: `ends side` is what the direction reads from, and what the
other one writes to. -/
structure Link where
  call : TwoWay := {}
  ends : Side → Endpoint

inductive LinkLabel
  | call (l : TwoWayLabel)
  /-- What `context.AfterFunc` runs when the context of the group is done. -/
  | closer
deriving DecidableEq, Repr

namespace Link

/-- The step as the call sees it, if the ends can answer so. -/
def answered (w : Link) : TwoWayLabel → Option TwoWayLabel
  | .move side (.read bytes err) =>
    if (w.ends side).reads bytes err then some (.move side (.read bytes (throttled (w.ends side).burst bytes err)))
    else none
  | .move side (.write n err) => if (w.ends side.other).writes n err then some (.move side (.write n err)) else none
  | l => some l

/-- An end after a step of the call. -/
def endsAfter (w : Link) (l : TwoWayLabel) (side : Side) : Endpoint :=
  match l with
  | .move side' (.read bytes _) => if side' = side then (w.ends side).produced bytes.length else w.ends side
  | .move side' .writer =>
    if side' = side.other ∧ (w.call.dir side').writer.closing then (w.ends side).closeWrite else w.ends side
  | _ => w.ends side

def step (w : Link) : LinkLabel → Option Link
  | .call l => ((w.answered l).bind (w.call.step {})).map fun call => { call, ends := w.endsAfter l }
  | .closer =>
    if w.call.err ≠ none ∨ w.call.callerErr ≠ none then some { w with ends := fun side => (w.ends side).close }
    else none

end Link

/-- `BidirectionalWithIdleTimeout`; `others` are the buffers that other relays have taken. -/
def bidirectionalWithIdleTimeout (pool : BufferPool) (others : List Nat) (ends : Side → Endpoint) : Link :=
  { call := { shared := { pool }, others }, ends }

def bidirectionalWithBandwidthLimit (pool : BufferPool) (others : List Nat) (bandwidthBps : Int)
    (ends : Side → Endpoint) : Link :=
  bidirectionalWithIdleTimeout pool others
    (if 0 < bandwidthBps then fun side => bandwidthLimitedRWC bandwidthBps (ends side) else ends)

/-- The context is not cancelled, and no timeout fires. -/
def calm : LinkLabel → Bool
  | .call (.move _ (.read _ err)) | .call (.move _ (.write _ err)) => err ≠ some .timeout
  | .call (.move _ .enqueueTimeout) | .call (.cancel _) => false
  | _ => true

/-- The step is one of the call, not of another user of the pool. -/
def LinkLabel.own : LinkLabel → Bool
  | .call (.move ..) | .call (.returned _) => true
  | _ => false

variable {opts : RelayOptions} {sh sh' : Shared} {d d' : Direction} {m : Move} {w w' : Link} {c c' : TwoWay}

/-! ## What a step does to a direction -/

theorem TwoWay.step_dir {l : TwoWayLabel} (h : c.step opts l = some c') (side : Side) :
    (c'.dir side = c.dir side ∧ ∀ m, l ≠ .move side m) ∨
      (∃ m, l = .move side m ∧ (c.dir side).Step opts c.shared m c'.shared (c'.dir side)) ∨
      ∃ e, c'.dir side = (c.dir side).cancel e ∧ (l = .cancel e ∨ ∃ side', (c.dir side').err ≠ none) := by
  cases TwoWay.stepped h with
  | @move side' m shared d' hm =>
    by_cases hs : side = side'
    · subst hs
      exact .inr (.inl ⟨m, rfl, by simpa using hm⟩)
    · exact .inl ⟨by simp [hs], fun m h => hs (by cases h; rfl)⟩
  | @returned side' hr =>
    cases he : (c.dir side').err with
    | none => exact .inl ⟨rfl, fun m h => by cases h⟩
    | some e => exact .inr (.inr ⟨.canceled, rfl, .inr ⟨side', by rw [he]; exact Option.some_ne_none e⟩⟩)
  | cancel e => exact .inr (.inr ⟨e, rfl, .inl rfl⟩)
  | other hl hu => exact .inl ⟨rfl, hl side⟩

theorem TwoWay.step_err {l : TwoWayLabel} (h : c.step opts l = some c') :
    c'.err = c.err ∨ ∃ side, (c.dir side).err ≠ none := by
  cases TwoWay.stepped h with
  | @returned side hr =>
    cases he : (c.dir side).err with
    | none => exact .inl rfl
    | some e => exact .inr ⟨side, by rw [he]; exact Option.some_ne_none e⟩
  | move hm => exact .inl rfl
  | cancel e => exact .inl rfl
  | other hl hu => exact .inl rfl

/-- The reader has had its last `Read`. -/
def ReaderPc.readsNoMore : ReaderPc → Bool
  | .observe _ err | .offer _ err | .recycle _ err | .check err => err.isSome
  | .stopped .. | .expired _ | .close _ | .report _ | .done _ => true
  | .get | .read _ => false

theorem step_readsNoMore (h : d.Step opts sh m sh' d') (hr : d.reader.readsNoMore = true) :
    d'.reader.readsNoMore = true := by
  cases h with
  | get hp | data _ hp | noData _ hp | next hp =>
    rw [hp] at hr
    cases hr
  | observe hp | send hp | handoff hp | recycle hp =>
    rw [hp] at hr
    exact hr
  | reported | writerReported => first | rfl | simpa using hr
  | _ => first | rfl | exact hr

theorem TwoWay.readsNoMore_step {l : TwoWayLabel} (h : c.step opts l = some c') {side : Side}
    (hr : (c.dir side).reader.readsNoMore = true) : (c'.dir side).reader.readsNoMore = true := by
  rcases step_dir h side with ⟨he, -⟩ | ⟨m, -, hm⟩ | ⟨e, he, -⟩
  · rwa [he]
  · exact step_readsNoMore hm hr
  · rw [he]
    exact hr

theorem Link.step_call {l : TwoWayLabel} (h : w.step (.call l) = some w') :
    ∃ l', w.answered l = some l' ∧ w.call.step {} l' = some w'.call ∧ w'.ends = w.endsAfter l := by
  obtain ⟨c, hc, rfl⟩ := Option.map_eq_some_iff.1 h
  obtain ⟨l', hl, hc⟩ := Option.bind_eq_some_iff.1 hc
  exact ⟨l', hl, hc, rfl⟩

/-! ## A relay where nothing fails -/

def ReaderPc.sound : ReaderPc → Bool
  | .observe _ err | .offer _ err | .recycle _ err | .check err => err = none || err = some .eof
  | .close result | .report result | .done result => result.isNone
  | .stopped .. | .expired _ => false
  | .get | .read _ => true

def WriterPc.sound : WriterPc → Bool
  | .release _ err | .account _ err => err.isNone
  | .closeWrite result | .report result | .done result => result.isNone
  | .select | .write .. => true

def WriterPc.past : WriterPc → Bool
  | .report _ | .done _ => true
  | _ => false

/-- No error but EOF is on its way, and the bytes received are the front of the stream. -/
structure Direction.Sound (input rest : List UInt8) (d : Direction) : Prop where
  reader : d.reader.sound = true
  writer : d.writer.sound = true
  ctxErr : d.ctxErr = none
  err : d.err = none
  stream : d.received ++ rest = input
  readErr : d.readErr = none ∨ d.readErr = some .eof ∧ rest = []

/-- The endpoint reads and writes without errors, and can be half-closed. -/
def Endpoint.reliable (e : Endpoint) : Bool := e = { input := e.input, shut := e.shut }

structure Link.Sound (inputs : Side → List UInt8) (w : Link) : Prop where
  call : w.call.Inv
  dirs : ∀ side, (w.call.dir side).Sound (inputs side) (w.ends side).input
  err : w.call.err = none
  ends : ∀ side, (w.ends side).reliable = true
  shut : ∀ side, (w.ends side.other).shut = true → (w.call.dir side).writer.past = true

variable {input rest : List UInt8} {inputs : Side → List UInt8}

theorem Direction.Sound.read {bytes : List UInt8} {err : Option RelayErr} (hs : d.Sound input rest)
    (h : d.Step opts sh (.read bytes err) sh' d') (hb : bytes <+: rest)
    (he : err = none ∨ bytes = rest ∧ err = some .eof) : d'.Sound input (rest.drop bytes.length) := by
  have hrest : bytes ++ rest.drop bytes.length = rest := (List.prefix_iff_eq_append.1 hb)
  have herr : err = none ∨ err = some .eof ∧ rest.drop bytes.length = [] := by
    refine he.imp_right fun h => ⟨h.2, ?_⟩
    rw [h.1, List.drop_length]
  have hok : (decide (err = none) || decide (err = some RelayErr.eof)) = true := by
    rcases he with he | ⟨-, he⟩ <;> rw [he] <;> rfl
  cases h with
  | data => exact ⟨hok, hs.writer, hs.ctxErr, hs.err, by rw [List.append_assoc, hrest, hs.stream], herr⟩
  | noData => exact ⟨hok, hs.writer, hs.ctxErr, hs.err, hs.stream, herr⟩

theorem Direction.Sound.step (hs : d.Sound input rest) (h : d.Step opts sh m sh' d')
    (hr : ∀ bytes err, m ≠ .read bytes err) (ht : m ≠ .enqueueTimeout) (hw : ∀ n e, m ≠ .write n (some e)) :
    d'.Sound input rest := by
  obtain ⟨hreader, hwriter, hctx, herr, hstream, hread⟩ := hs
  cases h with
  | data | noData => exact absurd rfl (hr _ _)
  | expire => exact absurd rfl ht
  | writeErr => exact absurd rfl (hw _ _)
  | stop _ hc | cancelled _ hc => cases hctx.symm.trans hc
  | get hp | next hp => exact ⟨rfl, hwriter, hctx, herr, hstream, hread⟩
  | observe hp | send hp | recycle hp =>
    rw [hp] at hreader
    exact ⟨hreader, hwriter, hctx, herr, hstream, hread⟩
  | handoff hp =>
    rw [hp] at hreader
    exact ⟨hreader, rfl, hctx, herr, hstream, hread⟩
  | @ended e hp =>
    rw [hp] at hreader
    have he : e = .eof := by simpa [ReaderPc.sound] using hreader
    exact ⟨by rw [if_pos he]; rfl, hwriter, hctx, herr, hstream, hread⟩
  | dropStopped hp | dropExpired _ hp =>
    rw [hp] at hreader
    cases hreader
  | close hp =>
    rw [hp] at hreader
    exact ⟨hreader, hwriter, hctx, herr, hstream, hread⟩
  | @reported result hp =>
    rw [hp] at hreader
    obtain rfl : result = none := Option.isNone_iff_eq_none.1 hreader
    exact ⟨rfl, hwriter, hctx, herr, hstream, hread⟩
  | recv | drained | writePart | writeAll => exact ⟨hreader, rfl, hctx, herr, hstream, hread⟩
  | release hp =>
    rw [hp] at hwriter
    exact ⟨hreader, hwriter, hctx, herr, hstream, hread⟩
  | account => exact ⟨hreader, rfl, hctx, herr, hstream, hread⟩
  | writeFailed _ hp =>
    rw [hp] at hwriter
    cases hwriter
  | closeWrite hp =>
    rw [hp] at hwriter
    exact ⟨hreader, hwriter, hctx, herr, hstream, hread⟩
  | @writerReported result hp =>
    rw [hp] at hwriter
    obtain rfl : result = none := Option.isNone_iff_eq_none.1 hwriter
    exact ⟨hreader, rfl, hctx, herr, hstream, hread⟩

theorem step_past (h : d.Step opts sh m sh' d') (hw : d.writer.past = true) : d'.writer.past = true := by
  cases h with
  | handoff _ hp | recv hp | drained hp | cancelled hp | writePart hp | writeAll hp | writeErr _ hp | release hp
  | account hp | writeFailed _ hp =>
    rw [hp] at hw
    cases hw
  | reported => simpa using hw
  | closeWrite | writerReported => rfl
  | _ => exact hw

theorem writing_not_past {n : Nat} {err : Option RelayErr} (h : d.Step opts sh (.write n err) sh' d') :
    d.writer.past = false := by
  cases h with
  | writePart hp | writeAll hp | writeErr _ hp =>
    rw [hp]
    rfl

theorem closing_past (h : d.Step opts sh .writer sh' d') (hw : d.writer.closing = true) : d'.writer.past = true := by
  cases h with
  | release hp | account hp | writeFailed _ hp | writerReported hp =>
    rw [hp] at hw
    cases hw
  | closeWrite => rfl

@[simp] theorem Side.other_other (side : Side) : side.other.other = side := by cases side <;> rfl

namespace Link

/-! ## The ends after a step -/

/-- What a step of the call makes of an end. -/
inductive EndMove (w : Link) (l : TwoWayLabel) (side : Side) (e : Endpoint) : Prop
  | same (hr : ∀ bytes err, l ≠ .move side (.read bytes err)) (he : e = w.ends side)
  | produced (bytes : List UInt8) (err : Option RelayErr) (hl : l = .move side (.read bytes err))
      (he : e = (w.ends side).produced bytes.length)
  | closeWrite (hl : l = .move side.other .writer) (hw : (w.call.dir side.other).writer.closing = true)
      (he : e = (w.ends side).closeWrite)

theorem endsAfter_move (w : Link) (l : TwoWayLabel) (side : Side) : EndMove w l side (w.endsAfter l side) := by
  unfold endsAfter
  split
  · rename_i side' bytes err
    split
    · rename_i hs
      exact .produced bytes err (by rw [hs]) rfl
    · rename_i hs
      exact .same (fun bytes err h => hs (by cases h; rfl)) rfl
  · rename_i side'
    split
    · rename_i hs
      exact .closeWrite (by rw [hs.1]) (hs.1 ▸ hs.2) rfl
    · exact .same (fun bytes err h => by cases h) rfl
  · rename_i hread hwriter
    exact .same (fun bytes err h => hread side bytes err h) rfl

theorem endsAfter_reliable (h : ∀ side, (w.ends side).reliable = true) (l : TwoWayLabel) (side : Side) :
    (w.endsAfter l side).reliable = true := by
  have hplain := of_decide_eq_true (h side)
  cases endsAfter_move w l side with
  | same _ he =>
    rw [he]
    exact h side
  | produced bytes err hl he =>
    rw [he, hplain]
    exact decide_eq_true rfl
  | closeWrite hl hw he =>
    rw [he, hplain]
    exact decide_eq_true rfl

/-! ## Every step keeps it so -/

theorem Sound.answered {l l' : TwoWayLabel} (hs : w.Sound inputs) (h : w.answered l = some l') :
    l' = l ∧ (∀ side bytes err, l = .move side (.read bytes err) →
      bytes <+: (w.ends side).input ∧ (err = none ∨ bytes = (w.ends side).input ∧ err = some .eof)) ∧
    ∀ side n err, l = .move side (.write n err) → (w.call.dir side).writer.past = false → err = none := by
  have hplain := fun side => of_decide_eq_true (hs.ends side)
  unfold Link.answered at h
  split at h
  · rename_i side bytes err
    split at h
    · rename_i hreads
      cases h
      rw [hplain side] at hreads
      refine ⟨by rw [hplain side]; rfl, ?_, fun _ _ _ h => by cases h⟩
      rintro _ _ _ ⟨⟩
      simpa [Endpoint.reads] using hreads
    · cases h
  · rename_i side n err
    split at h
    · rename_i hwrites
      cases h
      refine ⟨rfl, fun _ _ _ h => (by cases h), ?_⟩
      rintro _ _ _ ⟨⟩ hpast
      have hopen : (w.ends side.other).shut = false := by
        cases hsh : (w.ends side.other).shut with
        | false => rfl
        | true => exact absurd (hs.shut side hsh) (by rw [hpast]; exact Bool.false_ne_true)
      rw [hplain side.other, hopen] at hwrites
      simpa [Endpoint.writes] using hwrites
    · cases h
  · rename_i hread hwrite
    cases h
    exact ⟨rfl, fun side bytes err h => absurd h (hread side bytes err),
      fun side n err h => absurd h (hwrite side n err)⟩

theorem Sound.timedOut (hs : w.Sound inputs) : w.call.timedOut = false := by
  cases ht : w.call.timedOut with
  | false => rfl
  | true =>
    obtain ⟨side, hside⟩ := TwoWay.timedOut_iff.1 ht
    rcases (hs.dirs side).readErr with h | ⟨h, -⟩ <;> rw [h] at hside <;> cases hside

theorem Sound.harmless {l : TwoWayLabel} (hs : w.Sound inputs) (hl : calm (.call l) = true) :
    w.call.harmless l = true := by
  unfold TwoWay.harmless
  split
  · rename_i side bytes err
    have herr : err ≠ some .timeout := by simpa [calm] using hl
    simp [hs.timedOut, herr]
  · cases hl
  · rfl

theorem Sound.dirs_step {l : TwoWayLabel} (hs : w.Sound inputs) (hl : calm (.call l) = true)
    (hread : ∀ side bytes err, l = .move side (.read bytes err) →
      bytes <+: (w.ends side).input ∧ (err = none ∨ bytes = (w.ends side).input ∧ err = some .eof))
    (hwrite : ∀ side n err, l = .move side (.write n err) → (w.call.dir side).writer.past = false → err = none)
    (hc : w.call.step {} l = some c') (side : Side) : (c'.dir side).Sound (inputs side) (w.endsAfter l side).input := by
  have hkept : (∀ bytes err, l ≠ .move side (.read bytes err)) →
      (w.endsAfter l side).input = (w.ends side).input := by
    intro hr
    cases endsAfter_move w l side with
    | same _ he => rw [he]
    | produced bytes err hl => exact absurd hl (hr bytes err)
    | closeWrite _ _ he =>
      rw [he, Endpoint.closeWrite]
      split <;> rfl
  rcases TwoWay.step_dir hc side with ⟨he, hm⟩ | ⟨m, rfl, hm⟩ | ⟨e, -, rfl | ⟨side', he⟩⟩
  · rw [he, hkept fun bytes err => hm _]
    exact hs.dirs side
  · by_cases hr : ∃ bytes err, m = .read bytes err
    · obtain ⟨bytes, err, rfl⟩ := hr
      obtain ⟨hb, he⟩ := hread side bytes err rfl
      have hinput : (w.endsAfter (.move side (.read bytes err)) side).input =
          (w.ends side).input.drop bytes.length := by
        simp [endsAfter, Endpoint.produced]
      rw [hinput]
      exact (hs.dirs side).read hm hb he
    · rw [hkept fun bytes err he => hr ⟨bytes, err, by cases he; rfl⟩]
      refine (hs.dirs side).step hm (fun bytes err he => hr ⟨bytes, err, he⟩) ?_ ?_
      · rintro rfl
        cases hl
      · rintro n e rfl
        cases hwrite side n (some e) rfl (writing_not_past hm)
  · cases hl
  · exact absurd (hs.dirs side').err he

theorem Sound.shut_step {l : TwoWayLabel} (hs : w.Sound inputs) (hc : w.call.step {} l = some c') {side : Side}
    (h : (w.endsAfter l side.other).shut = true) : (c'.dir side).writer.past = true := by
  have hpast : (w.ends side.other).shut = true → (c'.dir side).writer.past = true := by
    intro hsh
    rcases TwoWay.step_dir hc side with ⟨he, -⟩ | ⟨m, -, hm⟩ | ⟨e, he, -⟩
    · rw [he]
      exact hs.shut side hsh
    · exact step_past hm (hs.shut side hsh)
    · rw [he]
      exact hs.shut side hsh
  cases endsAfter_move w l side.other with
  | same _ he => exact hpast (he ▸ h)
  | produced bytes err _ he => exact hpast (by rw [he] at h; exact h)
  | closeWrite hl hw _ =>
    rw [Side.other_other] at hl hw
    rcases TwoWay.step_dir hc side with ⟨-, hne⟩ | ⟨m, hm, hstep⟩ | ⟨e, -, hcancel | ⟨side', he⟩⟩
    · exact absurd hl (hne _)
    · cases hm.symm.trans hl
      exact closing_past hstep hw
    · cases hcancel.symm.trans hl
    · exact absurd (hs.dirs side').err he

theorem Sound.step {l : LinkLabel} (hs : w.Sound inputs) (hl : calm l = true) (h : w.step l = some w') :
    w'.Sound inputs := by
  cases l with
  | closer =>
    simp only [Link.step] at h
    split at h
    · rename_i hdone
      exact absurd hdone (by simp [hs.err, hs.call.caller])
    · cases h
  | call l =>
    obtain ⟨l', hans, hc, hends⟩ := step_call h
    obtain ⟨rfl, hread, hwrite⟩ := hs.answered hans
    have hnone : ¬∃ side, (w.call.dir side).err ≠ none := fun ⟨side, he⟩ => he (hs.dirs side).err
    refine ⟨TwoWay.inv_step hs.call (hs.harmless hl) hc, fun side => ?_, ?_, fun side => ?_, fun side hsh => ?_⟩
    · rw [hends]
      exact hs.dirs_step hl hread hwrite hc side
    · rcases TwoWay.step_err hc with he | he
      · rw [he, hs.err]
      · exact absurd he hnone
    · rw [hends]
      exact endsAfter_reliable hs.ends l' side
    · rw [hends] at hsh
      exact hs.shut_step hc hsh

theorem sound_start {pool : BufferPool} {others : List Nat} (ho : pool.Owns others) {ends : Side → Endpoint}
    (hends : ∀ side, ends side = { input := inputs side }) :
    (bidirectionalWithIdleTimeout pool others ends).Sound inputs := by
  obtain rfl : ends = fun side => { input := inputs side } := funext hends
  exact ⟨TwoWay.inv_init ho, fun side => ⟨rfl, rfl, rfl, rfl, rfl, .inl rfl⟩, rfl, fun side => decide_eq_true rfl,
    fun side h => by cases h⟩

/-- A call where nothing fails returns nil, with the whole streams delivered. -/
theorem Sound.outcome (hs : w.Sound inputs) (hr : w.call.result ≠ none) :
    w.call.result = some none ∧ ∀ side, (w.call.dir side).written = inputs side := by
  have hover : (w.call.finished .sent && w.call.finished .received) = true := by
    cases h : (w.call.finished .sent && w.call.finished .received) with
    | true => rfl
    | false => exact absurd (by simp [TwoWay.result, h]) hr
  refine ⟨by simp [TwoWay.result, hover, hs.err], fun side => ?_⟩
  have hfinished : w.call.finished side = true := by
    rw [Bool.and_eq_true] at hover
    cases side with
    | sent => exact hover.1
    | received => exact hover.2
  have hdir := hs.dirs side
  obtain ⟨heof, hwritten, -⟩ := (hs.call.dirs side).delivered (hs.call.finished side hfinished).1 hdir.err
  rcases hdir.readErr with h | ⟨-, h⟩
  · cases h.symm.trans heof
  · rw [hwritten, ← hdir.stream, h, List.append_nil]

end Link

end TunnelEdge.Relay
