import TunnelEdge.Gateway.AccessControl
import TunnelEdge.Gateway.Reach
import TunnelEdge.Stream.Manager
/-!
# Public connections

`handlePublicConnection` (`internal/gateway/public_handler.go`) on top of the
gateways of `World`: any number of public calls, each a goroutine of its own,
beside the goroutines of the agents' connections, with the stream manager of
each gateway. A call starts when its TLS handshake is done and has named a host.

A call keeps the pointer that `getTunnel` gave it and reads `suspended` and
`conn` through it without a lock. As long as the entry is in the map the call
sees what others write into it; once `addTunnel` has overwritten the entry, or a
removal has deleted it, nobody writes to that record any more.
-/

namespace TunnelEdge.Gateway

open GoLib Store Registry Streams

variable {σ : Type}

structure Limits where
  maxStreams : Int := 0
  maxStreamsPerTunnel : Int := 0
deriving DecidableEq, Repr

/-- The `*activeTunnel` of a call: the entry in the map, or a record that has left it. -/
inductive RecordRef
  | shared
  | detached (conn : Option ConnID) (suspended : Bool)
deriving DecidableEq, Repr

/-- What a call with a record does next: look at it, the two limits, the rules, `OpenStreamSync`. -/
inductive CallStage
  | check | limit | limitPerTunnel | acl | openStream
deriving DecidableEq, Repr

inductive CallPc
  | routing (hostname : String)
  | fetching (t label : String)
  | holding (stage : CallStage) (t label : String) (ref : RecordRef)
  | labelling (t label : String)
  | registering (t : String)
  | relaying (id : String)
  | closing (id : String)
  | ended
deriving DecidableEq, Repr

structure PublicCall where
  gateway : String
  client : String
  pc : CallPc
deriving DecidableEq, Repr

/-- What a step of a call gets from outside: whether the peer or the raw stream
went along, the rules that `List` returned, and the stream id that was drawn. -/
structure CallAnswer where
  ok : Bool := true
  listed : Option (Except String (List TunnelACL)) := none
  id : String := ""

/-- The gateways with their public side. `owing` are the goroutines that call
`CloseByTunnel` next, with the tunnel. -/
structure Front (σ : Type) where
  world : World σ
  streams : String → Manager := fun _ => {}
  calls : List PublicCall := []
  owing : ConnID → Role → Option String := fun _ _ => none

structure FrontEnv (σ : Type) where
  env : Env σ
  limits : String → Limits := fun _ => {}
  net : NetIP := .v4

inductive FrontLabel
  | world (l : Label)
  | closeByTunnel (c : ConnID) (r : Role)
  /-- `CloseAll` of a gateway that shuts down. -/
  | closeAll (g : String)
  /-- A client names `hostname` to gateway `g`. -/
  | accept (g hostname client : String)
  | call (i : Nat) (answer : CallAnswer)

/-! ## Records -/

/-- `at.conn` and `at.suspended` as the call reads them. -/
def World.record (w : World σ) (g t : String) : RecordRef → Option ConnID × Bool
  | .shared =>
    match (w.gateway g).tunnels.lookup t with
    | some at_ => (at_.conn, at_.suspended)
    | none => (none, false)
  | .detached conn suspended => (conn, suspended)

def reached (limit : Int) (count : Nat) : Bool := 0 < limit && limit ≤ count

/-! ## What a step of the gateways means to the calls -/

/-- The entry that leaves the map in this step: its gateway and its tunnel. -/
def leaving (w : World σ) : Label → Option (String × String)
  | .run c r _ =>
    match w.pc c r with
    | .install a _ _ => some (w.home c, a.tunnelID)
    | .take t _ => some (w.home c, t)
    | _ => none
  | _ => none

/-- A record that leaves the map stays with the calls that hold it. -/
def PublicCall.detach (w : World σ) (l : Label) (call : PublicCall) : PublicCall :=
  match call.pc with
  | .holding stage t label .shared =>
    if leaving w l = some (call.gateway, t) then
      let (conn, suspended) := w.record call.gateway t .shared
      { call with pc := .holding stage t label (.detached conn suspended) }
    else call
  | _ => call

/-- `suspendTunnel` and the removals call `CloseByTunnel` after their locked section. -/
def owed (p q : Pc) : Option String :=
  match p, q with
  | .suspend t, .storeResume _ _ => some t
  | .dropRoutes t _ _, _ => some t
  | _, _ => none

namespace Front

/-! ## Steps -/

def setStreams (s : Front σ) (g : String) (m : Manager) : Front σ :=
  { s with streams := Function.update s.streams g m }

def stepHolding (fenv : FrontEnv σ) (s : Front σ) (call : PublicCall) (answer : CallAnswer) (t label : String)
    (ref : RecordRef) : CallStage → Front σ × CallPc
  | .check =>
    let (conn, suspended) := s.world.record call.gateway t ref
    (s, if suspended || conn.isNone then .ended else .holding .limit t label ref)
  | .limit =>
    if reached (fenv.limits call.gateway).maxStreams ((s.streams call.gateway).countByTunnel t) then (s, .ended)
    else (s, .holding .limitPerTunnel t label ref)
  | .limitPerTunnel =>
    if reached (fenv.limits call.gateway).maxStreamsPerTunnel ((s.streams call.gateway).countByTunnel t) then
      (s, .ended)
    else (s, .holding .acl t label ref)
  | .acl => (s, if aclCheck fenv.net answer.listed call.client then .holding .openStream t label ref else .ended)
  | .openStream =>
    match (s.world.record call.gateway t ref).1 with
    -- `at.conn.OpenStreamSync` on a nil connection
    | none =>
      ({ s with world := s.world.updateGateway call.gateway fun gw => { gw with crashed := true } }, .ended)
    | some _ => (s, if answer.ok then .labelling t label else .ended)

def stepCall (fenv : FrontEnv σ) (s : Front σ) (call : PublicCall) (answer : CallAnswer) : CallPc → Front σ × CallPc
  | .routing hostname =>
    -- a host of a peer is forwarded there, and ends here as an unknown one does
    match (s.world.gateway call.gateway).router.lookupWithLabel hostname with
    | none => (s, .ended)
    | some (t, label) => (s, .fetching t label)
  | .fetching t label =>
    match (s.world.gateway call.gateway).tunnels.lookup t with
    | none => (s, .ended)
    | some _ => (s, .holding .check t label .shared)
  | .holding stage t label ref => s.stepHolding fenv call answer t label ref stage
  | .labelling t _ => (s, if answer.ok then .registering t else .ended)
  | .registering t =>
    (s.setStreams call.gateway ((s.streams call.gateway).openStream answer.id t), .relaying answer.id)
  | .relaying id => (s, .closing id)
  | .closing id => (s.setStreams call.gateway ((s.streams call.gateway).close id (!answer.ok)), .ended)
  | .ended => (s, .ended)

def stepWorld (fenv : FrontEnv σ) (s : Front σ) (l : Label) : Option (Front σ) :=
  (s.world.step fenv.env l).map fun w =>
    { s with
      world := w
      calls := s.calls.map (PublicCall.detach s.world l)
      owing := match l with
        | .run c r _ => Function.update s.owing c (Function.update (s.owing c) r (owed (s.world.pc c r) (w.pc c r)))
        | _ => s.owing }

/-- The goroutine of the label has `CloseByTunnel` ahead of it. -/
def blocked (s : Front σ) : Label → Bool
  | .run c r _ => (s.owing c r).isSome
  | _ => false

def step (fenv : FrontEnv σ) (s : Front σ) : FrontLabel → Option (Front σ)
  | .world l => if s.blocked l then none else s.stepWorld fenv l
  | .closeByTunnel c r =>
    match s.owing c r with
    | none => none
    | some t =>
      let g := s.world.home c
      if (s.world.gateway g).crashed then none
      else
        some { s.setStreams g ((s.streams g).closeByTunnel t) with
          owing := Function.update s.owing c (Function.update (s.owing c) r none) }
  | .closeAll g => if (s.world.gateway g).crashed then none else some (s.setStreams g (s.streams g).closeAll)
  | .accept g hostname client =>
    if (s.world.gateway g).crashed then none
    else some { s with calls := s.calls ++ [⟨g, client, .routing hostname⟩] }
  | .call i answer =>
    match s.calls[i]? with
    | none => none
    | some call =>
      if call.pc = .ended ∨ (s.world.gateway call.gateway).crashed then none
      else
        let o := s.stepCall fenv call answer call.pc
        some { o.1 with calls := o.1.calls.set i { call with pc := o.2 } }

/-- Fresh gateways, a registry without leases, and nobody connected. -/
def init (fenv : FrontEnv σ) (start : Time) (store : σ) : Front σ := { world := .init fenv.env start store }

/-! ## What a step does -/

/-- Where a call can go from a program counter, and what it has seen when it goes on. -/
inductive CallNext (fenv : FrontEnv σ) (s : Front σ) (g : String) : CallPc → CallPc → Prop
  | ended (p : CallPc) : CallNext fenv s g p .ended
  | route (hostname t label : String) : CallNext fenv s g (.routing hostname) (.fetching t label)
  | fetch (t label : String) (at_ : ActiveTunnel) (hl : (s.world.gateway g).tunnels.lookup t = some at_) :
      CallNext fenv s g (.fetching t label) (.holding .check t label .shared)
  | check (t label : String) (ref : RecordRef) (hc : (s.world.record g t ref).1 ≠ none) :
      CallNext fenv s g (.holding .check t label ref) (.holding .limit t label ref)
  | limit (t label : String) (ref : RecordRef)
      (hr : reached (fenv.limits g).maxStreams ((s.streams g).countByTunnel t) = false) :
      CallNext fenv s g (.holding .limit t label ref) (.holding .limitPerTunnel t label ref)
  | limitPerTunnel (t label : String) (ref : RecordRef)
      (hr : reached (fenv.limits g).maxStreamsPerTunnel ((s.streams g).countByTunnel t) = false) :
      CallNext fenv s g (.holding .limitPerTunnel t label ref) (.holding .acl t label ref)
  | acl (t label : String) (ref : RecordRef) :
      CallNext fenv s g (.holding .acl t label ref) (.holding .openStream t label ref)
  | openStream (t label : String) (ref : RecordRef) :
      CallNext fenv s g (.holding .openStream t label ref) (.labelling t label)
  | label (t label : String) : CallNext fenv s g (.labelling t label) (.registering t)
  | register (t id : String) : CallNext fenv s g (.registering t) (.relaying id)
  | relayed (id : String) : CallNext fenv s g (.relaying id) (.closing id)

/-- The four kinds of steps; in the last, `call` is the one that moves. -/
inductive FrontMove (fenv : FrontEnv σ) (s s' : Front σ) : FrontLabel → Prop
  | world (l : Label) (hw : s.world.step fenv.env l = some s'.world) (hs : s'.streams = s.streams)
      (hc : s'.calls = s.calls.map (PublicCall.detach s.world l)) : FrontMove fenv s s' (.world l)
  | drop (l : FrontLabel) (hw : s'.world = s.world) (hc : s'.calls = s.calls)
      (hs : ∀ g t, (s'.streams g).countByTunnel t ≤ (s.streams g).countByTunnel t)
      (hl : (∃ c r, l = .closeByTunnel c r) ∨ ∃ g, l = .closeAll g) : FrontMove fenv s s' l
  | accept (g hostname client : String) (hw : s'.world = s.world) (hs : s'.streams = s.streams)
      (hc : s'.calls = s.calls ++ [⟨g, client, .routing hostname⟩]) : FrontMove fenv s s' (.accept g hostname client)
  | call (i : Nat) (answer : CallAnswer) (call : PublicCall) (hi : s.calls[i]? = some call)
      (hw : s'.world = (s.stepCall fenv call answer call.pc).1.world)
      (hs : s'.streams = (s.stepCall fenv call answer call.pc).1.streams)
      (hc : s'.calls = s.calls.set i { call with pc := (s.stepCall fenv call answer call.pc).2 }) :
      FrontMove fenv s s' (.call i answer)

section Moves

variable (fenv : FrontEnv σ) (s : Front σ) {s' : Front σ}

theorem stepCall_next (call : PublicCall) (answer : CallAnswer) (p : CallPc) :
    CallNext fenv s call.gateway p (s.stepCall fenv call answer p).2 := by
  cases p with
  | routing hostname =>
    simp only [stepCall]
    split
    · exact .ended _
    · exact .route ..
  | fetching t label =>
    simp only [stepCall]
    split
    · exact .ended _
    · exact .fetch t label _ ‹_›
  | holding stage t label ref =>
    cases stage with
    | check =>
      simp only [stepCall, stepHolding]
      split
      · exact .ended _
      · rename_i hc
        refine .check t label ref fun hn => hc ?_
        rw [hn]
        simp
    | limit =>
      simp only [stepCall, stepHolding]
      split
      · exact .ended _
      · exact .limit t label ref (Bool.eq_false_iff.2 ‹_›)
    | limitPerTunnel =>
      simp only [stepCall, stepHolding]
      split
      · exact .ended _
      · exact .limitPerTunnel t label ref (Bool.eq_false_iff.2 ‹_›)
    | acl =>
      simp only [stepCall, stepHolding]
      split
      · exact .acl ..
      · exact .ended _
    | openStream =>
      simp only [stepCall, stepHolding]
      split
      · exact .ended _
      · simp only
        split
        · exact .openStream ..
        · exact .ended _
  | labelling t label =>
    simp only [stepCall]
    split
    · exact .label ..
    · exact .ended _
  | registering t => exact .register t answer.id
  | relaying id => exact .relayed id
  | closing id => exact .ended _
  | ended => exact .ended _

theorem stepCall_calls (call : PublicCall) (answer : CallAnswer) (p : CallPc) :
    (s.stepCall fenv call answer p).1.calls = s.calls := by
  cases p with
  | holding stage t label ref =>
    cases stage <;> simp only [stepCall, stepHolding] <;> split <;> rfl
  | routing | fetching =>
    simp only [stepCall]
    split <;> rfl
  | _ => rfl

variable {s} in
theorem countByTunnel_setStreams_le {g g' t : String} {m : Manager} {n : Nat}
    (h : g' = g → m.countByTunnel t ≤ (s.streams g).countByTunnel t + n) :
    ((s.setStreams g m).streams g').countByTunnel t ≤ (s.streams g').countByTunnel t + n := by
  unfold setStreams
  by_cases hg : g' = g
  · subst hg
    simpa using h rfl
  · simp [Function.update_of_ne hg]

theorem stepCall_streams (call : PublicCall) (answer : CallAnswer) (p : CallPc) (g t : String) :
    ((s.stepCall fenv call answer p).1.streams g).countByTunnel t ≤
      (s.streams g).countByTunnel t + if g = call.gateway ∧ p = .registering t then 1 else 0 := by
  cases p with
  | holding stage t label ref =>
    cases stage <;> simp only [stepCall, stepHolding] <;> split <;> simp
  | routing | fetching =>
    simp only [stepCall]
    split <;> simp
  | registering t' =>
    refine countByTunnel_setStreams_le fun hg => ?_
    subst hg
    simpa [eq_comm] using Manager.countByTunnel_openStream_le (s.streams call.gateway) answer.id t' t
  | closing id =>
    exact countByTunnel_setStreams_le fun hg => hg ▸ Nat.le_add_right_of_le (Manager.countByTunnel_close_le ..)
  | labelling | relaying | ended => exact Nat.le_add_right ..

variable {fenv s} in
theorem step_move {l : FrontLabel} (h : s.step fenv l = some s') : FrontMove fenv s s' l := by
  cases l with
  | world l =>
    simp only [step] at h
    split at h
    · cases h
    · obtain ⟨w, hw, rfl⟩ := Option.map_eq_some_iff.1 h
      exact .world l hw rfl rfl
  | closeByTunnel c r =>
    simp only [step] at h
    split at h
    · cases h
    · split at h
      · cases h
      · cases h
        refine .drop _ rfl rfl (fun g t => ?_) (.inl ⟨c, r, rfl⟩)
        exact countByTunnel_setStreams_le (n := 0) fun _ => Manager.countByTunnel_closeByTunnel_le ..
  | closeAll g =>
    simp only [step] at h
    split at h
    · cases h
    · cases h
      exact .drop _ rfl rfl (fun g' t => countByTunnel_setStreams_le (n := 0) fun _ => Nat.zero_le _) (.inr ⟨g, rfl⟩)
  | accept g hostname client =>
    simp only [step] at h
    split at h
    · cases h
    · cases h
      exact .accept g hostname client rfl rfl rfl
  | call i answer =>
    simp only [step] at h
    split at h
    · cases h
    · rename_i call hi
      split at h
      · cases h
      · cases h
        exact .call i answer call hi rfl rfl (by rw [stepCall_calls])

theorem getElem?_calls_set {calls : List PublicCall} {i j : Nat} {call call' : PublicCall}
    (h : (calls.set i call')[j]? = some call) : j = i ∧ call = call' ∨ j ≠ i ∧ calls[j]? = some call := by
  by_cases hj : i = j
  · subst hj
    rw [List.getElem?_set_self'] at h
    obtain ⟨-, -, rfl⟩ := Option.map_eq_some_iff.1 h
    exact .inl ⟨rfl, rfl⟩
  · rw [List.getElem?_set_ne hj] at h
    exact .inr ⟨Ne.symm hj, h⟩

theorem getElem?_calls_append {calls : List PublicCall} {j : Nat} {call call' : PublicCall}
    (h : (calls ++ [call'])[j]? = some call) : calls[j]? = some call ∨ call = call' := by
  rw [List.getElem?_append] at h
  split at h
  · exact .inl h
  · exact .inr (List.mem_singleton.1 (List.mem_of_getElem? h))

end Moves

end Front

end TunnelEdge.Gateway
