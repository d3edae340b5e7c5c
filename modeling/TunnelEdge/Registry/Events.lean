import TunnelEdge.Domain
import TunnelEdge.Lib.PubSub
import TunnelEdge.Lib.Runs
/-!
# Registry events and the watches on them

`domain.RegistryEvent`, the filter `matchesDomainEvent` of
`internal/registry/server.go`, and what both coordinators do with events:
`Publish` offers one to the channel of every subscriber and drops it where 64
are waiting, and the loop of `Server.Watch` takes them out again and sends those
that pass its filters.

A `Hub` is that part of one registry process. It moves by itself whenever a
publisher or a `Watch` is scheduled; the rest of the process hands it the
events to publish and the snapshots to send.
-/

namespace TunnelEdge.Registry

open GoLib

/-! ## Events -/

/-- `domain.RelayHealth`; a percentage is the bits of its `float64`. -/
structure RelayHealth where
  advertiseAddr : String := ""
  rttMillis : Int := 0
  heartbeatLatencyMillis : Int := 0
  activeTunnels : Int := 0
  activeStreams : Int := 0
  bytesPerSecond : Int := 0
  packetLossPct : UInt64 := 0
  cpuUtilizationPct : UInt64 := 0
  memoryUtilizationPct : UInt64 := 0
  recordedAt : Time := 0
  region : String := ""
deriving DecidableEq, Repr

inductive RegistryEventType
  | tunnelUpserted | tunnelDeleted | leaseAcquired | leaseReleased | relayUpserted | relayHealthUpdated
deriving DecidableEq, Repr

structure RegistryEvent where
  type : RegistryEventType
  tunnel : Option Session := none
  lease : Option Lease := none
  relay : Option RelayInfo := none
  health : Option RelayHealth := none
deriving DecidableEq, Repr

namespace RegistryEvent

def upserted (sess : Session) : RegistryEvent := { type := .tunnelUpserted, tunnel := some sess }

/-- The event of `DeregisterTunnel`: a session with nothing but its id. -/
def deleted (tunnelID : String) : RegistryEvent :=
  { type := .tunnelDeleted, tunnel := some { tunnelID, agentID := "" } }

def acquired (lease : Lease) : RegistryEvent := { type := .leaseAcquired, lease := some lease }

def released (lease : Lease) : RegistryEvent := { type := .leaseReleased, lease := some lease }

def relayUpserted (relay : RelayInfo) : RegistryEvent := { type := .relayUpserted, relay := some relay }

def healthUpdated (relay : Option RelayInfo) (health : RelayHealth) : RegistryEvent :=
  { type := .relayHealthUpdated, relay, health := some health }

/-- The owner, the lease and the heartbeat of a `tunnel_upserted` when it is
read: the event of `RegisterTunnel` points at the session that the memory store
keeps, and `record` is that session if it was written since. -/
def reread (ev : RegistryEvent) (record : Option Session) : RegistryEvent :=
  match ev.type, ev.tunnel, record with
  | .tunnelUpserted, some sess, some r =>
    let sess := { sess with ownerRelayID := r.ownerRelayID, leaseID := r.leaseID, lastHeartbeat := r.lastHeartbeat }
    { ev with tunnel := some sess }
  | _, _, _ => ev

theorem reread_type (ev : RegistryEvent) (record : Option Session) : (ev.reread record).type = ev.type := by
  unfold reread
  split <;> rfl

theorem reread_lease (ev : RegistryEvent) (record : Option Session) : (ev.reread record).lease = ev.lease := by
  unfold reread
  split <;> rfl

theorem reread_tunnelID (ev : RegistryEvent) (record : Option Session) :
    (ev.reread record).tunnel.map Session.tunnelID = ev.tunnel.map Session.tunnelID := by
  unfold reread
  split
  · rename_i ht
    rw [ht]
    rfl
  · rfl

theorem reread_of_ne {ev : RegistryEvent} (h : ev.type ≠ .tunnelUpserted) (record : Option Session) :
    ev.reread record = ev := by
  unfold reread
  split
  · exact absurd ‹_› h
  · rfl

/-- A deletion names its tunnel, and an upserted tunnel has no lease beside it. -/
def Ordinary (ev : RegistryEvent) : Prop :=
  (ev.type = .tunnelDeleted → ev.tunnel ≠ none) ∧ (ev.type = .tunnelUpserted → ev.lease = none)

theorem Ordinary.reread {ev : RegistryEvent} (h : ev.Ordinary) (record : Option Session) :
    (ev.reread record).Ordinary := by
  rw [Ordinary, reread_type, reread_lease]
  refine ⟨fun ht => ?_, h.2⟩
  rw [reread_of_ne (by rw [ht]; exact RegistryEventType.noConfusion)]
  exact h.1 ht

end RegistryEvent

/-- A filter lets a field through when it is empty or equal. -/
def passes (filter field : String) : Bool := filter = "" || field = filter

/-- `matchesDomainEvent`. Relay events ignore the tunnel filter. -/
def matchesDomainEvent (ev : RegistryEvent) (tunnelFilter relayFilter : String) : Bool :=
  if tunnelFilter = "" ∧ relayFilter = "" then true
  else
    match ev.type with
    | .tunnelUpserted | .tunnelDeleted =>
      ev.tunnel.any fun sess => passes tunnelFilter sess.tunnelID && passes relayFilter sess.ownerRelayID
    | .leaseAcquired | .leaseReleased =>
      ev.lease.any fun lease => passes tunnelFilter lease.tunnelID && passes relayFilter lease.relayID
    | .relayUpserted | .relayHealthUpdated => ev.relay.any fun relay => passes relayFilter relay.relayID

@[simp] theorem passes_empty (field : String) : passes "" field = true := by simp [passes]

section Matches

variable (tf rf : String)

/-- What an event with its payload needs to get through; with empty filters nothing is looked at. -/
theorem matches_tunnel {ev : RegistryEvent} {sess : Session} (h : ev.tunnel = some sess)
    (ht : ev.type = .tunnelUpserted ∨ ev.type = .tunnelDeleted) :
    matchesDomainEvent ev tf rf = (passes tf sess.tunnelID && passes rf sess.ownerRelayID) := by
  unfold matchesDomainEvent
  split
  · rename_i he
    rw [he.1, he.2, passes_empty, passes_empty]
    rfl
  · rcases ht with ht | ht <;> simp only [ht, h, Option.any_some]

theorem matches_lease {ev : RegistryEvent} {lease : Lease} (h : ev.lease = some lease)
    (ht : ev.type = .leaseAcquired ∨ ev.type = .leaseReleased) :
    matchesDomainEvent ev tf rf = (passes tf lease.tunnelID && passes rf lease.relayID) := by
  unfold matchesDomainEvent
  split
  · rename_i he
    rw [he.1, he.2, passes_empty, passes_empty]
    rfl
  · rcases ht with ht | ht <;> simp only [ht, h, Option.any_some]

theorem matches_relay {ev : RegistryEvent} {relay : RelayInfo} (h : ev.relay = some relay)
    (ht : ev.type = .relayUpserted ∨ ev.type = .relayHealthUpdated) :
    matchesDomainEvent ev tf rf = passes rf relay.relayID := by
  unfold matchesDomainEvent
  split
  · rename_i he
    rw [he.2, passes_empty]
  · rcases ht with ht | ht <;> simp only [ht, h, Option.any_some]

end Matches

/-! ## Watches -/

/-- A `Watch` handler: its filters, its channel, and what it has sent on its
stream. With `include_existing` it is not `ready` to read the channel before it
has sent the snapshot. -/
structure Watch where
  tunnelFilter : String := ""
  relayFilter : String := ""
  ready : Bool := true
  queue : List RegistryEvent := []
  sent : List RegistryEvent := []
deriving DecidableEq, Repr

namespace Watch

/-- `make(chan domain.RegistryEvent, 64)` -/
def capacity : Nat := 64

def offer (w : Watch) (ev : RegistryEvent) : Watch := { w with queue := GoLib.offer capacity ev w.queue }

/-- One round of the loop: the event is sent if it matches. -/
def send (w : Watch) (ev : RegistryEvent) (rest : List RegistryEvent) : Watch :=
  { w with
    queue := rest
    sent := if matchesDomainEvent ev w.tunnelFilter w.relayFilter then w.sent ++ [ev] else w.sent }

def recv (w : Watch) (record : Option Session) : Option Watch :=
  match w.ready, w.queue with
  | true, ev :: rest => some (w.send (ev.reread record) rest)
  | _, _ => none

end Watch

/-! ## The hub -/

/-- The publishers at work and the watches, in the order in which they started. -/
structure Hub where
  pending : List (List RegistryEvent) := []
  watches : List Watch := []
deriving DecidableEq, Repr

inductive HubLabel
  /-- A handler or a goroutine has the events to publish. -/
  | spawn (events : List RegistryEvent)
  | publish (i : Nat)
  /-- `Publish` inside the step that made the event. -/
  | broadcast (ev : RegistryEvent)
  | subscribe (tunnelFilter relayFilter : String) (includeExisting : Bool)
  | snapshot (k : Nat) (events : List RegistryEvent)
  | recv (k : Nat) (record : Option Session)
deriving DecidableEq, Repr

def HubLabel.events : HubLabel → List RegistryEvent
  | .spawn events | .snapshot _ events => events
  | .broadcast ev => [ev]
  | _ => []

def HubLabel.spawned : HubLabel → List RegistryEvent
  | .spawn events => events
  | _ => []

namespace Hub

def step (h : Hub) : HubLabel → Option Hub
  | .spawn events => some { h with pending := h.pending ++ [events] }
  | .publish i => (next h.pending i).map fun r => ⟨r.2, h.watches.map (·.offer r.1)⟩
  | .broadcast ev => some { h with watches := h.watches.map (·.offer ev) }
  | .subscribe tunnelFilter relayFilter includeExisting =>
    some { h with watches := h.watches ++ [{ tunnelFilter, relayFilter, ready := !includeExisting }] }
  | .snapshot k events =>
    match h.watches[k]? with
    | none => none
    | some w =>
      if w.ready then none
      else some { h with watches := h.watches.set k { w with ready := true, sent := w.sent ++ events } }
  | .recv k record =>
    match h.watches[k]? with
    | none => none
    | some w => (w.recv record).map fun w' => { h with watches := h.watches.set k w' }

/-- Watch `k` has room for an event that is published now. -/
def roomy (k : Nat) (h : Hub) : HubLabel → Bool
  | .publish _ | .broadcast _ => (h.watches[k]?).all fun w => w.queue.length < Watch.capacity
  | _ => true

/-- Nothing is left to publish, and watch `k` has taken all it was offered. -/
structure Idle (k : Nat) (h : Hub) : Prop where
  published : h.pending.flatten = []
  drained : ∀ w ∈ h.watches[k]?, w.queue = []

instance (k : Nat) (h : Hub) : Decidable (Idle k h) :=
  decidable_of_iff (h.pending.flatten = [] ∧ ∀ w ∈ h.watches[k]?, w.queue = [])
    ⟨fun hi => ⟨hi.1, hi.2⟩, fun hi => ⟨hi.published, hi.drained⟩⟩

/-- Between `h` and `h'` watch `k` sent an event with `p`. -/
def Delivered (k : Nat) (p : RegistryEvent → Prop) (h h' : Hub) : Prop :=
  ∃ w w' news, h.watches[k]? = some w ∧ h'.watches[k]? = some w' ∧ w'.sent = w.sent ++ news ∧ ∃ ev ∈ news, p ev

/-! ## What a step does to one watch -/

/-- The publishers and one watch before and after a step. -/
inductive Move (h h' : Hub) (k : Nat) (w : Watch) : HubLabel → Watch → Prop
  | spawn (events : List RegistryEvent) (hp : h'.pending = h.pending ++ [events]) : Move h h' k w (.spawn events) w
  | publish (i : Nat) (ev : RegistryEvent) (hn : next h.pending i = some (ev, h'.pending)) :
      Move h h' k w (.publish i) (w.offer ev)
  | broadcast (ev : RegistryEvent) (hp : h'.pending = h.pending) : Move h h' k w (.broadcast ev) (w.offer ev)
  | snapshot (events : List RegistryEvent) (hr : w.ready = false) (hp : h'.pending = h.pending) :
      Move h h' k w (.snapshot k events) { w with ready := true, sent := w.sent ++ events }
  | recv (record : Option Session) (ev : RegistryEvent) (rest : List RegistryEvent) (hq : w.queue = ev :: rest)
      (hp : h'.pending = h.pending) (hr : w.ready = true) :
      Move h h' k w (.recv k record) (w.send (ev.reread record) rest)
  | other (l : HubLabel) (hl : l.spawned = []) (hp : h'.pending = h.pending) : Move h h' k w l w

section Step

variable {h h' : Hub} {l : HubLabel} {k : Nat} {w : Watch}

theorem getElem?_set_cases {ws : List Watch} (j : Nat) (w' : Watch) (hk : ws[k]? = some w) :
    (j = k ∧ (ws.set j w')[k]? = some w') ∨ (j ≠ k ∧ (ws.set j w')[k]? = some w) := by
  by_cases hj : j = k
  · subst hj
    obtain ⟨hlt, -⟩ := List.getElem?_eq_some_iff.1 hk
    exact .inl ⟨rfl, List.getElem?_set_self hlt⟩
  · exact .inr ⟨hj, (List.getElem?_set_ne hj).trans hk⟩

theorem step_move (hs : h.step l = some h') (hk : h.watches[k]? = some w) :
    ∃ w', h'.watches[k]? = some w' ∧ Move h h' k w l w' := by
  cases l with
  | spawn events =>
    cases hs
    exact ⟨w, hk, .spawn events rfl⟩
  | publish i =>
    obtain ⟨⟨ev, pending⟩, hn, rfl⟩ := Option.map_eq_some_iff.1 hs
    exact ⟨w.offer ev, by simp [hk], .publish i ev hn⟩
  | broadcast ev =>
    cases hs
    exact ⟨w.offer ev, by simp [hk], .broadcast ev rfl⟩
  | subscribe tf rf inc =>
    cases hs
    obtain ⟨hlt, -⟩ := List.getElem?_eq_some_iff.1 hk
    exact ⟨w, (List.getElem?_append_left hlt).trans hk, .other _ rfl rfl⟩
  | snapshot j events =>
    simp only [step] at hs
    split at hs
    · cases hs
    · rename_i u hu
      split at hs
      · cases hs
      · rename_i hr
        cases hs
        rcases getElem?_set_cases j { u with ready := true, sent := u.sent ++ events } hk with
          ⟨rfl, hj⟩ | ⟨-, hj⟩
        · rw [hk] at hu
          cases hu
          exact ⟨_, hj, .snapshot events (by simpa using hr) rfl⟩
        · exact ⟨w, hj, .other _ rfl rfl⟩
  | recv j record =>
    simp only [step] at hs
    split at hs
    · cases hs
    · rename_i u hu
      obtain ⟨u', hu', rfl⟩ := Option.map_eq_some_iff.1 hs
      rcases getElem?_set_cases j u' hk with ⟨rfl, hj⟩ | ⟨-, hj⟩
      · rw [hk] at hu
        cases hu
        refine ⟨u', hj, ?_⟩
        unfold Watch.recv at hu'
        split at hu'
        · cases hu'
          exact .recv record _ _ ‹_› rfl ‹_›
        · cases hu'
      · exact ⟨w, hj, .other _ rfl rfl⟩

end Step

end Hub

end TunnelEdge.Registry
