import TunnelEdge.Registry.Server
import TunnelEdge.Registry.Events
/-!
# A registry process

A `Server` over a `MemCoordinator`, with everything in it that publishes or
watches: the tunnel handlers and the cleanup tick of `server.go`, the lease and
health operations of `mem_coordinator.go`, and any number of `Watch` handlers.

A handler changes the state in one step and leaves the events it has to publish
to a publisher of the hub: `RegisterTunnel` publishes after the store's lock is
gone, the lease operations in a goroutine of their own. Every operation brings
the time at which it reads the clock.
-/

namespace TunnelEdge.Registry

open GoLib Store

/-! ## Snapshots and relay health of the coordinator -/

namespace MemCoordinator

/-- `MemCoordinator.Snapshot`; the `relayHealth` map is kept beside the lease tables. -/
def snapshot (m : MemCoordinator) (relayHealth : GoMap String RelayHealth) (now : Time) (tunnelID relayID : String) :
    List RegistryEvent :=
  (GoMap.values (fun _ lease => !(lease.expiresAt < now) && passes tunnelID lease.tunnelID &&
    passes relayID lease.relayID) m.leasesByID).map .acquired ++
  (GoMap.values (fun _ relay => passes relayID relay.relayID) m.relays).map .relayUpserted ++
  (relayHealth.entries.filter fun e => passes relayID e.1).map fun e => .healthUpdated (m.relays.lookup e.1) e.2

/-- `ensureRelayLocked`, without the write. -/
def ensureRelay (m : MemCoordinator) (now : Time) (relayID : String) : RelayInfo :=
  (m.relays.lookup relayID).getD
    { relayID, advertiseAddr := "", state := "active", activeTunnels := 0, activeStreams := 0, lastSeen := now,
      region := "" }

/-- The relay that `ReportRelayHealth` stores. -/
def reported (m : MemCoordinator) (now : Time) (relayID advertiseAddr : String) (health : RelayHealth) : RelayInfo :=
  let relay := m.ensureRelay now relayID
  { relay with
    activeTunnels := health.activeTunnels
    activeStreams := health.activeStreams
    lastSeen := health.recordedAt
    advertiseAddr := if advertiseAddr = "" then relay.advertiseAddr else advertiseAddr }

def leaseOf (m : MemCoordinator) (tunnelID : String) : Option Lease :=
  (GoMap.values (fun _ lease => lease.tunnelID = tunnelID) m.leasesByID).head?

/-- `CurrentLease` of the tunnel would not meet an expired lease. -/
def unexpired (m : MemCoordinator) (now : Time) (tunnelID : String) : Bool :=
  (m.leaseOf tunnelID).all fun lease => ¬ lease.expiresAt < now

end MemCoordinator

/-! ## The tunnel handlers -/

inductive TunnelOp
  | registerTunnel (now : Time) (tunnelID agentID publicAddr localAddr : String)
  | deregisterTunnel (now : Time) (tunnelID : String)
  | getTunnel (now : Time) (tunnelID : String)
  | listTunnels (now : Time)
  | heartbeat (now : Time) (tunnelID : String)
  /-- The session half of a `cleanupLoop` tick. -/
  | cleanupExpired (now : Time)
deriving DecidableEq, Repr

namespace Server

variable {σ : Type} (repo : SessionRepository σ)

/-- The session that `RegisterTunnel` builds. -/
def newSession (s : Server σ) (now : Time) (tunnelID agentID publicAddr localAddr : String) : Session :=
  let lease := (s.coord.currentLease now tunnelID).2
  { tunnelID, agentID, localAddr, publicAddr
    ownerRelayID := (lease.map Lease.relayID).getD ""
    leaseID := (lease.map Lease.leaseID).getD "" }

/-- What `GetTunnel`, `ListTunnels` and the snapshot do with a session they got
from the store: the owner that `CurrentLease` reports is written into it. -/
def refresh (s : Server σ) (now : Time) (sess : Session) : Server σ × Session :=
  match s.coord.currentLease now sess.tunnelID with
  | (coord, none) => ({ s with coord }, sess)
  | (coord, some lease) =>
    (⟨coord, repo.setOwner s.store sess.tunnelID lease.relayID lease.leaseID⟩,
      { sess with ownerRelayID := lease.relayID, leaseID := lease.leaseID })

/-- The loop of `ListTunnels` and of the snapshot. -/
def refreshAll (now : Time) : Server σ → List Session → Server σ × List Session
  | s, [] => (s, [])
  | s, sess :: rest =>
    let (s, sess) := s.refresh repo now sess
    let (s, rest) := refreshAll now s rest
    (s, sess :: rest)

def tunnelOp (sessionTTL : Duration) (s : Server σ) : TunnelOp → Server σ × List RegistryEvent
  | .registerTunnel now tunnelID agentID publicAddr localAddr =>
    ((s.registerTunnel repo now tunnelID agentID publicAddr localAddr).1,
      match (repo.register s.store now (s.newSession now tunnelID agentID publicAddr localAddr)).2 with
      | .ok sess => [.upserted sess]
      | .error _ => [])
  | .deregisterTunnel now tunnelID =>
    match s.deregisterTunnel repo now tunnelID with
    | (s, .ok _) => (s, [.deleted tunnelID])
    | (s, .error _) => (s, [])
  | .getTunnel now tunnelID =>
    match repo.get s.store tunnelID with
    | .error _ => (s, [])
    | .ok sess => ((s.refresh repo now sess).1, [])
  | .listTunnels now => ((s.refreshAll repo now (repo.list s.store)).1, [])
  | .heartbeat now tunnelID => ((s.heartbeat repo now tunnelID).1, [])
  | .cleanupExpired now => (s.cleanupExpired repo now sessionTTL, [])

/-- `sendSnapshot`: what it sends on the stream. -/
def sendSnapshot (s : Server σ) (relayHealth : GoMap String RelayHealth) (now : Time)
    (tunnelFilter relayFilter : String) : Server σ × List RegistryEvent :=
  let sessions := (repo.list s.store).filter fun sess => passes tunnelFilter sess.tunnelID
  let (s, sessions) := s.refreshAll repo now sessions
  (s, (sessions.filter fun sess => passes relayFilter sess.ownerRelayID).map .upserted ++
    s.coord.snapshot relayHealth now tunnelFilter relayFilter)

end Server

/-- The tunnels whose lease a handler looks up with `CurrentLease`. -/
def TunnelOp.asks {σ : Type} (repo : SessionRepository σ) (s : Server σ) : TunnelOp → Time × List String
  | .registerTunnel now tunnelID _ _ _ => (now, [tunnelID])
  | .getTunnel now tunnelID => (now, ((repo.get s.store tunnelID).toOption.map Session.tunnelID).toList)
  | .listTunnels now => (now, (repo.list s.store).map Session.tunnelID)
  | .deregisterTunnel now _ | .heartbeat now _ | .cleanupExpired now => (now, [])

/-! ## The process -/

inductive CoordOp
  | acquireLease (now : Time) (req : LeaseRequest)
  | renewLease (now : Time) (leaseID : String) (ttl : Duration)
  | releaseLease (leaseID : String)
  | currentLease (now : Time) (tunnelID : String)
  | reportRelayHealth (now : Time) (relayID advertiseAddr : String) (health : RelayHealth)
  /-- The lease half of a `cleanupLoop` tick. -/
  | releaseExpiredLeases (now : Time)
deriving DecidableEq, Repr

/-- What `uuid.NewString` draws: an id that is not empty, and no id twice. -/
structure UUIDs where
  draw : Nat → String
  inj : Function.Injective draw
  ne : ∀ k, draw k ≠ ""

/-- A registry process; `drawn` counts the ids taken from `uuid.NewString`. -/
structure Node (σ : Type) where
  server : Server σ
  relayHealth : GoMap String RelayHealth := ∅
  drawn : Nat := 0
  hub : Hub := {}

inductive NodeLabel
  | tunnel (op : TunnelOp)
  | coord (op : CoordOp)
  | watch (tunnelFilter relayFilter : String) (includeExisting : Bool)
  | snapshot (k : Nat) (now : Time)
  | publish (i : Nat)
  | recv (k : Nat) (record : Option Session)
deriving DecidableEq, Repr

namespace Node

variable {σ : Type}

def new (store : σ) : Node σ := { server := { store } }

def setCoord (n : Node σ) (coord : MemCoordinator) : Node σ := { n with server := { n.server with coord } }

def coordOp (ids : UUIDs) (n : Node σ) : CoordOp → Node σ × List RegistryEvent
  | .acquireLease now req =>
    let (coord, r) := n.server.coord.acquireLease now (ids.draw n.drawn) req
    ({ n.setCoord coord with drawn := n.drawn + 1 }, (r.toOption.map .acquired).toList)
  | .renewLease now leaseID ttl =>
    let (coord, r) := n.server.coord.renewLease now leaseID ttl
    (n.setCoord coord, (r.toOption.map .acquired).toList)
  | .releaseLease leaseID =>
    let (coord, r) := n.server.coord.releaseLease leaseID
    (n.setCoord coord, (r.toOption.map .released).toList)
  | .currentLease now tunnelID => (n.setCoord (n.server.coord.currentLease now tunnelID).1, [])
  | .reportRelayHealth now relayID advertiseAddr health =>
    if relayID = "" then (n, [])
    else
      let coord := n.server.coord
      let relay := coord.reported now relayID advertiseAddr health
      ({ n.setCoord { coord with relays := coord.relays.insert relayID relay } with
          relayHealth := n.relayHealth.insert relayID health }, [.healthUpdated (some relay) health])
  | .releaseExpiredLeases now =>
    let (coord, expired) := n.server.coord.releaseExpiredLeases now
    (n.setCoord coord, expired.map .released)

def snapshotFor (repo : SessionRepository σ) (n : Node σ) (k : Nat) (now : Time) : Server σ × List RegistryEvent :=
  let w := (n.hub.watches[k]?).getD {}
  n.server.sendSnapshot repo n.relayHealth now w.tunnelFilter w.relayFilter

section Step

variable (repo : SessionRepository σ) (sessionTTL : Duration) (ids : UUIDs)

def effect (n : Node σ) : NodeLabel → Node σ
  | .tunnel op => { n with server := (n.server.tunnelOp repo sessionTTL op).1 }
  | .coord op => (n.coordOp ids op).1
  | .snapshot k now => { n with server := (n.snapshotFor repo k now).1 }
  | .watch .. | .publish .. | .recv .. => n

def hubLabel (n : Node σ) : NodeLabel → HubLabel
  | .tunnel op => .spawn (n.server.tunnelOp repo sessionTTL op).2
  | .coord op => .spawn (n.coordOp ids op).2
  | .watch tunnelFilter relayFilter includeExisting => .subscribe tunnelFilter relayFilter includeExisting
  | .snapshot k now => .snapshot k (n.snapshotFor repo k now).2
  | .publish i => .publish i
  | .recv k record => .recv k record

def step (n : Node σ) (l : NodeLabel) : Option (Node σ) :=
  (n.hub.step (n.hubLabel repo sessionTTL ids l)).map fun hub => { n.effect repo sessionTTL ids l with hub }

theorem step_eq_some {n n' : Node σ} {l : NodeLabel} (h : n.step repo sessionTTL ids l = some n') :
    ∃ hub, n.hub.step (n.hubLabel repo sessionTTL ids l) = some hub ∧
      n' = { n.effect repo sessionTTL ids l with hub } := by
  obtain ⟨hub, hs, rfl⟩ := Option.map_eq_some_iff.1 h
  exact ⟨hub, hs, rfl⟩

end Step

end Node

/-! ## What a look at the leases leaves behind -/

namespace MemCoordinator

theorem leaseOf_eq_some {m : MemCoordinator} (hi : m.Inv) {t : String} {l : Lease} :
    m.leaseOf t = some l ↔ m.Holds t l := by
  have hmem : ∀ l', l' ∈ GoMap.values (fun _ lease => decide (lease.tunnelID = t)) m.leasesByID ↔ m.Holds t l' := by
    intro l'
    rw [GoMap.mem_values_iff]
    constructor
    · rintro ⟨id, hl, ht⟩
      exact of_decide_eq_true ht ▸ hi.holds hl
    · exact fun h => ⟨l'.leaseID, h.1, decide_eq_true h.2⟩
  unfold leaseOf
  constructor
  · intro h
    exact (hmem l).1 (List.mem_of_head? h)
  · intro h
    cases hv : GoMap.values (fun _ lease => decide (lease.tunnelID = t)) m.leasesByID with
    | nil => exact absurd ((hmem l).2 h) (by simp [hv])
    | cons l' ls =>
      rw [hi.unique h ((hmem l').1 (by simp [hv]))]
      rfl

theorem leaseOf_eq_none {m : MemCoordinator} (hi : m.Inv) {t : String} :
    m.leaseOf t = none ↔ ∀ l, ¬ m.Holds t l := by
  rw [Option.eq_none_iff_forall_ne_some]
  exact forall_congr' fun l => not_congr (leaseOf_eq_some hi)

theorem holds_drop {m : MemCoordinator} {id t : String} {l l' : Lease} :
    (m.drop id l).Holds t l' ↔ m.Holds t l' ∧ l'.leaseID ≠ id := by
  unfold Holds
  rw [drop_leases]
  by_cases hid : l'.leaseID = id
  · simp [hid]
  · simp [hid]

theorem leaseOf_drop {m : MemCoordinator} (hi : m.Inv) {id : String} {l : Lease}
    (hl : m.leasesByID.lookup id = some l) (t : String) :
    (m.drop id l).leaseOf t = if t = l.tunnelID then none else m.leaseOf t := by
  have hi' := inv_drop hi hl
  split
  · rename_i ht
    refine (leaseOf_eq_none hi').2 fun l' hl' => ?_
    obtain ⟨hl', hne⟩ := holds_drop.1 hl'
    rw [ht] at hl'
    exact hne ((congrArg Lease.leaseID (hi.unique hl' (hi.holds hl))).trans (hi.ids id l hl).1)
  · rename_i ht
    refine Option.ext fun l' => ?_
    rw [leaseOf_eq_some hi', leaseOf_eq_some hi, holds_drop]
    refine ⟨And.left, fun hl' => ⟨hl', fun hid => ht ?_⟩⟩
    have h1 := hl'.1
    rw [hid, hl] at h1
    rw [← hl'.2, Option.some.inj h1]

theorem mem_releaseExpiredLeases {m : MemCoordinator} (hi : m.Inv) {now : Time} {l : Lease} :
    l ∈ (m.releaseExpiredLeases now).2 ↔ m.leasesByID.lookup l.leaseID = some l ∧ l.expiresAt < now := by
  simp only [releaseExpiredLeases, GoMap.mem_values_iff, decide_eq_true_eq]
  constructor
  · rintro ⟨id, hid, he⟩
    exact ⟨(hi.ids id l hid).1.symm ▸ hid, he⟩
  · rintro ⟨hid, he⟩
    exact ⟨l.leaseID, hid, he⟩

theorem currentLease_eq {m : MemCoordinator} (hi : m.Inv) (now : Time) (t : String) :
    (m.currentLease now t).2 = (m.leaseOf t).filter fun l => ¬ l.expiresAt < now := by
  unfold currentLease
  rcases currentLeaseLocked_cases hi t now with ⟨l, hl, he, hc⟩ | ⟨l, hl, he, hc⟩ | ⟨hn, hc⟩
  · rw [hc, (leaseOf_eq_some hi).2 hl, Option.filter_some, if_pos (decide_eq_true he)]
  · rw [hc, (leaseOf_eq_some hi).2 hl, Option.filter_some, if_neg (by simpa using he)]
  · rw [hc, (leaseOf_eq_none hi).2 hn]
    rfl

theorem currentLease_of_unexpired {m : MemCoordinator} (hi : m.Inv) {now : Time} {t : String}
    (h : m.unexpired now t = true) : (m.currentLease now t).1 = m := by
  unfold currentLease
  rcases currentLeaseLocked_cases hi t now with ⟨l, -, -, hc⟩ | ⟨l, hl, he, -⟩ | ⟨-, hc⟩
  · rw [hc]
  · rw [unexpired, (leaseOf_eq_some hi).2 hl] at h
    exact absurd he (of_decide_eq_true h)
  · rw [hc]

end MemCoordinator

namespace Server

variable {σ : Type} {repo : SessionRepository σ} {s : Server σ} {sessionTTL : Duration}

@[simp] theorem refresh_coord (s : Server σ) (now : Time) (sess : Session) :
    (s.refresh repo now sess).1.coord = (s.coord.currentLease now sess.tunnelID).1 := by
  unfold refresh
  split <;> rename_i hc <;> rw [hc]

theorem refreshAll_cons (repo : SessionRepository σ) (s : Server σ) (now : Time) (sess : Session)
    (rest : List Session) :
    s.refreshAll repo now (sess :: rest) =
      (((s.refresh repo now sess).1.refreshAll repo now rest).1,
        (s.refresh repo now sess).2 :: ((s.refresh repo now sess).1.refreshAll repo now rest).2) := rfl

theorem refreshAll_coord {P : MemCoordinator → Prop} {now : Time} (hP : ∀ m t, P m → P (m.currentLease now t).1)
    (sessions : List Session) (h : P s.coord) : P (s.refreshAll repo now sessions).1.coord := by
  induction sessions generalizing s with
  | nil => exact h
  | cons sess rest ih =>
    have hs : P (s.refresh repo now sess).1.coord := by
      rw [refresh_coord]
      exact hP _ _ h
    exact ih hs

theorem registerTunnel_coord (repo : SessionRepository σ) (s : Server σ) (now : Time) (t a p l : String) :
    (s.registerTunnel repo now t a p l).1.coord = (s.coord.currentLease now t).1 := by
  unfold registerTunnel
  dsimp only
  split <;> rfl

theorem deregisterTunnel_coord (repo : SessionRepository σ) (s : Server σ) (now : Time) (t : String) :
    (s.deregisterTunnel repo now t).1.coord = s.coord := by
  unfold deregisterTunnel
  split <;> rfl

theorem heartbeat_coord (repo : SessionRepository σ) (s : Server σ) (now : Time) (t : String) :
    (s.heartbeat repo now t).1.coord = s.coord := by
  unfold heartbeat
  split <;> rfl

/-- A tunnel handler touches the lease table through `CurrentLease` only. -/
theorem tunnelOp_coord {P : MemCoordinator → Prop} (hP : ∀ m now t, P m → P (m.currentLease now t).1) (op : TunnelOp)
    (h : P s.coord) : P (s.tunnelOp repo sessionTTL op).1.coord := by
  cases op with
  | registerTunnel now t a p l =>
    simp only [tunnelOp, registerTunnel_coord]
    exact hP _ _ _ h
  | deregisterTunnel now t =>
    simp only [tunnelOp]
    have hd := deregisterTunnel_coord repo s now t
    split <;> rename_i heq <;> rw [heq] at hd <;> exact hd ▸ h
  | getTunnel now t =>
    simp only [tunnelOp]
    split
    · exact h
    · rw [refresh_coord]
      exact hP _ _ _ h
  | listTunnels now => exact refreshAll_coord (fun m t => hP m now t) _ h
  | heartbeat now t =>
    simp only [tunnelOp, heartbeat_coord]
    exact h
  | cleanupExpired now => exact h

end Server

/-! ## The tables of a running process -/

/-- Every relay is stored under its own id, and every health report has its relay. -/
structure MemCoordinator.RelayTable (m : MemCoordinator) (relayHealth : GoMap String RelayHealth) : Prop where
  own : ∀ r info, m.relays.lookup r = some info → info.relayID = r
  reported : ∀ r health, relayHealth.lookup r = some health → ∃ info, m.relays.lookup r = some info

namespace MemCoordinator

variable {m : MemCoordinator} {relayHealth : GoMap String RelayHealth}

theorem currentLease_relays (m : MemCoordinator) (now : Time) (t : String) :
    (m.currentLease now t).1.relays = m.relays := by
  unfold currentLease currentLeaseLocked
  split
  · rfl
  · split
    · rfl
    · split <;> rfl

theorem RelayTable.of_relays (h : m.RelayTable relayHealth) {m' : MemCoordinator} (he : m'.relays = m.relays) :
    m'.RelayTable relayHealth :=
  ⟨fun r info hr => h.own r info (he ▸ hr), fun r hl hr => he ▸ h.reported r hl hr⟩

theorem RelayTable.insert (h : m.RelayTable relayHealth) {m' : MemCoordinator} {r : String} {info : RelayInfo}
    (he : m'.relays = m.relays.insert r info) (hr : info.relayID = r) : m'.RelayTable relayHealth := by
  refine ⟨fun r' info' h' => ?_, fun r' hl h' => ?_⟩
  · rw [he, GoMap.lookup_insert_ite] at h'
    split at h'
    · cases h'
      exact hr.trans ‹r' = r›.symm
    · exact h.own r' info' h'
  · obtain ⟨info', hi⟩ := h.reported r' hl h'
    rw [he, GoMap.lookup_insert_ite]
    split
    · exact ⟨info, rfl⟩
    · exact ⟨info', hi⟩

theorem RelayTable.putLease (h : m.RelayTable relayHealth) (now : Time) (l : Lease) :
    (m.putLease now l).RelayTable relayHealth := by
  cases hr : m.relays.lookup l.relayID with
  | none => exact h.of_relays (by simp only [MemCoordinator.putLease, hr])
  | some info =>
    have he : (m.putLease now l).relays = m.relays.insert l.relayID { info with lastSeen := now } := by
      simp only [MemCoordinator.putLease, hr]
    exact h.insert he (h.own l.relayID info hr)

theorem RelayTable.acquireLease (h : m.RelayTable relayHealth) (hi : m.Inv) (now : Time) (fresh : String)
    (req : LeaseRequest) : (m.acquireLease now fresh req).1.RelayTable relayHealth := by
  rcases hr : m.acquireLease now fresh req with ⟨m₁, r⟩
  have hc := acquireLease_cases hi now fresh req
  rw [hr] at hc
  cases hc with
  | invalid => exact h
  | conflict => exact h
  | extend => exact h.putLease _ _
  | grant m' _ hm =>
    have he : m'.relays = m.relays := by rcases hm with ⟨rfl, -⟩ | ⟨l, -, -, rfl⟩ <;> rfl
    exact (h.of_relays he).putLease _ _

theorem RelayTable.renewLease (h : m.RelayTable relayHealth) (hi : m.Inv) (now : Time) (id : String) (ttl : Duration) :
    (m.renewLease now id ttl).1.RelayTable relayHealth := by
  rcases renewLease_cases hi now id ttl with ⟨s, hr, -⟩ | ⟨l, -, -, hr⟩
  · rw [hr]; exact h
  · rw [hr]; exact h.of_relays rfl

theorem RelayTable.releaseLease (h : m.RelayTable relayHealth) (hi : m.Inv) (id : String) :
    (m.releaseLease id).1.RelayTable relayHealth := by
  rcases releaseLease_cases hi id with ⟨s, hr, -⟩ | ⟨l, -, hr⟩
  · rw [hr]; exact h
  · rw [hr]; exact h.of_relays rfl

theorem foldl_sweep_relays (now : Time) (es : List (Sigma fun _ : String => Lease)) (m : MemCoordinator) :
    (es.foldl (sweep now) m).relays = m.relays := by
  induction es generalizing m with
  | nil => rfl
  | cons e es ih =>
    rw [List.foldl_cons, ih]
    unfold sweep
    split <;> rfl

theorem RelayTable.report (h : m.RelayTable relayHealth) {now : Time} {r addr : String} {health : RelayHealth} :
    RelayTable { m with relays := m.relays.insert r (m.reported now r addr health) } (relayHealth.insert r health) := by
  have hown : (m.reported now r addr health).relayID = r := by
    show (m.ensureRelay now r).relayID = r
    unfold ensureRelay
    cases hr : m.relays.lookup r with
    | none => rfl
    | some info => exact h.own r info hr
  have hold : RelayTable { m with relays := m.relays.insert r (m.reported now r addr health) } relayHealth :=
    h.insert rfl hown
  refine ⟨hold.own, fun r' hl h' => ?_⟩
  rw [GoMap.lookup_insert_ite] at h'
  split at h'
  · rename_i hr
    exact ⟨m.reported now r addr health, by rw [GoMap.lookup_insert_ite, if_pos hr]⟩
  · exact hold.reported r' hl h'

end MemCoordinator

namespace Node

variable {σ : Type} {repo : SessionRepository σ} {sessionTTL : Duration} {ids : UUIDs} {n n' : Node σ}

structure Base (ids : UUIDs) (n : Node σ) : Prop where
  leases : Server.Leases ids.draw n.drawn n.server.coord
  relays : n.server.coord.RelayTable n.relayHealth

theorem base_new (ids : UUIDs) (store : σ) : (new store).Base ids :=
  ⟨Server.leases_new, fun r info h => by simp [new, MemCoordinator.new] at h,
    fun r health h => by simp [new] at h⟩

theorem base_currentLease {d : Nat} {rh : GoMap String RelayHealth} (m : MemCoordinator) (now : Time) (t : String)
    (h : Server.Leases ids.draw d m ∧ m.RelayTable rh) :
    Server.Leases ids.draw d (m.currentLease now t).1 ∧ (m.currentLease now t).1.RelayTable rh :=
  ⟨h.1.currentLease now t, h.2.of_relays (MemCoordinator.currentLease_relays m now t)⟩

theorem Base.coordOp (h : n.Base ids) (op : CoordOp) : (n.coordOp ids op).1.Base ids := by
  obtain ⟨hl, hr⟩ := h
  cases op with
  | acquireLease now req => exact ⟨hl.acquireLease ids.inj ids.ne now req, hr.acquireLease hl.inv now _ req⟩
  | renewLease now id ttl => exact ⟨hl.renewLease now id ttl, hr.renewLease hl.inv now id ttl⟩
  | releaseLease id => exact ⟨hl.releaseLease id, hr.releaseLease hl.inv id⟩
  | currentLease now t =>
    obtain ⟨hl', hr'⟩ := base_currentLease _ now t ⟨hl, hr⟩
    exact ⟨hl', hr'⟩
  | reportRelayHealth now r addr health =>
    simp only [Node.coordOp]
    split
    · exact ⟨hl, hr⟩
    · exact ⟨⟨⟨hl.inv.inverse, hl.inv.ids⟩, hl.drawn⟩, hr.report⟩
  | releaseExpiredLeases now =>
    exact ⟨hl.releaseExpiredLeases now, hr.of_relays (MemCoordinator.foldl_sweep_relays now _ _)⟩

theorem Base.step (h : n.Base ids) {l : NodeLabel} (hs : n.step repo sessionTTL ids l = some n') : n'.Base ids := by
  obtain ⟨hub, -, rfl⟩ := step_eq_some repo sessionTTL ids hs
  cases l with
  | tunnel op =>
    have hb : Server.Leases ids.draw n.drawn (n.server.tunnelOp repo sessionTTL op).1.coord ∧
        (n.server.tunnelOp repo sessionTTL op).1.coord.RelayTable n.relayHealth :=
      Server.tunnelOp_coord (fun m now t => base_currentLease m now t) op ⟨h.leases, h.relays⟩
    exact ⟨hb.1, hb.2⟩
  | coord op => exact ⟨(h.coordOp op).leases, (h.coordOp op).relays⟩
  | snapshot k now =>
    have hb : Server.Leases ids.draw n.drawn (n.snapshotFor repo k now).1.coord ∧
        (n.snapshotFor repo k now).1.coord.RelayTable n.relayHealth :=
      Server.refreshAll_coord (fun m t => base_currentLease m now t) _ ⟨h.leases, h.relays⟩
    exact ⟨hb.1, hb.2⟩
  | watch => exact ⟨h.leases, h.relays⟩
  | publish => exact ⟨h.leases, h.relays⟩
  | recv => exact ⟨h.leases, h.relays⟩

theorem run_base {ok : Node σ → NodeLabel → Prop} (h0 : n.Base ids) {ls : List NodeLabel}
    (h : Run (step repo sessionTTL ids) ok n ls n') : n'.Base ids :=
  h.inv (Base ids) h0 fun _ _ _ hb _ hs => hb.step hs

end Node

end TunnelEdge.Registry
