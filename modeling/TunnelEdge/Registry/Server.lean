import TunnelEdge.Registry.MemCoordinator
import TunnelEdge.Store.Sessions
/-!
# The registry server and its client

The handlers of `internal/registry/server.go` over a `MemCoordinator` and a
session store, as a gateway calls them through `GRPCRegistryClient`
(`client.go`): TTLs and expiry times cross the wire in whole seconds. A handler
is one atomic step; between two of them anything may happen.
-/

namespace TunnelEdge.Registry

open Store

structure Server (σ : Type) where
  coord : MemCoordinator := .new
  store : σ

namespace Server

variable {σ : Type} (repo : SessionRepository σ)

/-- The session is stored with the owner that `CurrentLease` reports at this time. -/
def registerTunnel (s : Server σ) (now : Time) (tunnelID agentID publicAddr localAddr : String) :
    Server σ × Except Status Unit :=
  let (coord, lease) := s.coord.currentLease now tunnelID
  let sess : Session := {
    tunnelID, agentID, localAddr, publicAddr
    ownerRelayID := (lease.map Lease.relayID).getD ""
    leaseID := (lease.map Lease.leaseID).getD "" }
  match repo.register s.store now sess with
  | (store, .error _) => (⟨coord, store⟩, .error ⟨.alreadyExists, "tunnel " ++ tunnelID ++ " already registered"⟩)
  | (store, .ok _) => (⟨coord, store⟩, .ok ())

/-- `DeregisterTunnel` knows the session by the tunnel id alone. -/
def deregisterTunnel (s : Server σ) (now : Time) (tunnelID : String) : Server σ × Except Status Unit :=
  match repo.deregister s.store now tunnelID with
  | (store, .error _) => ({ s with store }, .error ⟨.notFound, "tunnel " ++ tunnelID ++ " not found"⟩)
  | (store, .ok _) => ({ s with store }, .ok ())

/-- `Heartbeat` answers `Alive`. -/
def heartbeat (s : Server σ) (now : Time) (tunnelID : String) : Server σ × Bool :=
  match repo.heartbeat s.store now tunnelID with
  | (store, .error _) => ({ s with store }, false)
  | (store, .ok _) => ({ s with store }, true)

def ttlFromSeconds (seconds : Int) : Duration := if seconds ≤ 0 then 30 * second else seconds * second

/-- A TTL as it reaches the coordinator: `int64(ttl / time.Second)` on the wire. -/
def wireTTL (ttl : Duration) : Duration := ttlFromSeconds (ttl.tdiv second)

/-- A lease as the client gets it back: `ExpiresAt.Unix()` on the wire. -/
def leaseFromProto (l : Lease) : Lease := { l with expiresAt := l.expiresAt / second * second }

def acquireLease (s : Server σ) (now : Time) (fresh : String) (req : LeaseRequest) : Server σ × Except Status Lease :=
  let (coord, r) := s.coord.acquireLease now fresh { req with ttl := wireTTL req.ttl }
  ({ s with coord }, r.map leaseFromProto)

def renewLease (s : Server σ) (now : Time) (leaseID : String) (ttl : Duration) : Server σ × Except Status Lease :=
  let (coord, r) := s.coord.renewLease now leaseID (wireTTL ttl)
  ({ s with coord }, r.map leaseFromProto)

def releaseLease (s : Server σ) (leaseID : String) : Server σ × Except Status Unit :=
  let (coord, r) := s.coord.releaseLease leaseID
  ({ s with coord }, r.map fun _ => ())

/-- The lease half of a `cleanupLoop` tick. -/
def releaseExpiredLeases (s : Server σ) (now : Time) : Server σ :=
  { s with coord := (s.coord.releaseExpiredLeases now).1 }

/-- The session half of a `cleanupLoop` tick. -/
def cleanupExpired (s : Server σ) (now : Time) (sessionTTL : Duration) : Server σ :=
  { s with store := (repo.cleanupExpired s.store now sessionTTL).1 }

/-! ## Times on the wire -/

theorem second_le_wireTTL (ttl : Duration) : second ≤ wireTTL ttl := by
  unfold wireTTL ttlFromSeconds
  split
  · decide
  · rename_i h
    have h1 : 1 ≤ ttl.tdiv second := by omega
    calc second = 1 * second := (Int.one_mul _).symm
      _ ≤ ttl.tdiv second * second := Int.mul_le_mul_of_nonneg_right h1 (by decide)

/-- Rounding down to whole seconds takes less than a second away. -/
theorem lt_leaseFromProto {l : Lease} {now : Time} (h : now + second ≤ l.expiresAt) :
    now < (leaseFromProto l).expiresAt := by
  have key : ∀ a b : Int, a + 1000000000 ≤ b → a < b / 1000000000 * 1000000000 := by
    intro a b hab
    omega
  exact key now l.expiresAt h

/-! ## The lease table of a running server -/

/-- The table is in order and its lease ids are among the first `n` drawn. -/
structure Leases (uuid : Nat → String) (n : Nat) (m : MemCoordinator) : Prop where
  inv : m.Inv
  drawn : ∀ id l, m.leasesByID.lookup id = some l → ∃ k < n, uuid k = id

section Leases

variable {uuid : Nat → String} {n : Nat} {m : MemCoordinator}

theorem leases_new : Leases uuid n .new :=
  ⟨MemCoordinator.inv_new, fun id l h => by simp [MemCoordinator.new] at h⟩

theorem Leases.mono (h : Leases uuid n m) {n' : Nat} (hn : n ≤ n') : Leases uuid n' m := by
  refine ⟨h.inv, fun id l hl => ?_⟩
  obtain ⟨k, hk, he⟩ := h.drawn id l hl
  exact ⟨k, by omega, he⟩

theorem Leases.of_subset (h : Leases uuid n m) {m' : MemCoordinator} (hi : m'.Inv)
    (hsub : ∀ id l, m'.leasesByID.lookup id = some l → ∃ l', m.leasesByID.lookup id = some l') : Leases uuid n m' := by
  refine ⟨hi, fun id l hl => ?_⟩
  obtain ⟨l', hl'⟩ := hsub id l hl
  exact h.drawn id l' hl'

theorem Leases.fresh (h : Leases uuid n m) (hinj : Function.Injective uuid) : m.leasesByID.lookup (uuid n) = none := by
  cases hl : m.leasesByID.lookup (uuid n) with
  | none => rfl
  | some l =>
    obtain ⟨k, hk, he⟩ := h.drawn _ l hl
    have := hinj he
    omega

theorem Leases.drop (h : Leases uuid n m) {id : String} {l : Lease} (hl : m.leasesByID.lookup id = some l) :
    Leases uuid n (m.drop id l) := by
  refine h.of_subset (MemCoordinator.inv_drop h.inv hl) fun id' l' hl' => ?_
  rw [MemCoordinator.drop_leases] at hl'
  split at hl'
  · cases hl'
  · exact ⟨l', hl'⟩

theorem Leases.currentLease (h : Leases uuid n m) (now : Time) (t : String) :
    Leases uuid n (m.currentLease now t).1 := by
  unfold MemCoordinator.currentLease
  rcases MemCoordinator.currentLeaseLocked_cases h.inv t now with ⟨l, -, -, hc⟩ | ⟨l, hl, -, hc⟩ | ⟨-, hc⟩
  · rw [hc]; exact h
  · rw [hc]; exact h.drop hl.1
  · rw [hc]; exact h

theorem Leases.acquireLease (h : Leases uuid n m) (hinj : Function.Injective uuid) (hne : ∀ k, uuid k ≠ "")
    (now : Time) (req : LeaseRequest) : Leases uuid (n + 1) (m.acquireLease now (uuid n) req).1 := by
  rcases hr : m.acquireLease now (uuid n) req with ⟨m₁, r⟩
  have hc := MemCoordinator.acquireLease_cases h.inv now (uuid n) req
  rw [hr] at hc
  cases hc with
  | invalid => exact h.mono (Nat.le_succ n)
  | conflict => exact h.mono (Nat.le_succ n)
  | extend l _ hl =>
    refine (h.mono (Nat.le_succ n)).of_subset (MemCoordinator.inv_extended h.inv hl now req) fun id l' hl' => ?_
    rw [MemCoordinator.putLease_leases] at hl'
    split at hl'
    · rename_i hid
      exact ⟨l, hid ▸ hl.1⟩
    · exact ⟨l', hl'⟩
  | grant m' _ hm =>
    obtain ⟨hi', hn', hsub⟩ := MemCoordinator.grant_purged h.inv hm
    have hold : ∀ id l, m'.leasesByID.lookup id = some l → ∃ k < n, uuid k = id := by
      intro id l hl
      rcases hsub id with he | ⟨he, -⟩
      · exact h.drawn id l (he ▸ hl)
      · rw [he] at hl; cases hl
    have hfree := Leases.fresh ⟨hi', hold⟩ hinj
    refine ⟨MemCoordinator.inv_granted hi' hn' (hne n) hfree now, fun id l hl => ?_⟩
    rw [MemCoordinator.putLease_leases] at hl
    split at hl
    · rename_i hid
      exact ⟨n, Nat.lt_succ_self n, hid.symm⟩
    · obtain ⟨k, hk, he⟩ := hold id l hl
      exact ⟨k, by omega, he⟩

theorem Leases.renewLease (h : Leases uuid n m) (now : Time) (id : String) (ttl : Duration) :
    Leases uuid n (m.renewLease now id ttl).1 := by
  rcases MemCoordinator.renewLease_cases h.inv now id ttl with ⟨s, hr, -⟩ | ⟨l, hl, -, hr⟩
  · rw [hr]; exact h
  · rw [hr]
    refine h.of_subset (MemCoordinator.inv_update h.inv hl rfl rfl) fun id' l' hl' => ?_
    rw [GoLib.GoMap.lookup_insert_ite] at hl'
    split at hl'
    · rename_i hid
      exact ⟨l, hid ▸ hl⟩
    · exact ⟨l', hl'⟩

theorem Leases.releaseLease (h : Leases uuid n m) (id : String) : Leases uuid n (m.releaseLease id).1 := by
  rcases MemCoordinator.releaseLease_cases h.inv id with ⟨s, hr, -⟩ | ⟨l, hl, hr⟩
  · rw [hr]; exact h
  · rw [hr]; exact h.drop hl

theorem Leases.releaseExpiredLeases (h : Leases uuid n m) (now : Time) :
    Leases uuid n (m.releaseExpiredLeases now).1 := by
  obtain ⟨hi, hl⟩ := MemCoordinator.releaseExpiredLeases_spec h.inv now
  refine h.of_subset hi fun id l hl' => ?_
  rw [hl] at hl'
  exact ⟨l, (Option.filter_eq_some_iff.1 hl').1⟩

end Leases

/-! ## What a gateway learns from an answer -/

theorem acquireLease_ok {s : Server σ} {now : Time} {fresh : String} {req : LeaseRequest} {l : Lease}
    (hi : s.coord.Inv) (hne : fresh ≠ "") (h : (s.acquireLease now fresh req).2 = .ok l) :
    l.leaseID ≠ "" ∧ now < l.expiresAt := by
  simp only [acquireLease] at h
  rcases hr : s.coord.acquireLease now fresh { req with ttl := wireTTL req.ttl } with ⟨m₁, r⟩
  have hc := MemCoordinator.acquireLease_cases hi now fresh { req with ttl := wireTTL req.ttl }
  rw [hr] at hc h
  have hw : now + second ≤ now + wireTTL req.ttl := Int.add_le_add_left (second_le_wireTTL req.ttl) now
  cases hc with
  | invalid => cases h
  | conflict => cases h
  | extend l₀ _ hl =>
    cases h
    exact ⟨(hi.ids _ _ hl.1).2, lt_leaseFromProto hw⟩
  | grant =>
    cases h
    exact ⟨hne, lt_leaseFromProto hw⟩

theorem renewLease_ok {s : Server σ} {now : Time} {id : String} {ttl : Duration} {l : Lease} (hi : s.coord.Inv)
    (h : (s.renewLease now id ttl).2 = .ok l) : now < l.expiresAt := by
  simp only [renewLease] at h
  rcases MemCoordinator.renewLease_cases hi now id (wireTTL ttl) with ⟨e, hr, -⟩ | ⟨l₀, -, -, hr⟩
  · rw [hr] at h; cases h
  · rw [hr] at h
    cases h
    exact lt_leaseFromProto (Int.add_le_add_left (second_le_wireTTL ttl) now)

end Server

end TunnelEdge.Registry
