import TunnelEdge.Lib.Int64
import TunnelEdge.Registry.Wire
/-!
# The duration of a lease

How long a lease lasts that was asked for through `GRPCRegistryClient`, or by a message to
the server. The client sends whole seconds, so that a TTL below a second becomes 0, which
the server takes for its default of 30 s. The server multiplies the seconds in 64 bits,
and from 9223372037 on the product wraps.

`Server.acquireLease` and `Server.renewLease` compute with unbounded integers. For the
TTLs that fit in a `time.Duration` they are what the client and the handlers do.
-/

namespace TunnelEdge.Registry

open GoLib

namespace Pb

structure AcquireLeaseRequest where
  tunnelId : String
  relayId : String
  ttlSeconds : Int

structure RenewLeaseRequest where
  leaseId : String
  ttlSeconds : Int

end Pb

variable {σ : Type}

/-! ## The handlers of the server -/

namespace Rpc

/-- `ttlFromSeconds`, with `time.Duration(seconds) * time.Second` in 64 bits. -/
def ttlFromSeconds (seconds : Int) : Duration := if seconds ≤ 0 then 30 * second else int64 (seconds * second)

def acquireLease (s : Server σ) (now : Time) (fresh : String) (req : Pb.AcquireLeaseRequest) :
    Server σ × Except Status Pb.LeaseInfo :=
  let ttl := ttlFromSeconds req.ttlSeconds
  let (coord, r) := s.coord.acquireLease now fresh { tunnelID := req.tunnelId, relayID := req.relayId, ttl }
  ({ s with coord }, r.map leaseToProto)

def renewLease (s : Server σ) (now : Time) (req : Pb.RenewLeaseRequest) : Server σ × Except Status Pb.LeaseInfo :=
  let ttl := ttlFromSeconds req.ttlSeconds
  let (coord, r) := s.coord.renewLease now req.leaseId ttl
  ({ s with coord }, r.map leaseToProto)

end Rpc

/-! ## The client -/

namespace GRPCRegistryClient

def acquireLease (s : Server σ) (now : Time) (fresh : String) (req : LeaseRequest) : Server σ × Except Status Lease :=
  let (s, r) := Rpc.acquireLease s now fresh
    { tunnelId := req.tunnelID, relayId := req.relayID, ttlSeconds := req.ttl.tdiv second }
  (s, r.map leaseFromProto)

def renewLease (s : Server σ) (now : Time) (leaseID : String) (ttl : Duration) : Server σ × Except Status Lease :=
  let (s, r) := Rpc.renewLease s now { leaseId := leaseID, ttlSeconds := ttl.tdiv second }
  (s, r.map leaseFromProto)

end GRPCRegistryClient

theorem inInt64_seconds {ttl : Int} (h : InInt64 ttl) : InInt64 (ttl.tdiv 1000000000 * 1000000000) := by
  unfold InInt64 at h ⊢
  rcases Int.le_total 0 ttl with h0 | h0
  · rw [Int.tdiv_eq_ediv_of_nonneg h0]
    omega
  · have hneg : ttl.tdiv 1000000000 = -((-ttl) / 1000000000) := by
      rw [← Int.tdiv_eq_ediv_of_nonneg (by omega), Int.neg_tdiv, Int.neg_neg]
    rw [hneg]
    omega

theorem ttlFromSeconds_seconds {ttl : Duration} (h : InInt64 ttl) :
    Rpc.ttlFromSeconds (ttl.tdiv second) = Server.wireTTL ttl := by
  unfold Rpc.ttlFromSeconds Server.wireTTL Server.ttlFromSeconds
  rw [int64_of_inInt64 (x := ttl.tdiv second * second) (inInt64_seconds h)]

theorem map_leaseFromProto (r : Except Status Lease) :
    (r.map leaseToProto).map leaseFromProto = r.map Server.leaseFromProto := by
  cases r with
  | error e => rfl
  | ok l => exact congrArg Except.ok (leaseFromProto_toProto l)

theorem GRPCRegistryClient.acquireLease_eq {req : LeaseRequest} (h : InInt64 req.ttl) (s : Server σ) (now : Time)
    (fresh : String) : GRPCRegistryClient.acquireLease s now fresh req = s.acquireLease now fresh req := by
  unfold GRPCRegistryClient.acquireLease Rpc.acquireLease Server.acquireLease
  dsimp only
  rw [ttlFromSeconds_seconds h, map_leaseFromProto]

theorem GRPCRegistryClient.renewLease_eq {ttl : Duration} (h : InInt64 ttl) (s : Server σ) (now : Time) (id : String) :
    GRPCRegistryClient.renewLease s now id ttl = s.renewLease now id ttl := by
  unfold GRPCRegistryClient.renewLease Rpc.renewLease Server.renewLease
  dsimp only
  rw [ttlFromSeconds_seconds h, map_leaseFromProto]

/-! ## Both operations at once -/

inductive LeaseCall
  | acquire (tunnelID relayID : String)
  | renew (leaseID : String)

namespace LeaseCall

def handle (c : LeaseCall) (s : Server σ) (now : Time) (fresh : String) (ttlSeconds : Int) :
    Server σ × Except Status Pb.LeaseInfo :=
  match c with
  | .acquire tunnelId relayId => Rpc.acquireLease s now fresh { tunnelId, relayId, ttlSeconds }
  | .renew leaseId => Rpc.renewLease s now { leaseId, ttlSeconds }

def call (c : LeaseCall) (s : Server σ) (now : Time) (fresh : String) (ttl : Duration) :
    Server σ × Except Status Lease :=
  match c with
  | .acquire tunnelID relayID => GRPCRegistryClient.acquireLease s now fresh { tunnelID, relayID, ttl }
  | .renew leaseID => GRPCRegistryClient.renewLease s now leaseID ttl

theorem call_eq (c : LeaseCall) (s : Server σ) (now : Time) (fresh : String) (ttl : Duration) :
    c.call s now fresh ttl =
      ((c.handle s now fresh (ttl.tdiv second)).1, (c.handle s now fresh (ttl.tdiv second)).2.map leaseFromProto) := by
  cases c <;> rfl

end LeaseCall

theorem MemCoordinator.acquireLease_ttl (m : MemCoordinator) (now : Time) (fresh tunnelID relayID : String) :
    (∃ m' e, ∀ ttl, m.acquireLease now fresh ⟨tunnelID, relayID, ttl⟩ = (m', .error e)) ∨
    ∃ m', ∃ l : Lease, ∀ ttl, m.acquireLease now fresh ⟨tunnelID, relayID, ttl⟩ =
      (putLease m' now { l with expiresAt := now + ttl }, .ok { l with expiresAt := now + ttl }) := by
  unfold acquireLease
  by_cases hbad : tunnelID = "" ∨ relayID = ""
  · simp only [hbad, if_true]
    exact .inl ⟨_, _, fun _ => rfl⟩
  · simp only [hbad, if_false]
    rcases m.currentLeaseLocked tunnelID now with ⟨m', _ | existing⟩
    · exact .inr ⟨m', ⟨fresh, tunnelID, relayID, now, 1⟩, fun _ => rfl⟩
    · by_cases hrel : existing.relayID = relayID
      · simp only [hrel, ne_eq, not_true_eq_false, if_false]
        exact .inr ⟨m', { existing with relayID, version := existing.version + 1 }, fun _ => rfl⟩
      · simp only [hrel, ne_eq, not_false_eq_true, if_true]
        exact .inl ⟨_, _, fun _ => rfl⟩

theorem MemCoordinator.renewLease_ttl (m : MemCoordinator) (now : Time) (id : String) :
    (∃ e, ∀ ttl, m.renewLease now id ttl = (m, .error e)) ∨
    ∃ l : Lease, m.leasesByID.lookup id = some l ∧ ∀ ttl, m.renewLease now id ttl =
      ({ m with leasesByID := m.leasesByID.insert id { l with expiresAt := now + ttl, version := l.version + 1 } },
        .ok { l with expiresAt := now + ttl, version := l.version + 1 }) := by
  unfold renewLease
  by_cases hid : id = ""
  · simp only [hid, if_true]
    exact .inl ⟨_, fun _ => rfl⟩
  · simp only [hid, if_false]
    cases hl : m.leasesByID.lookup id with
    | none => exact .inl ⟨_, fun _ => rfl⟩
    | some l =>
      by_cases he : l.expiresAt < now
      · simp only [he, if_true]
        exact .inl ⟨_, fun _ => rfl⟩
      · simp only [he, if_false]
        exact .inr ⟨l, rfl, fun _ => rfl⟩

theorem LeaseCall.handle_cases {s : Server σ} (hi : s.coord.Inv) (now : Time) (fresh : String) (c : LeaseCall) :
    (∃ e, ∀ secs, (c.handle s now fresh secs).2 = .error e) ∨
    ∃ l : Lease, ∀ secs,
      (c.handle s now fresh secs).2 = .ok (leaseToProto { l with expiresAt := now + Rpc.ttlFromSeconds secs }) ∧
      (c.handle s now fresh secs).1.coord.leasesByID.lookup l.leaseID =
        some { l with expiresAt := now + Rpc.ttlFromSeconds secs } := by
  cases c with
  | acquire tunnelId relayId =>
    rcases s.coord.acquireLease_ttl now fresh tunnelId relayId with ⟨m', e, h⟩ | ⟨m', l, h⟩
    · refine .inl ⟨e, fun secs => ?_⟩
      simp only [handle, Rpc.acquireLease, h, Except.map]
    · refine .inr ⟨l, fun secs => ?_⟩
      simp only [handle, Rpc.acquireLease, h, Except.map, MemCoordinator.putLease_leases, if_true, and_self]
  | renew leaseId =>
    rcases s.coord.renewLease_ttl now leaseId with ⟨e, h⟩ | ⟨l, hl, h⟩
    · refine .inl ⟨e, fun secs => ?_⟩
      simp only [handle, Rpc.renewLease, h, Except.map]
    · obtain rfl := (hi.ids leaseId l hl).1
      refine .inr ⟨{ l with version := l.version + 1 }, fun secs => ?_⟩
      simp only [handle, Rpc.renewLease, h, Except.map, AList.lookup_insert, and_self]

/-! ## What a TTL becomes -/

/-- The lease lasts for the TTL, up to the second that is cut off. -/
def Honoured (ttl : Duration) (now expiresAt : Time) : Prop := ttl - second < expiresAt - now ∧ expiresAt - now ≤ ttl

instance (ttl : Duration) (now expiresAt : Time) : Decidable (Honoured ttl now expiresAt) :=
  inferInstanceAs (Decidable (_ ∧ _))

theorem honoured_iff {ttl : Int} (now : Int) (h0 : 0 < ttl) (h : InInt64 ttl) :
    Honoured ttl now (now + Rpc.ttlFromSeconds (ttl.tdiv second)) ↔ second ≤ ttl := by
  rw [ttlFromSeconds_seconds h]
  have key : ∀ t q d : Int, t / 1000000000 = q → (d = if q ≤ 0 then 30000000000 else q * 1000000000) →
      0 < t → (t - 1000000000 < now + d - now ∧ now + d - now ≤ t ↔ 1000000000 ≤ t) := by
    intro t q d hq hd ht
    split at hd <;> omega
  exact key ttl _ _ (Int.tdiv_eq_ediv_of_nonneg (Int.le_of_lt h0)).symm rfl h0

theorem ttlFromSeconds_of_le {secs : Int} (h0 : 0 < secs) (h : secs ≤ 9223372036) :
    Rpc.ttlFromSeconds secs = secs * 1000000000 := by
  unfold Rpc.ttlFromSeconds
  rw [if_neg (Int.not_le.2 h0)]
  exact int64_of_inInt64 ⟨by simp only [second]; omega, by simp only [second]; omega⟩

/-- Up to `M` seconds the answer to a call has time left, and the more the longer the TTL. -/
def LeaseCall.FairUpTo (c : LeaseCall) (s : Server σ) (now : Time) (fresh : String) (M : Int) : Prop :=
  ∀ secs l, 0 < secs → secs ≤ M → (c.handle s now fresh secs).2 = .ok l →
    now ≤ timeUnix l.expiresAtUnix ∧
    ∀ secs' l', secs ≤ secs' → secs' ≤ M → (c.handle s now fresh secs').2 = .ok l' →
      l.expiresAtUnix ≤ l'.expiresAtUnix

theorem unix_mono {a b : Int} (h : a ≤ b) : unix a ≤ unix b := by
  simp only [unix, second]
  omega

theorem le_timeUnix {now secs : Int} (h : 1 ≤ secs) : now ≤ timeUnix (unix (now + secs * 1000000000)) := by
  rw [timeUnix_unix]
  simp only [wholeSeconds, second]
  omega

theorem timeUnix_lt {now d : Int} (h : d < 0) : timeUnix (unix (now + d)) < now := by
  have key : ∀ a b : Int, b < 0 → (a + b) / 1000000000 * 1000000000 < a := by
    intro a b hb
    omega
  rw [timeUnix_unix]
  exact key now d h

/-- The lease that a successful call installs lasts as asked for exactly when the TTL is a
second or more. Asked for in seconds, answers are in order up to 9223372036 and no further. -/
theorem lease_ttl_honoured_iff (s : Server σ) (hi : s.coord.Inv) (now : Time) (fresh : String) (c : LeaseCall)
    {secs₀ : Int} {l₀ : Pb.LeaseInfo} (hok : (c.handle s now fresh secs₀).2 = .ok l₀) :
    (∀ ttl : Duration, 0 < ttl → InInt64 ttl →
      ((∃ l lease, (c.call s now fresh ttl).2 = .ok l ∧
        (c.call s now fresh ttl).1.coord.leasesByID.lookup l.leaseID = some lease ∧
        Honoured ttl now lease.expiresAt) ↔ second ≤ ttl)) ∧
    ∀ M, c.FairUpTo s now fresh M ↔ M ≤ 9223372036 := by
  rcases c.handle_cases hi now fresh with ⟨e, h⟩ | ⟨l, h⟩
  · rw [h] at hok
    cases hok
  · have hanswer := fun secs => (h secs).1
    refine ⟨fun ttl h0 h64 => ?_, fun M => ⟨fun hfair => ?_, fun hM secs l' h0 hle hl' => ?_⟩⟩
    · rw [c.call_eq, hanswer, ← honoured_iff now h0 h64]
      constructor
      · rintro ⟨_, lease, hr, hlease, hh⟩
        cases hr
        rw [show (leaseFromProto _).leaseID = l.leaseID from rfl, (h _).2] at hlease
        cases hlease
        exact hh
      · exact fun hh => ⟨_, _, rfl, (h _).2, hh⟩
    · -- the first product that wraps is negative
      have hwrap : Rpc.ttlFromSeconds 9223372037 = -9223372036709551616 := by decide
      by_contra hM
      have hleft := (hfair 9223372037 _ (by decide) (Int.not_le.1 hM) (hanswer _)).1
      rw [show (leaseToProto _).expiresAtUnix = unix (now + Rpc.ttlFromSeconds 9223372037) from rfl, hwrap] at hleft
      exact absurd hleft (Int.not_le.2 (timeUnix_lt (by decide)))
    · rw [hanswer] at hl'
      cases hl'
      refine ⟨?_, fun secs' l' hss hle' hl' => ?_⟩
      · show now ≤ timeUnix (unix (now + Rpc.ttlFromSeconds secs))
        rw [ttlFromSeconds_of_le h0 (hle.trans hM)]
        exact le_timeUnix h0
      · rw [hanswer] at hl'
        cases hl'
        show unix (now + Rpc.ttlFromSeconds secs) ≤ unix (now + Rpc.ttlFromSeconds secs')
        rw [ttlFromSeconds_of_le h0 (hle.trans hM), ttlFromSeconds_of_le (by omega) (hle'.trans hM)]
        exact unix_mono (by omega)

theorem lease_ttl_honoured_new :
    (LeaseCall.acquire "t1" "g1").FairUpTo (⟨.new, ()⟩ : Server Unit) 0 "l1" 9223372036 :=
  ((lease_ttl_honoured_iff (⟨.new, ()⟩ : Server Unit) MemCoordinator.inv_new 0 "l1" (.acquire "t1" "g1")
    (show (LeaseCall.handle _ _ _ _ 60).2 = .ok ⟨"l1", "t1", "g1", unix (60 * second), 1⟩ by decide +kernel)).2 _).2
    (by decide)

/-- A TTL of half a second gives a lease of 30 s, and 9223372037 s one that has expired. -/
theorem lease_ttl_lost :
    (LeaseCall.call (.acquire "t1" "g1") (⟨.new, ()⟩ : Server Unit) 0 "l1" 500000000).2 =
        .ok ⟨"l1", "t1", "g1", 30 * second, 1⟩ ∧
      ¬Honoured 500000000 0 (30 * second) ∧
      (LeaseCall.handle (.acquire "t1" "g1") (⟨.new, ()⟩ : Server Unit) 0 "l1" 9223372037).2 =
        .ok ⟨"l1", "t1", "g1", unix (-9223372036709551616), 1⟩ ∧
      timeUnix (unix (-9223372036709551616)) < 0 := by
  decide +kernel

end TunnelEdge.Registry
