import TunnelEdge.Lib.GoMap
/-!
# A key-value store with leases

What etcd gives its clients: keys attached to leases, compare-and-put in one
transaction, and a watch that sees every change in order. A key disappears
exactly when the lease it is attached to expires or is revoked, and a put
attaches the key to the lease of that put. Every operation is atomic and
linearizable, so each is one function on the store.

Times and TTLs are integers in one unit. `expire` drops the leases whose
deadline lies before `now`.
-/

namespace GoLib

/-- A value and the lease its key is attached to. -/
structure Kv (V : Type) where
  value : V
  lease : Nat
deriving DecidableEq

/-- A live lease: the TTL it was granted with, and when it runs out. -/
structure GrantedLease where
  ttl : Int
  deadline : Int
deriving DecidableEq

inductive WatchEvent (K V : Type)
  | put (key : K) (value : V)
  | delete (key : K)

structure LeaseStore (K V : Type) where
  kvs : GoMap K (Kv V) := ∅
  leases : GoMap Nat GrantedLease := ∅
  nextLease : Nat := 1
  events : List (WatchEvent K V) := []

namespace LeaseStore

variable {K V : Type} [DecidableEq K]

/-- `Grant`: a new lease, under an id not used before. -/
def grant (s : LeaseStore K V) (now ttl : Int) : LeaseStore K V × Nat :=
  ({ s with leases := s.leases.insert s.nextLease ⟨ttl, now + ttl⟩, nextLease := s.nextLease + 1 }, s.nextLease)

/-- Delete the keys that do not satisfy `keep`, with their watch events. -/
def keep (s : LeaseStore K V) (p : Kv V → Bool) : LeaseStore K V :=
  { s with
    kvs := GoMap.filter (fun _ kv => p kv) s.kvs
    events := s.events ++ (s.kvs.entries.filter fun e => !p e.2).map fun e => .delete e.1 }

def leaseNotFound : String := "etcdserver: requested lease not found"

/-- `Revoke`: the lease and every key attached to it go. -/
def revoke (s : LeaseStore K V) (id : Nat) : Except String (LeaseStore K V × Unit) :=
  match s.leases.lookup id with
  | none => .error leaseNotFound
  | some _ => .ok ({ s.keep (fun kv => kv.lease != id) with leases := s.leases.erase id }, ())

/-- `Put(key, value, WithLease(id))` -/
def put (s : LeaseStore K V) (key : K) (value : V) (id : Nat) : Except String (LeaseStore K V × Unit) :=
  match s.leases.lookup id with
  | none => .error leaseNotFound
  | some _ => .ok ({ s with kvs := s.kvs.insert key ⟨value, id⟩, events := s.events ++ [.put key value] }, ())

/-- `Txn(If Version(key) = 0, Then Put(key, value, WithLease(id)), Else Get(key))`: the value found, if any. -/
def createOrGet (s : LeaseStore K V) (key : K) (value : V) (id : Nat) : Except String (LeaseStore K V × Option V) :=
  match s.kvs.lookup key with
  | some kv => .ok (s, some kv.value)
  | none => (s.put key value id).map fun r => (r.1, none)

def keepAliveOnce (s : LeaseStore K V) (now : Int) (id : Nat) : Except String (LeaseStore K V × Unit) :=
  match s.leases.lookup id with
  | none => .error leaseNotFound
  | some l => .ok ({ s with leases := s.leases.insert id { l with deadline := now + l.ttl } }, ())

/-- `Get(key)`, without `WithPrefix`: at most the exact key. -/
def get (s : LeaseStore K V) (key : K) : List (K × V) :=
  (s.kvs.lookup key).toList.map fun kv => (key, kv.value)

/-- Time has come to `now`: the leases that ran out before it expire. -/
def expire (s : LeaseStore K V) (now : Int) : LeaseStore K V :=
  { s.keep (fun kv => (s.leases.lookup kv.lease).any fun l => now ≤ l.deadline) with
    leases := GoMap.filter (fun _ l => now ≤ l.deadline) s.leases }

/-! ## What the operations do -/

variable {s s' : LeaseStore K V} {now ttl : Int} {key : K} {v : V} {id : Nat} {u : Unit}

/-- Keys may have gone, and nothing else has changed under a key. -/
def Shrinks (s s' : LeaseStore K V) : Prop := ∀ k, s'.kvs.lookup k = s.kvs.lookup k ∨ s'.kvs.lookup k = none

theorem Shrinks.refl (s : LeaseStore K V) : Shrinks s s := fun _ => .inl rfl

theorem keep_shrinks (s : LeaseStore K V) (p : Kv V → Bool) : Shrinks s (s.keep p) := by
  intro k
  simp only [keep, GoMap.lookup_filter]
  cases s.kvs.lookup k with
  | none => exact .inl rfl
  | some kv => by_cases h : p kv = true <;> simp [Option.filter_some, h]

omit [DecidableEq K] in
theorem keep_events (s : LeaseStore K V) (p : Kv V → Bool) :
    ∃ ks : List K, (s.keep p).events = s.events ++ ks.map .delete :=
  ⟨(s.kvs.entries.filter fun e => !p e.2).map (·.1), by simp [keep]⟩

theorem revoke_shrinks (h : s.revoke id = .ok (s', u)) : Shrinks s s' := by
  simp only [revoke] at h
  split at h
  · cases h
  · cases h
    exact keep_shrinks s _

omit [DecidableEq K] in
@[simp] theorem grant_kvs (s : LeaseStore K V) (now ttl : Int) : (s.grant now ttl).1.kvs = s.kvs := rfl

omit [DecidableEq K] in
theorem keepAliveOnce_kvs (h : s.keepAliveOnce now id = .ok (s', u)) : s'.kvs = s.kvs := by
  simp only [keepAliveOnce] at h
  split at h <;> cases h
  rfl

theorem put_ok (h : s.put key v id = .ok (s', u)) :
    s'.kvs = s.kvs.insert key ⟨v, id⟩ ∧ s'.events = s.events ++ [.put key v] := by
  simp only [put] at h
  split at h <;> cases h
  exact ⟨rfl, rfl⟩

theorem createOrGet_ok {r : Option V} (h : s.createOrGet key v id = .ok (s', r)) :
    (r = none ∧ s.kvs.lookup key = none ∧ s'.kvs = s.kvs.insert key ⟨v, id⟩ ∧
      s'.events = s.events ++ [.put key v]) ∨
    (∃ kv, r = some kv.value ∧ s.kvs.lookup key = some kv ∧ s' = s) := by
  simp only [createOrGet] at h
  split at h
  · rename_i kv hkv
    cases h
    exact .inr ⟨kv, rfl, hkv, rfl⟩
  · rename_i hn
    cases hp : s.put key v id with
    | error err => rw [hp] at h; cases h
    | ok r =>
      rw [hp] at h
      cases h
      exact .inl ⟨rfl, hn, put_ok hp⟩

/-! ## What the watch sees -/

/-- Events are only added, and a key that is gone has its delete among them. -/
def Logged (s s' : LeaseStore K V) : Prop :=
  ∃ evs, s'.events = s.events ++ evs ∧ ∀ k, s.kvs.lookup k ≠ none → s'.kvs.lookup k = none → .delete k ∈ evs

theorem logged_of_kvs (he : s'.events = s.events) (hk : s'.kvs = s.kvs) : Logged s s' :=
  ⟨[], by rw [he, List.append_nil], fun k h h' => absurd (hk ▸ h') h⟩

theorem Logged.refl (s : LeaseStore K V) : Logged s s := logged_of_kvs rfl rfl

theorem keep_logged (s : LeaseStore K V) (p : Kv V → Bool) : Logged s (s.keep p) := by
  refine ⟨_, rfl, fun k h h' => ?_⟩
  obtain ⟨kv, hkv⟩ := Option.ne_none_iff_exists'.1 h
  have hp : p kv = false := by
    simp only [keep, GoMap.lookup_filter, hkv, Option.filter_some] at h'
    cases hp : p kv with
    | false => rfl
    | true => rw [if_pos hp] at h'; cases h'
  exact List.mem_map.2 ⟨⟨k, kv⟩, List.mem_filter.2 ⟨(GoMap.mem_entries_iff _ _ _).2 hkv, by simp [hp]⟩, rfl⟩

theorem revoke_logged (h : s.revoke id = .ok (s', u)) : Logged s s' := by
  simp only [revoke] at h
  split at h
  · cases h
  · cases h
    obtain ⟨evs, he, hd⟩ := keep_logged s fun kv => kv.lease != id
    exact ⟨evs, he, hd⟩

theorem put_logged (h : s.put key v id = .ok (s', u)) : Logged s s' := by
  obtain ⟨hk, he⟩ := put_ok h
  refine ⟨_, he, fun k hs hn => ?_⟩
  rw [hk, GoMap.lookup_insert_ite] at hn
  split at hn
  · cases hn
  · exact absurd hn hs

theorem createOrGet_logged {r : Option V} (h : s.createOrGet key v id = .ok (s', r)) : Logged s s' := by
  rcases createOrGet_ok h with ⟨-, -, hk, he⟩ | ⟨kv, -, -, rfl⟩
  · refine ⟨_, he, fun k hs hn => ?_⟩
    rw [hk, GoMap.lookup_insert_ite] at hn
    split at hn
    · cases hn
    · exact absurd hn hs
  · exact .refl _

theorem keepAliveOnce_logged (h : s.keepAliveOnce now id = .ok (s', u)) : Logged s s' := by
  simp only [keepAliveOnce] at h
  split at h <;> cases h
  exact logged_of_kvs rfl rfl

end LeaseStore

end GoLib
