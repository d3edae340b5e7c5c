import TunnelEdge.Registry.Etcd
import TunnelEdge.Registry.LeaseExclusivity
/-!
# The two coordinators side by side

The same sequence of lease calls against a `MemCoordinator` and against one
`EtcdCoordinator` whose etcd answers every request. Both draw the same lease ids.
Time advances between calls; etcd drops a lease once its deadline lies before the
clock, as `MemCoordinator` treats a lease as expired.

`watchLoop` is a goroutine of its own and handles the events of etcd in order, each at
some time. A round of it inside a call does what it would do before or after the call:
`etcdLeaseOf` is read in the first step of `RenewLease` and `ReleaseLease` only, and
what `AcquireLease` writes there last is what the event of its own put writes.

`Sim` relates the two states: the keys of etcd are the unexpired leases of the
table, and `etcdLeaseOf`, once the watch has caught up, has the etcd leases behind them.
-/

namespace TunnelEdge.Registry

open GoLib LeaseStore MemCoordinator

/-! ## Calls one at a time -/

/-- Run a call to its end, with every request answered. No call sends more than six. -/
def runCall (now : Time) : Nat → Outcome Proc → Outcome Proc
  | 0, o => o
  | n + 1, o => runCall now n (o.pc.step now .ok o.etcd o.inst)

inductive Op
  | acquire (fresh : String) (req : LeaseRequest)
  | renew (leaseID : String) (ttl : Duration)
  | release (leaseID : String)
  | current (tunnelID : String)
  | advance (d : Nat)
  /-- One round of `watchLoop`. -/
  | watch

/-- The two coordinators at time `now`; `drawn` are the lease ids drawn so far, and `log` are the calls so far, the
last one first, with what `MemCoordinator` answered. -/
structure Both where
  now : Time := 0
  mem : MemCoordinator := .new
  etcd : Etcd := {}
  inst : EtcdCoordinator := {}
  drawn : List String := []
  log : List (Time × Op × Reply) := []

def Op.call (now : Time) : Op → Option Call
  | .acquire fresh req => some (.acquire now fresh req)
  | .renew id ttl => some (.renew now id ttl)
  | .release id => some (.release id)
  | .current t => some (.current now t)
  | .advance _ | .watch => none

def Op.invocation : Op → Option Invocation
  | .acquire fresh req => some (.acquire req fresh)
  | .renew id ttl => some (.renew id ttl)
  | .release id => some (.release id)
  | .current _ | .advance _ | .watch => none

def Op.drawn : Op → List String
  | .acquire fresh _ => [fresh]
  | _ => []

def Both.memCall (s : Both) (op : Op) : MemCoordinator × Reply :=
  match op.call s.now with
  | some c => s.mem.call c
  | none => (s.mem, .nothing)

def Both.etcdCall (s : Both) (op : Op) : Outcome (Option Proc) :=
  match op.invocation with
  | some v => (runCall s.now 6 ⟨s.etcd, s.inst, v.start⟩).map some
  | none => ⟨s.etcd, s.inst, none⟩

def Both.etcdReply (s : Both) : Op → Reply
  | .current t => (currentLeaseEtcd s.now t s.etcd).elim .nothing .lease
  | op => (((s.etcdCall op).pc.bind Proc.result).map Reply.ofExcept).getD .nothing

/-- One call on both sides, or the clock moves on, or the watch does. -/
def Both.step (s : Both) : Op → Both
  | .advance d => { s with now := s.now + d, etcd := s.etcd.expire (s.now + d) }
  | .watch => { s with inst := (s.inst.watch s.etcd).getD s.inst }
  | op =>
    let o := s.etcdCall op
    { s with
      mem := (s.memCall op).1
      etcd := o.etcd
      inst := o.inst
      drawn := op.drawn ++ s.drawn
      log := (s.now, op, (s.memCall op).2) :: s.log }

/-! ## Agreement -/

def Reply.succeeded : Reply → Bool
  | .lease _ => true
  | _ => false

/-- Same tunnel id, relay id and version. -/
def Reply.sameLease : Reply → Reply → Bool
  | .lease l, .lease l' => l.tunnelID = l'.tunnelID ∧ l.relayID = l'.relayID ∧ l.version = l'.version
  | _, _ => true

def Op.releases : Op → Bool
  | .release _ => true
  | _ => false

/-- The call succeeds on both sides or on neither, and returns the same lease;
`ReleaseLease` is only asked to succeed. -/
def Agree (s : Both) (op : Op) : Prop :=
  (s.memCall op).2.succeeded = (s.etcdReply op).succeeded ∧
    (op.releases = false → (s.memCall op).2.sameLease (s.etcdReply op) = true)

instance (s : Both) (op : Op) : Decidable (Agree s op) := inferInstanceAs (Decidable (_ ∧ _))

/-- Calls with whole-second TTLs and fresh ids; renewals are of live leases. -/
def Legal (s : Both) : Op → Bool
  | .acquire fresh req => fresh ≠ "" ∧ fresh ∉ s.drawn ∧ req.ttl % second = 0
  | .renew id ttl => ttl % second = 0 ∧ (s.mem.leasesByID.lookup id).any fun l => s.now ≤ l.expiresAt
  | _ => true

def Op.asks (t : String) : Op → Bool
  | .acquire _ req => req.tunnelID = t
  | .current t' => t' = t
  | _ => false

/-- The lease that the calls granted under the id last and have not released. -/
def grantedIn (id : String) : List (Time × Op × Reply) → Option Lease
  | [] => none
  | (_, .acquire _ _, .lease l) :: log => if l.leaseID = id then some l else grantedIn id log
  | (_, .release id', .lease _) :: log => if id' = id then none else grantedIn id log
  | _ :: log => grantedIn id log

/-- After its expiry the lease was still there to be released, and an `AcquireLease` or `CurrentLease` of its tunnel
came. -/
def askedLate (id : String) : List (Time × Op × Reply) → Bool
  | [] => false
  | (now, op, _) :: log =>
    askedLate id log || (grantedIn id log).any fun l => l.expiresAt < now && op.asks l.tunnelID

/-- What etcd has reported and `watchLoop` has not handled. -/
def Both.unseen (s : Both) : List (WatchEvent String LeaseMeta) := s.etcd.events.drop s.inst.watched

def putOf (id : String) : WatchEvent String LeaseMeta → Option Nat
  | .put _ v => if v.leaseID = id then some v.etcdLease else none
  | .delete _ => none

/-- A lease is acquired for some time. It is released before an `AcquireLease` or `CurrentLease` of its tunnel comes
after its expiry, and when the watch has handled the puts of it. -/
def Timely (s : Both) : Op → Bool
  | .acquire _ req => 0 < req.ttl
  | .release id => askedLate id s.log = false ∧ s.unseen.filterMap (putOf id) = []
  | _ => true

def Op.renews : Op → Bool
  | .renew _ _ => true
  | _ => false

/-! ## Calls on the etcd side, run to their end -/

theorem ttlSec_whole {ttl : Duration} (h : ttl % second = 0) (hpos : 0 < ttl) : ttlSec ttl * second = ttl := by
  obtain ⟨k, rfl⟩ := Int.dvd_of_emod_eq_zero h
  have hk : 0 < k := Int.pos_of_mul_pos_right hpos (by decide)
  have hdiv : (second * k).tdiv second = k := Int.mul_tdiv_cancel_left _ (by decide)
  have hmax : max k 1 = k := by omega
  rw [ttlSec, hdiv, hmax, Int.mul_comm]

section Calls

variable (e : Etcd) (i : EtcdCoordinator) (now : Time)

def acquiredMeta (fresh : String) (req : LeaseRequest) : LeaseMeta :=
  ⟨fresh, req.tunnelID, req.relayID, now + req.ttl, 1, e.nextLease⟩

/-- The payload of a re-acquisition, which grants two leases and revokes the first. -/
def reacquiredMeta (req : LeaseRequest) (v : LeaseMeta) : LeaseMeta :=
  { v with version := v.version + 1, expiresAt := now + req.ttl, etcdLease := e.nextLease + 1 }

/-- `AcquireLease` where the key is absent: grant, transaction, record. -/
theorem runCall_created {req : LeaseRequest} {fresh : String} (hok : ¬ (req.tunnelID = "" ∨ req.relayID = ""))
    (hn : e.kvs.lookup (leaseKey req.tunnelID) = none) :
    runCall now 6 ⟨e, i, (Invocation.acquire req fresh).start⟩ =
      ⟨{ (e.grant now (ttlSec req.ttl * second)).1 with
          kvs := e.kvs.insert (leaseKey req.tunnelID) ⟨acquiredMeta e now fresh req, e.nextLease⟩
          events := e.events ++ [.put (leaseKey req.tunnelID) (acquiredMeta e now fresh req)] },
        { i with etcdLeaseOf := i.etcdLeaseOf.insert fresh e.nextLease },
        .acquire req fresh (.done (.ok (acquiredMeta e now fresh req).toLease))⟩ := by
  simp [acquiredMeta, runCall, Invocation.start, AcquirePc.start, hok, Proc.step, Outcome.map, acquireStep, Net.send,
    grantRequest, createOrGet, put, grant, hn, Except.map]

theorem runCall_invalid {req : LeaseRequest} {fresh : String} (h : req.tunnelID = "" ∨ req.relayID = "") :
    runCall now 6 ⟨e, i, (Invocation.acquire req fresh).start⟩ =
      ⟨e, i, .acquire req fresh (.done (.error ⟨.invalidArgument, "tunnel_id and relay_id are required"⟩))⟩ := by
  simp [runCall, Invocation.start, AcquirePc.start, h, Proc.step, Outcome.map, acquireStep]

/-- `AcquireLease` where another relay has the key: grant, transaction, revoke. -/
theorem runCall_conflict {req : LeaseRequest} {fresh : String} (hok : ¬ (req.tunnelID = "" ∨ req.relayID = ""))
    {kv : Kv LeaseMeta} (hk : e.kvs.lookup (leaseKey req.tunnelID) = some kv) (hr : kv.value.relayID ≠ req.relayID) :
    runCall now 6 ⟨e, i, (Invocation.acquire req fresh).start⟩ =
      ⟨{ (e.keep fun kv => kv.lease != e.nextLease) with
          leases := ((e.grant now (ttlSec req.ttl * second)).1.leases).erase e.nextLease
          nextLease := e.nextLease + 1 },
        i, .acquire req fresh (.done (.error ⟨.alreadyExists,
          "tunnel " ++ req.tunnelID ++ " already leased by relay " ++ kv.value.relayID⟩))⟩ := by
  simp [runCall, Invocation.start, AcquirePc.start, hok, Proc.step, Outcome.map, acquireStep, Net.send, grantRequest,
    createOrGet, grant, hk, hr, revoke, keep]

/-- `AcquireLease` where the relay has the key itself: grant, transaction, revoke, grant again, put, record. -/
theorem runCall_own {req : LeaseRequest} {fresh : String} (hok : ¬ (req.tunnelID = "" ∨ req.relayID = ""))
    {kv : Kv LeaseMeta} (hk : e.kvs.lookup (leaseKey req.tunnelID) = some kv) (hr : kv.value.relayID = req.relayID) :
    runCall now 6 ⟨e, i, (Invocation.acquire req fresh).start⟩ =
      ⟨{ kvs := (e.keep fun kv => kv.lease != e.nextLease).kvs.insert (leaseKey req.tunnelID)
           ⟨reacquiredMeta e now req kv.value, e.nextLease + 1⟩
         leases := (((e.grant now (ttlSec req.ttl * second)).1.leases).erase e.nextLease).insert (e.nextLease + 1)
           ⟨ttlSec req.ttl * second, now + ttlSec req.ttl * second⟩
         nextLease := e.nextLease + 2
         events := (e.keep fun kv => kv.lease != e.nextLease).events ++
           [.put (leaseKey req.tunnelID) (reacquiredMeta e now req kv.value)] },
        { i with etcdLeaseOf := i.etcdLeaseOf.insert kv.value.leaseID (e.nextLease + 1) },
        .acquire req fresh (.done (.ok (reacquiredMeta e now req kv.value).toLease))⟩ := by
  simp [reacquiredMeta, runCall, Invocation.start, AcquirePc.start, hok, Proc.step, Outcome.map, acquireStep, Net.send,
    grantRequest, createOrGet, grant, hk, hr, revoke, keep, put]

theorem runCall_release {id : String} {l : Nat} (hid : id ≠ "") (hl : i.etcdLeaseOf.lookup id = some l) :
    runCall now 6 ⟨e, i, (Invocation.release id).start⟩ =
      ⟨(Net.ok.send e (·.revoke l)).1, { i with etcdLeaseOf := i.etcdLeaseOf.erase id },
        .release id (.done (.ok ⟨id, "", "", 0, 0⟩))⟩ := by
  simp [runCall, Invocation.start, ReleasePc.start, hid, Proc.step, Outcome.map, releaseStep, hl]

theorem runCall_release_unknown {id : String} (hl : i.etcdLeaseOf.lookup id = none) :
    ∃ st, runCall now 6 ⟨e, i, (Invocation.release id).start⟩ = ⟨e, i, .release id (.done (.error st))⟩ := by
  by_cases hid : id = ""
  · exact ⟨_, by simp [runCall, Invocation.start, ReleasePc.start, hid, Proc.step, Outcome.map, releaseStep]; rfl⟩
  · exact ⟨_, by simp [runCall, Invocation.start, ReleasePc.start, hid, Proc.step, Outcome.map, releaseStep, hl]; rfl⟩

/-- `RenewLease` fails: where it knows an etcd lease and keeps it alive, it then reports the lease as not found. -/
theorem runCall_renew (id : String) (ttl : Duration) (hp : e.kvs.lookup etcdKeyPrefixLeases = none) :
    ∃ st, (runCall now 6 ⟨e, i, (Invocation.renew id ttl).start⟩).pc = .renew id ttl (.done (.error st)) := by
  by_cases hid : id = ""
  · exact ⟨_, by simp [runCall, Invocation.start, RenewPc.start, hid, Proc.step, Outcome.map, renewStep]; rfl⟩
  cases hl : i.etcdLeaseOf.lookup id with
  | none =>
    exact ⟨_, by simp [runCall, Invocation.start, RenewPc.start, hid, Proc.step, Outcome.map, renewStep, hl]; rfl⟩
  | some l =>
    cases hg : e.leases.lookup l with
    | none =>
      exact ⟨_, by simp [runCall, Invocation.start, RenewPc.start, hid, Proc.step, Outcome.map, renewStep, hl, Net.send,
        keepAliveOnce, hg]; rfl⟩
    | some g =>
      exact ⟨_, by simp [runCall, Invocation.start, RenewPc.start, hid, Proc.step, Outcome.map, renewStep, hl, Net.send,
        keepAliveOnce, hg, LeaseStore.get, hp]; rfl⟩

end Calls

/-! ## The watch -/

/-- What `etcdLeaseOf` has for the lease when the watch has caught up. -/
def Both.known (s : Both) (id : String) : Option Nat :=
  (s.unseen.filterMap (putOf id)).getLast?.or (s.inst.etcdLeaseOf.lookup id)

theorem filterMap_deletes (id : String) (ks : List String) : (ks.map .delete).filterMap (putOf id) = [] := by
  simp [putOf]

theorem unseen_append {s s' : Both} (hw : s.inst.watched ≤ s.etcd.events.length)
    {evs : List (WatchEvent String LeaseMeta)} (he : s'.etcd.events = s.etcd.events ++ evs)
    (hi : s'.inst.watched = s.inst.watched) : s'.unseen = s.unseen ++ evs := by
  rw [Both.unseen, he, hi, List.drop_append_of_le_length hw]
  rfl

theorem watched_append {s s' : Both} (hw : s.inst.watched ≤ s.etcd.events.length)
    {evs : List (WatchEvent String LeaseMeta)} (he : s'.etcd.events = s.etcd.events ++ evs)
    (hi : s'.inst.watched = s.inst.watched) : s'.inst.watched ≤ s'.etcd.events.length := by
  rw [hi, he, List.length_append]
  exact Nat.le_add_right_of_le hw

theorem known_of_seen {s : Both} {id : String} (h : s.unseen.filterMap (putOf id) = []) :
    s.known id = s.inst.etcdLeaseOf.lookup id := by
  rw [Both.known, h]
  rfl

theorem known_deletes {s s' : Both} (hw : s.inst.watched ≤ s.etcd.events.length)
    (he : ∃ ks : List String, s'.etcd.events = s.etcd.events ++ ks.map .delete) (hi : s'.inst = s.inst) :
    s'.known = s.known := by
  obtain ⟨ks, he⟩ := he
  funext id
  rw [Both.known, unseen_append hw he (by rw [hi]), List.filterMap_append, filterMap_deletes, List.append_nil, hi]
  rfl

/-- A lease that the call records is also the last one that the watch will report for its id. -/
theorem known_put {s s' : Both} (hw : s.inst.watched ≤ s.etcd.events.length) {ks : List String} {k : String}
    {v : LeaseMeta} (he : s'.etcd.events = s.etcd.events ++ (ks.map .delete ++ [.put k v]))
    (hi : s'.inst = { s.inst with etcdLeaseOf := s.inst.etcdLeaseOf.insert v.leaseID v.etcdLease }) (id : String) :
    s'.known id = if id = v.leaseID then some v.etcdLease else s.known id := by
  rw [Both.known, unseen_append hw he (by rw [hi]), List.filterMap_append, List.filterMap_append, filterMap_deletes, hi]
  by_cases hid : id = v.leaseID
  · simp [putOf, hid]
  · simp [putOf, hid, Ne.symm hid, Both.known]

theorem known_release (s' : Both) {s : Both} (hw : s.inst.watched ≤ s.etcd.events.length) {id : String}
    (hseen : s.unseen.filterMap (putOf id) = []) {ks : List String}
    (he : s'.etcd.events = s.etcd.events ++ ks.map .delete)
    (hi : s'.inst = { s.inst with etcdLeaseOf := s.inst.etcdLeaseOf.erase id }) (id' : String) :
    s'.known id' = if id' = id then none else s.known id' := by
  rw [Both.known, unseen_append hw he (by rw [hi]), List.filterMap_append, filterMap_deletes, List.append_nil, hi]
  by_cases hid : id' = id
  · simp [hid, hseen]
  · simp [hid, Both.known]

theorem known_watch {s : Both} {i : EtcdCoordinator} (h : s.inst.watch s.etcd = some i) :
    Both.known { s with inst := i } = s.known ∧ i.watched ≤ s.etcd.events.length := by
  obtain ⟨ev, hev, rfl⟩ := Option.map_eq_some_iff.1 h
  obtain ⟨hlt, rfl⟩ := List.getElem?_eq_some_iff.1 hev
  refine ⟨funext fun id => ?_, hlt⟩
  have hcons : s.unseen = s.etcd.events[s.inst.watched] :: Both.unseen { s with
      inst := { s.inst.handleEtcdEvent s.etcd.events[s.inst.watched] with watched := s.inst.watched + 1 } } :=
    List.drop_eq_getElem_cons hlt
  rw [Both.known, Both.known, hcons, List.filterMap_cons]
  cases s.etcd.events[s.inst.watched] with
  | delete key => rfl
  | put key v =>
    by_cases hid : v.leaseID = id
    · simp only [putOf, EtcdCoordinator.handleEtcdEvent, hid, List.getLast?_cons, GoMap.lookup_insert_ite, if_true]
      cases (List.filterMap (putOf id) _).getLast? <;> rfl
    · simp [putOf, if_neg hid, EtcdCoordinator.handleEtcdEvent, Ne.symm hid]

/-! ## The simulation -/

/-- Key `k` holds a lease that the table has too, unexpired, with the same
expiry as the etcd lease behind it. -/
structure KeyOk (s : Both) (k : String) (kv : Kv LeaseMeta) : Prop where
  key : k = leaseKey kv.value.tunnelID
  named : kv.value.tunnelID ≠ ""
  table : s.mem.leasesByID.lookup kv.value.leaseID = some kv.value.toLease
  unexpired : s.now ≤ kv.value.expiresAt
  lease : ∃ ttl, s.etcd.leases.lookup kv.lease = some ⟨ttl, kv.value.expiresAt⟩
  known : s.known kv.value.leaseID = some kv.lease

structure Sim (s : Both) : Prop where
  maps : s.mem.Inv
  keys : ∀ k kv, s.etcd.kvs.lookup k = some kv → KeyOk s k kv
  live : ∀ id l, s.mem.leasesByID.lookup id = some l → s.now ≤ l.expiresAt →
    ∃ kv, s.etcd.kvs.lookup (leaseKey l.tunnelID) = some kv ∧ kv.value.toLease = l
  known : ∀ id l, s.mem.leasesByID.lookup id = some l → (s.known id).isSome
  ids : ∀ id l, s.known id = some l → id ∈ s.drawn ∧ id ≠ "" ∧ l < s.etcd.nextLease
  apart : ∀ id id' l, s.known id = some l → s.known id' = some l → id = id'
  recorded : ∀ id, (s.known id).isSome → (grantedIn id s.log).isSome
  held : ∀ id l, grantedIn id s.log = some l → askedLate id s.log = false → s.mem.leasesByID.lookup id = some l
  watched : s.inst.watched ≤ s.etcd.events.length

theorem Sim.absent {s : Both} (hs : Sim s) {t : String} (h : ∀ l, Holds s.mem t l → l.expiresAt < s.now) :
    s.etcd.kvs.lookup (leaseKey t) = none := by
  cases hk : s.etcd.kvs.lookup (leaseKey t) with
  | none => rfl
  | some kv =>
    have hkv := hs.keys _ kv hk
    have ht := leaseKey_inj hkv.key
    exact absurd (h kv.value.toLease ⟨hkv.table, ht.symm⟩) (Int.not_lt.2 hkv.unexpired)

theorem Sim.prefixFree {s : Both} (hs : Sim s) : s.etcd.kvs.lookup etcdKeyPrefixLeases = none := by
  cases hk : s.etcd.kvs.lookup etcdKeyPrefixLeases with
  | none => rfl
  | some kv =>
    have hkv := hs.keys _ kv hk
    exact absurd (leaseKey_inj (hkv.key.symm.trans rfl) : kv.value.tunnelID = "") hkv.named

theorem Sim.lease_lt {s : Both} (hs : Sim s) {k : String} {kv : Kv LeaseMeta} (h : s.etcd.kvs.lookup k = some kv) :
    kv.lease < s.etcd.nextLease := (hs.ids _ _ (hs.keys k kv h).known).2.2

/-- A lease new to etcd has no keys, so revoking it removes none. -/
theorem Sim.keep_fresh {s : Both} (hs : Sim s) (k : String) :
    (s.etcd.keep fun kv => kv.lease != s.etcd.nextLease).kvs.lookup k = s.etcd.kvs.lookup k := by
  simp only [keep, GoMap.lookup_filter]
  cases hk : s.etcd.kvs.lookup k with
  | none => rfl
  | some kv =>
    have hne : kv.lease ≠ s.etcd.nextLease := Nat.ne_of_lt (hs.lease_lt hk)
    simp [Option.filter_some, hne]

/-- What a successful `AcquireLease` leaves on the etcd side: the lease `v`
under its key, attached to a new etcd lease with the same expiry. -/
structure EtcdStored (s s' : Both) (v : LeaseMeta) : Prop where
  kvs : ∀ k, s'.etcd.kvs.lookup k =
    if k = leaseKey v.tunnelID then some ⟨v, v.etcdLease⟩ else s.etcd.kvs.lookup k
  fresh : s.etcd.nextLease ≤ v.etcdLease ∧ v.etcdLease < s'.etcd.nextLease
  lease : ∃ ttl, s'.etcd.leases.lookup v.etcdLease = some ⟨ttl, v.expiresAt⟩
  leases : ∀ x, x < s.etcd.nextLease → s'.etcd.leases.lookup x = s.etcd.leases.lookup x
  known : ∀ id, s'.known id = if id = v.leaseID then some v.etcdLease else s.known id
  watched : s'.inst.watched ≤ s'.etcd.events.length

/-- The table keeps a lease, or purges an expired one whose tunnel the call asks for. -/
def Kept (s s' : Both) (op : Op) (id : String) : Prop :=
  s'.mem.leasesByID.lookup id = s.mem.leasesByID.lookup id ∨
    (s'.mem.leasesByID.lookup id = none ∧
      ∃ l₀, s.mem.leasesByID.lookup id = some l₀ ∧ l₀.expiresAt < s.now ∧ op.asks l₀.tunnelID = true)

theorem Sim.kept {s s' : Both} (hs : Sim s) {op : Op} {r : Reply} (hlog : s'.log = (s.now, op, r) :: s.log)
    {id : String} {l : Lease} (hg : grantedIn id s.log = some l) (ho : askedLate id s'.log = false)
    (hk : Kept s s' op id) : s'.mem.leasesByID.lookup id = some l := by
  rw [hlog, askedLate, hg, Option.any_some, Bool.or_eq_false_iff] at ho
  have hl := hs.held id l hg ho.1
  rcases hk with hk | ⟨-, l₀, hl₀, hlt, hasks⟩
  · exact hk.trans hl
  · cases hl.symm.trans hl₀
    rw [hasks, Bool.and_true, decide_eq_false_iff_not] at ho
    exact absurd hlt ho.2

/-- What it leaves in the table: the same lease, and of the others at most an expired one of the tunnel is purged. -/
structure MemStored (s s' : Both) (fresh : String) (req : LeaseRequest) (l : Lease) : Prop where
  maps : s'.mem.Inv
  stored : s'.mem.leasesByID.lookup l.leaseID = some l
  others : ∀ id, id ≠ l.leaseID → Kept s s' (.acquire fresh req) id
  log : s'.log = (s.now, .acquire fresh req, .lease l) :: s.log
  replaced : ∀ l₀, s.mem.leasesByID.lookup l.leaseID = some l₀ → l₀.tunnelID = l.tunnelID

theorem Sim.acquired {s s' : Both} (hs : Sim s) {v : LeaseMeta} (fresh : String) (req : LeaseRequest)
    (he : EtcdStored s s' v) (hm : MemStored s s' fresh req v.toLease) (hnow : s'.now = s.now)
    (hd : s.drawn ⊆ s'.drawn) (hv : v.leaseID ∈ s'.drawn ∧ v.leaseID ≠ "") (ht : v.tunnelID ≠ "")
    (hx : s.now ≤ v.expiresAt) : Sim s' where
  maps := hm.maps
  watched := he.watched
  keys k kv hk := by
    rw [he.kvs] at hk
    split at hk
    · cases hk
      exact ⟨‹_›, ht, hm.stored, hnow ▸ hx, he.lease, by rw [he.known, if_pos rfl]⟩
    · rename_i hne
      have hkv := hs.keys k kv hk
      have hid : kv.value.leaseID ≠ v.leaseID := by
        intro h
        have h1 := hkv.table
        rw [h] at h1
        exact hne (by rw [hkv.key]; exact congrArg leaseKey (hm.replaced _ h1))
      refine ⟨hkv.key, hkv.named, ?_, hnow ▸ hkv.unexpired, ?_, by rw [he.known, if_neg hid]; exact hkv.known⟩
      · rcases hm.others _ hid with h | ⟨-, l₀, h, hlt, -⟩
        · rw [h]; exact hkv.table
        · rw [hkv.table] at h
          cases h
          exact absurd hlt (Int.not_lt.2 hkv.unexpired)
      · rw [he.leases _ (hs.lease_lt hk)]
        exact hkv.lease
  live id l hl hxl := by
    by_cases hid : id = v.leaseID
    · subst hid
      rw [show s'.mem.leasesByID.lookup v.leaseID = some v.toLease from hm.stored] at hl
      cases hl
      exact ⟨⟨v, v.etcdLease⟩, by rw [he.kvs]; exact if_pos rfl, rfl⟩
    · rcases hm.others id hid with h | ⟨h, -⟩
      · rw [h] at hl
        obtain ⟨kv, hkv, rfl⟩ := hs.live id l hl (hnow ▸ hxl)
        refine ⟨kv, ?_, rfl⟩
        rw [he.kvs, if_neg]
        · exact hkv
        · -- the tunnel would have two leases in the table
          intro h'
          have ht' : kv.value.toLease.tunnelID = v.tunnelID := leaseKey_inj h'
          rw [← h] at hl
          have hh := hm.maps.holds hl
          rw [ht'] at hh
          have hu := hm.maps.unique hh ⟨hm.stored, rfl⟩
          exact hid ((hm.maps.ids id _ hl).1.symm.trans (congrArg Lease.leaseID hu))
      · rw [h] at hl
        cases hl
  known id l hl := by
    rw [he.known]
    split
    · rfl
    · rename_i hid
      rcases hm.others id hid with h | ⟨h, -⟩
      · exact hs.known id l (h ▸ hl)
      · rw [h] at hl
        cases hl
  ids id l hl := by
    rw [he.known] at hl
    split at hl
    · rename_i hid
      cases hl
      exact ⟨hid ▸ hv.1, hid ▸ hv.2, he.fresh.2⟩
    · obtain ⟨h1, h2, h3⟩ := hs.ids id l hl
      exact ⟨hd h1, h2, by have := he.fresh; omega⟩
  apart id id' l h h' := by
    rw [he.known] at h h'
    -- the new etcd lease is behind no other id
    have hnew : ∀ x, s.known x ≠ some v.etcdLease := by
      intro x hx
      have := (hs.ids x _ hx).2.2
      have := he.fresh.1
      omega
    split at h <;> split at h'
    · exact (‹id = v.leaseID›).trans (‹id' = v.leaseID›).symm
    · cases h
      exact absurd h' (hnew id')
    · cases h'
      exact absurd h (hnew id)
    · exact hs.apart id id' l h h'
  recorded id h := by
    rw [he.known] at h
    rw [hm.log, grantedIn]
    split
    · rfl
    · rename_i hid
      have hid : id ≠ v.leaseID := Ne.symm hid
      rw [if_neg hid] at h
      exact hs.recorded id h
  held id l hg ho := by
    have hg' := hg
    rw [hm.log, grantedIn] at hg'
    split at hg'
    · rename_i hid
      cases hg'
      exact hid ▸ hm.stored
    · rename_i hid
      exact hs.kept hm.log hg' ho (hm.others id (Ne.symm hid))

/-- A call that stores nothing: etcd keeps its keys, and the table at most purges expired leases. -/
theorem Sim.quiet {s s' : Both} (hs : Sim s) (hnow : s'.now = s.now) (hd : s.drawn ⊆ s'.drawn) (hinv : s'.mem.Inv)
    {op : Op} {r : Reply} (hlog : s'.log = (s.now, op, r) :: s.log)
    (hsame : ∀ id, grantedIn id s'.log = grantedIn id s.log) (hmem : ∀ id, Kept s s' op id)
    (hkvs : ∀ k, s'.etcd.kvs.lookup k = s.etcd.kvs.lookup k)
    (hleases : ∀ x, x < s.etcd.nextLease → s'.etcd.leases.lookup x = s.etcd.leases.lookup x)
    (hnext : s.etcd.nextLease ≤ s'.etcd.nextLease)
    (hev : ∃ ks : List String, s'.etcd.events = s.etcd.events ++ ks.map .delete) (hinst : s'.inst = s.inst) :
    Sim s' := by
  have hknown := known_deletes hs.watched hev hinst
  refine ⟨hinv, fun k kv hk => ?_, fun id l hl hx => ?_, fun id l hl => ?_, fun id l hl => ?_, ?_, fun id h => ?_,
    fun id l hg ho => hs.kept hlog (hsame id ▸ hg) ho (hmem id), ?_⟩
  · rw [hkvs] at hk
    have hkv := hs.keys k kv hk
    refine ⟨hkv.key, hkv.named, ?_, hnow ▸ hkv.unexpired, ?_, by rw [hknown]; exact hkv.known⟩
    · rcases hmem kv.value.leaseID with h | ⟨-, l₀, h, hlt, -⟩
      · rw [h]; exact hkv.table
      · rw [hkv.table] at h
        cases h
        exact absurd hlt (Int.not_lt.2 hkv.unexpired)
    · rw [hleases _ (hs.lease_lt hk)]
      exact hkv.lease
  · rw [hkvs]
    rcases hmem id with h | ⟨h, -⟩
    · exact hs.live id l (h ▸ hl) (hnow ▸ hx)
    · rw [h] at hl
      cases hl
  · rw [hknown]
    rcases hmem id with h | ⟨h, -⟩
    · exact hs.known id l (h ▸ hl)
    · rw [h] at hl
      cases hl
  · obtain ⟨h1, h2, h3⟩ := hs.ids id l (hknown ▸ hl)
    exact ⟨hd h1, h2, by omega⟩
  · rw [hknown]
    exact hs.apart
  · rw [hsame]
    exact hs.recorded id (hknown ▸ h)
  · obtain ⟨ks, hev⟩ := hev
    exact watched_append hs.watched hev (by rw [hinst])

section Stored

variable {s s' : Both} {req : LeaseRequest} {fresh : String}

theorem Sim.etcdStored_own (hs : Sim s) (httl : req.ttl % second = 0) (hpos : 0 < req.ttl)
    (hok : ¬ (req.tunnelID = "" ∨ req.relayID = "")) {kv : Kv LeaseMeta}
    (hk : s.etcd.kvs.lookup (leaseKey req.tunnelID) = some kv) (hr : kv.value.relayID = req.relayID)
    (he : s'.etcd = (runCall s.now 6 ⟨s.etcd, s.inst, (Invocation.acquire req fresh).start⟩).etcd)
    (hi : s'.inst = (runCall s.now 6 ⟨s.etcd, s.inst, (Invocation.acquire req fresh).start⟩).inst) :
    EtcdStored s s' (reacquiredMeta s.etcd s.now req kv.value) := by
  have ht : req.tunnelID = kv.value.tunnelID := leaseKey_inj (hs.keys _ _ hk).key
  rw [runCall_own s.etcd s.inst s.now hok hk hr, ttlSec_whole httl hpos] at he hi
  obtain ⟨ks, hks⟩ := keep_events s.etcd fun kv => kv.lease != s.etcd.nextLease
  have hev : s'.etcd.events = s.etcd.events ++ (ks.map .delete ++
      [.put (leaseKey req.tunnelID) (reacquiredMeta s.etcd s.now req kv.value)]) := by
    rw [he]
    simp only [hks, List.append_assoc]
  refine ⟨fun k => ?_, ⟨Nat.le_succ _, by rw [he]; exact Nat.lt_succ_self _⟩,
    ⟨req.ttl, by rw [he]; simp [reacquiredMeta]⟩, fun x hx => ?_, known_put hs.watched hev hi,
    watched_append hs.watched hev (by rw [hi])⟩
  · rw [he]
    simp only [GoMap.lookup_insert_ite, hs.keep_fresh]
    rw [ht]
    rfl
  · have h1 : x ≠ s.etcd.nextLease := Nat.ne_of_lt hx
    have h2 : x ≠ s.etcd.nextLease + 1 := by omega
    rw [he]
    simp [grant, h1, h2]

theorem Sim.etcdStored_created (hs : Sim s) (httl : req.ttl % second = 0) (hpos : 0 < req.ttl)
    (hok : ¬ (req.tunnelID = "" ∨ req.relayID = "")) (hn : s.etcd.kvs.lookup (leaseKey req.tunnelID) = none)
    (he : s'.etcd = (runCall s.now 6 ⟨s.etcd, s.inst, (Invocation.acquire req fresh).start⟩).etcd)
    (hi : s'.inst = (runCall s.now 6 ⟨s.etcd, s.inst, (Invocation.acquire req fresh).start⟩).inst) :
    EtcdStored s s' (acquiredMeta s.etcd s.now fresh req) := by
  rw [runCall_created s.etcd s.inst s.now hok hn, ttlSec_whole httl hpos] at he hi
  have hev : s'.etcd.events = s.etcd.events ++ (([] : List String).map .delete ++
      [.put (leaseKey req.tunnelID) (acquiredMeta s.etcd s.now fresh req)]) := by
    rw [he]
    rfl
  refine ⟨fun k => ?_, ⟨le_rfl, by rw [he]; exact Nat.lt_succ_self _⟩,
    ⟨req.ttl, by rw [he]; simp [acquiredMeta, grant]⟩, fun x hx => ?_, known_put hs.watched hev hi,
    watched_append hs.watched hev (by rw [hi])⟩
  · rw [he]
    simp only [GoMap.lookup_insert_ite]
    rfl
  · rw [he]
    simp [grant, Nat.ne_of_lt hx]

end Stored

theorem Sim.fresh_free {s : Both} (hs : Sim s) {fresh : String} (hnew : fresh ∉ s.drawn) :
    s.mem.leasesByID.lookup fresh = none := by
  cases hf : s.mem.leasesByID.lookup fresh with
  | none => rfl
  | some l =>
    obtain ⟨x, hx⟩ := Option.isSome_iff_exists.1 (hs.known fresh l hf)
    exact absurd (hs.ids fresh x hx).1 hnew

theorem Sim.acquire {s : Both} (hs : Sim s) {fresh : String} {req : LeaseRequest}
    (hl : Legal s (.acquire fresh req) = true) (hpos : 0 < req.ttl) :
    Agree s (.acquire fresh req) ∧ Sim (s.step (.acquire fresh req)) := by
  obtain ⟨hfresh, hnew, httl⟩ := of_decide_eq_true hl
  have hc := acquireLease_cases hs.maps s.now fresh req
  have hstep : s.step (.acquire fresh req) =
      let o := runCall s.now 6 ⟨s.etcd, s.inst, (Invocation.acquire req fresh).start⟩
      { s with mem := (s.mem.acquireLease s.now fresh req).1, etcd := o.etcd, inst := o.inst, drawn := fresh :: s.drawn,
               log := (s.now, .acquire fresh req, .ofExcept (s.mem.acquireLease s.now fresh req).2) :: s.log } := rfl
  have hmr : (s.memCall (.acquire fresh req)).2 = .ofExcept (s.mem.acquireLease s.now fresh req).2 := rfl
  have her : s.etcdReply (.acquire fresh req) =
      ((runCall s.now 6 ⟨s.etcd, s.inst, (Invocation.acquire req fresh).start⟩).pc.result.map .ofExcept).getD
        .nothing := rfl
  simp only [Agree, hmr, her, hstep]
  have hd : s.drawn ⊆ fresh :: s.drawn := List.subset_cons_self _ _
  have hlater : s.now ≤ s.now + req.ttl := Int.le_add_of_nonneg_right (Int.le_of_lt hpos)
  generalize s.mem.acquireLease s.now fresh req = r at hc
  cases hc with
  | invalid h =>
    rw [runCall_invalid s.etcd s.inst s.now h]
    exact ⟨⟨rfl, fun _ => rfl⟩, hs.quiet rfl hd hs.maps rfl (fun _ => rfl) (fun _ => .inl rfl) (fun _ => rfl)
      (fun _ _ => rfl) le_rfl ⟨[], (List.append_nil _).symm⟩ rfl⟩
  | conflict l hok hl he hr =>
    obtain ⟨kv, hkv, rfl⟩ := hs.live _ _ hl.1 (Int.not_lt.1 he)
    rw [hl.2] at hkv
    rw [runCall_conflict s.etcd s.inst s.now hok hkv hr]
    refine ⟨⟨rfl, fun _ => rfl⟩, hs.quiet rfl hd hs.maps rfl (fun _ => rfl) (fun _ => .inl rfl) hs.keep_fresh
      (fun x hx => ?_) (Nat.le_succ _) (keep_events s.etcd fun kv => kv.lease != s.etcd.nextLease) rfl⟩
    simp [grant, Nat.ne_of_lt hx]
  | extend l hok hl he hr =>
    -- the same relay again: both sides keep the lease id and count the version up
    obtain ⟨kv, hkv, rfl⟩ := hs.live _ _ hl.1 (Int.not_lt.1 he)
    have ht : kv.value.tunnelID = req.tunnelID := hl.2
    rw [hl.2] at hkv
    have hne := (hs.maps.ids _ _ hl.1).2
    have hdr := (hs.ids _ _ (hs.keys _ _ hkv).known).1
    have hvl : (reacquiredMeta s.etcd s.now req kv.value).toLease = extended kv.value.toLease s.now req := by
      simp only [LeaseMeta.toLease, reacquiredMeta, extended, Lease.mk.injEq, and_true, true_and]
      exact hr
    refine ⟨?_, hs.acquired fresh req (hs.etcdStored_own httl hpos hok hkv hr rfl rfl) ?_ rfl hd
      ⟨.tail _ hdr, hne⟩ (ht ▸ fun h => hok (.inl h)) hlater⟩
    · rw [runCall_own s.etcd s.inst s.now hok hkv hr]
      exact ⟨rfl, fun _ => decide_eq_true ⟨rfl, hr.symm, rfl⟩⟩
    · rw [hvl]
      refine ⟨inv_extended hs.maps hl s.now req, by simp, fun id hid => .inl ?_, rfl, fun l₀ h₀ => ?_⟩
      · exact (putLease_leases _ _ _ _).trans (if_neg hid)
      · have h : kv.value.toLease = l₀ := Option.some.inj (hl.1.symm.trans h₀)
        rw [← h]
        rfl
  | grant m' hok hm =>
    -- an expired lease that MemCoordinator purges here has lost its key in etcd before
    obtain ⟨hinv, hnone, hsub⟩ := grant_purged hs.maps hm
    have hfree := hs.fresh_free hnew
    have hfree' : m'.leasesByID.lookup fresh = none := by
      rcases hsub fresh with h | ⟨h, -⟩
      · exact h.trans hfree
      · exact h
    have habs : s.etcd.kvs.lookup (leaseKey req.tunnelID) = none := by
      refine hs.absent fun l hl => ?_
      rcases hm with ⟨-, hn⟩ | ⟨l₀, hl₀, he, -⟩
      · exact absurd hl (hn l)
      · rwa [hs.maps.unique hl hl₀]
    refine ⟨?_, hs.acquired fresh req (hs.etcdStored_created httl hpos hok habs rfl rfl) ?_ rfl hd
      ⟨.head _, hfresh⟩ (fun h => hok (.inl h)) hlater⟩
    · rw [runCall_created s.etcd s.inst s.now hok habs]
      exact ⟨rfl, fun _ => decide_eq_true ⟨rfl, rfl, rfl⟩⟩
    · refine ⟨inv_granted hinv hnone hfresh hfree' s.now, ?_, fun id hid => ?_, rfl, fun l₀ h₀ => ?_⟩
      · exact (putLease_leases _ _ _ _).trans (if_pos rfl)
      · have hput : (m'.putLease s.now (granted s.now fresh req)).leasesByID.lookup id = m'.leasesByID.lookup id :=
          (putLease_leases _ _ _ _).trans (if_neg hid)
        rw [Kept, hput]
        exact (hsub id).imp_right fun ⟨hn, l₀, hl₀, hlt, ht⟩ => ⟨hn, l₀, hl₀, hlt, decide_eq_true ht.symm⟩
      · rw [show (acquiredMeta s.etcd s.now fresh req).toLease.leaseID = fresh from rfl, hfree] at h₀
        cases h₀

theorem Sim.current {s : Both} (hs : Sim s) (t : String) : Agree s (.current t) ∧ Sim (s.step (.current t)) := by
  have hstep : s.step (.current t) = { s with
      mem := (s.mem.currentLeaseLocked t s.now).1
      log := (s.now, .current t, (s.mem.currentLeaseLocked t s.now).2.elim .nothing .lease) :: s.log } := rfl
  have hmr : (s.memCall (.current t)).2 = (s.mem.currentLeaseLocked t s.now).2.elim .nothing .lease := rfl
  have her : s.etcdReply (.current t) = (currentLeaseEtcd s.now t s.etcd).elim .nothing .lease := rfl
  have hquiet (m : MemCoordinator) (r : Reply) (hinv : m.Inv)
      (hk : ∀ id, Kept s { s with mem := m, log := (s.now, .current t, r) :: s.log } (.current t) id) :
      Sim { s with mem := m, log := (s.now, .current t, r) :: s.log } :=
    hs.quiet rfl (List.Subset.refl _) hinv rfl (fun _ => rfl) hk (fun _ => rfl) (fun _ _ => rfl) le_rfl
      ⟨[], (List.append_nil _).symm⟩ rfl
  simp only [Agree, hmr, her, hstep]
  have hgone : (∀ l, Holds s.mem t l → l.expiresAt < s.now) → currentLeaseEtcd s.now t s.etcd = none := by
    intro h
    simp [currentLeaseEtcd, LeaseStore.get, hs.absent h]
  rcases currentLeaseLocked_cases hs.maps t s.now with ⟨l, hl, he, hc⟩ | ⟨l, hl, he, hc⟩ | ⟨hn, hc⟩ <;> rw [hc]
  · obtain ⟨kv, hkv, rfl⟩ := hs.live _ _ hl.1 (Int.not_lt.1 he)
    rw [hl.2] at hkv
    have hcur : currentLeaseEtcd s.now t s.etcd = some kv.value.toLease := by
      have he' : ¬ kv.value.expiresAt < s.now := he
      simp [currentLeaseEtcd, LeaseStore.get, hkv, he']
    rw [hcur]
    exact ⟨⟨rfl, fun _ => decide_eq_true ⟨rfl, rfl, rfl⟩⟩, hquiet _ _ hs.maps fun _ => .inl rfl⟩
  · rw [hgone fun l' hl' => by rwa [hs.maps.unique hl' hl]]
    refine ⟨⟨rfl, fun _ => rfl⟩, hquiet _ _ (inv_drop hs.maps hl.1) fun id => ?_⟩
    refine ((grant_purged hs.maps (.inr ⟨l, hl, he, rfl⟩)).2.2 id).imp_right ?_
    exact fun ⟨hn, l₀, hl₀, hlt, ht⟩ => ⟨hn, l₀, hl₀, hlt, decide_eq_true ht.symm⟩
  · rw [hgone fun l' hl' => absurd hl' (hn l')]
    exact ⟨⟨rfl, fun _ => rfl⟩, hquiet _ _ hs.maps fun _ => .inl rfl⟩

theorem Sim.renew {s : Both} (hs : Sim s) {id : String} {ttl : Duration} (hl : Legal s (.renew id ttl) = true) :
    ¬ Agree s (.renew id ttl) := by
  obtain ⟨l, hl, hx⟩ := (Option.any_eq_true _ _).1 (of_decide_eq_true hl).2
  have hmr : (s.memCall (.renew id ttl)).2 = .ofExcept (s.mem.renewLease s.now id ttl).2 := rfl
  have her : s.etcdReply (.renew id ttl) =
      ((runCall s.now 6 ⟨s.etcd, s.inst, (Invocation.renew id ttl).start⟩).pc.result.map .ofExcept).getD .nothing := rfl
  obtain ⟨st, hrun⟩ := runCall_renew s.etcd s.inst s.now id ttl hs.prefixFree
  rintro ⟨h, -⟩
  rw [hmr, her, hrun] at h
  rcases renewLease_cases hs.maps s.now id ttl with ⟨st', -, hlate⟩ | ⟨l', -, -, hm⟩
  · exact absurd (hlate l hl) (Int.not_lt.2 (of_decide_eq_true hx))
  · rw [hm] at h
    cases h

/-- The state after the release of lease `l`, with etcd lease `x` behind it. -/
def Both.without (s : Both) (id : String) (l : Lease) (x : Nat) : Both :=
  { s with
    mem := s.mem.drop id l
    etcd := (Net.ok.send s.etcd (·.revoke x)).1
    inst := { s.inst with etcdLeaseOf := s.inst.etcdLeaseOf.erase id }
    log := (s.now, .release id, .lease l) :: s.log }

theorem Both.without_leases (s : Both) (id : String) (l : Lease) (x : Nat) (id' : String) :
    (s.without id l x).mem.leasesByID.lookup id' = if id' = id then none else s.mem.leasesByID.lookup id' :=
  drop_leases _ _ _ _

theorem Both.without_granted (s : Both) (id : String) (l : Lease) (x : Nat) (id' : String) :
    grantedIn id' (s.without id l x).log = if id = id' then none else grantedIn id' s.log := rfl

theorem Sim.revoked {s : Both} (hs : Sim s) (id : String) (l : Lease) (x : Nat) :
    (∀ k, (s.without id l x).etcd.kvs.lookup k = (s.etcd.kvs.lookup k).filter fun kv => kv.lease != x) ∧
    (∀ y, y ≠ x → (s.without id l x).etcd.leases.lookup y = s.etcd.leases.lookup y) ∧
    (s.without id l x).etcd.nextLease = s.etcd.nextLease ∧
    ∃ ks : List String, (s.without id l x).etcd.events = s.etcd.events ++ ks.map .delete := by
  cases hx : s.etcd.leases.lookup x with
  | none =>
    -- the etcd lease has expired, and its keys went with it
    have hs' : (s.without id l x).etcd = s.etcd := by simp [Both.without, Net.send, revoke, hx]
    rw [hs']
    refine ⟨fun k => ?_, fun _ _ => rfl, rfl, [], by simp⟩
    cases hk : s.etcd.kvs.lookup k with
    | none => rfl
    | some kv =>
      have hne : kv.lease ≠ x := by
        rintro rfl
        obtain ⟨ttl, h⟩ := (hs.keys k kv hk).lease
        rw [hx] at h
        cases h
      simp [Option.filter_some, hne]
  | some g =>
    have hs' : (s.without id l x).etcd =
        { s.etcd.keep (fun kv => kv.lease != x) with leases := s.etcd.leases.erase x } := by
      simp [Both.without, Net.send, revoke, hx]
    rw [hs']
    exact ⟨fun k => by simp [keep], fun y hy => by simp [hy], rfl,
      keep_events s.etcd fun kv => kv.lease != x⟩

theorem Sim.released {s : Both} (hs : Sim s) {id : String} {l : Lease} {x : Nat}
    (hl : s.mem.leasesByID.lookup id = some l) (hx : s.known id = some x)
    (hseen : s.unseen.filterMap (putOf id) = []) : Sim (s.without id l x) := by
  obtain ⟨hkvs, hleases, hnext, ks, hev⟩ := hs.revoked id l x
  have hin := known_release (s.without id l x) hs.watched hseen hev rfl
  -- a key is attached to `x` exactly when it carries the released id
  have hid : ∀ k kv, s.etcd.kvs.lookup k = some kv → (kv.lease = x ↔ kv.value.leaseID = id) := by
    intro k kv hk
    have hkn := (hs.keys k kv hk).known
    constructor
    · rintro rfl
      exact hs.apart _ _ _ hkn hx
    · intro h
      rw [h, hx] at hkn
      exact (Option.some.inj hkn).symm
  have hsplit : ∀ k kv, (s.without id l x).etcd.kvs.lookup k = some kv →
      s.etcd.kvs.lookup k = some kv ∧ kv.value.leaseID ≠ id := by
    intro k kv hk
    rw [hkvs, Option.filter_eq_some_iff] at hk
    exact ⟨hk.1, fun h => by simpa [(hid k kv hk.1).2 h] using hk.2⟩
  have hdrop : ∀ id' l', (s.without id l x).mem.leasesByID.lookup id' = some l' →
      id' ≠ id ∧ s.mem.leasesByID.lookup id' = some l' := by
    intro id' l' hl'
    rw [Both.without_leases] at hl'
    split at hl'
    · cases hl'
    · exact ⟨‹_›, hl'⟩
  refine ⟨inv_drop hs.maps hl, fun k kv hk => ?_, fun id' l' hl' hx' => ?_, fun id' l' hl' => ?_, fun id' y hy => ?_,
    fun a b y ha hb => ?_, fun id' h => ?_, fun id' l' hg ho => ?_, ?_⟩
  · obtain ⟨hk, hne⟩ := hsplit k kv hk
    have hkv := hs.keys k kv hk
    refine ⟨hkv.key, hkv.named, by rw [Both.without_leases, if_neg hne]; exact hkv.table, hkv.unexpired, ?_,
      by rw [hin, if_neg hne]; exact hkv.known⟩
    rw [hleases _ fun h => hne ((hid k kv hk).1 h)]
    exact hkv.lease
  · obtain ⟨hne, hl'⟩ := hdrop id' l' hl'
    obtain ⟨kv, hkv, rfl⟩ := hs.live id' l' hl' hx'
    refine ⟨kv, ?_, rfl⟩
    have hne' : kv.lease ≠ x := fun h => hne ((hs.maps.ids id' _ hl').1.symm.trans ((hid _ kv hkv).1 h))
    rw [hkvs, hkv]
    simp [Option.filter_some, hne']
  · obtain ⟨hne, hl'⟩ := hdrop id' l' hl'
    rw [hin, if_neg hne]
    exact hs.known id' l' hl'
  · rw [hin] at hy
    split at hy
    · cases hy
    · rw [hnext]
      exact hs.ids id' y hy
  · rw [hin] at ha hb
    split at ha <;> split at hb
    · cases ha
    · cases ha
    · cases hb
    · exact hs.apart a b y ha hb
  · rw [hin] at h
    split at h
    · cases h
    · rename_i hne
      rw [Both.without_granted, if_neg (Ne.symm hne)]
      exact hs.recorded id' h
  · have hg' := hg
    rw [Both.without_granted] at hg'
    split at hg'
    · cases hg'
    · rename_i hne
      refine hs.kept rfl hg' ho (.inl ?_)
      rw [Both.without_leases, if_neg (Ne.symm hne)]
  · exact watched_append hs.watched hev rfl

theorem Sim.release {s : Both} (hs : Sim s) {id : String} (ht : Timely s (.release id) = true) :
    Agree s (.release id) ∧ Sim (s.step (.release id)) := by
  obtain ⟨hover, hseen⟩ := of_decide_eq_true ht
  have hstep : s.step (.release id) =
      let o := runCall s.now 6 ⟨s.etcd, s.inst, (Invocation.release id).start⟩
      { s with mem := (s.mem.releaseLease id).1, etcd := o.etcd, inst := o.inst,
               log := (s.now, .release id, .ofExcept (s.mem.releaseLease id).2) :: s.log } := rfl
  have hmr : (s.memCall (.release id)).2 = .ofExcept (s.mem.releaseLease id).2 := rfl
  have her : s.etcdReply (.release id) =
      ((runCall s.now 6 ⟨s.etcd, s.inst, (Invocation.release id).start⟩).pc.result.map .ofExcept).getD .nothing := rfl
  simp only [Agree, hmr, her, hstep]
  cases hx : s.known id with
  | none =>
    obtain ⟨st, hr⟩ := runCall_release_unknown s.etcd s.inst s.now ((known_of_seen hseen).symm.trans hx)
    rcases releaseLease_cases hs.maps id with ⟨st', hm, hn⟩ | ⟨l, hl, -⟩
    · rw [hr, hm]
      exact ⟨⟨rfl, fun h => by cases h⟩, hs.quiet rfl (List.Subset.refl _) hs.maps rfl (fun _ => rfl)
        (fun _ => .inl rfl) (fun _ => rfl) (fun _ _ => rfl) le_rfl ⟨[], (List.append_nil _).symm⟩ rfl⟩
    · have := hs.known id l hl
      rw [hx] at this
      cases this
  | some x =>
    rw [runCall_release s.etcd s.inst s.now (hs.ids id x hx).2.1 ((known_of_seen hseen).symm.trans hx)]
    obtain ⟨l, hg⟩ := Option.isSome_iff_exists.1 (hs.recorded id (by rw [hx]; rfl))
    -- nobody asked for the tunnel after the expiry, so the table still has the lease
    have hl := hs.held id l hg hover
    rcases releaseLease_cases hs.maps id with ⟨st, hm, hn⟩ | ⟨l', hl', hm⟩
    · rw [hl] at hn
      cases hn
    · rw [hm]
      exact ⟨⟨rfl, fun h => by cases h⟩, hs.released hl' hx hseen⟩

/-- Time passes: etcd drops exactly the keys whose lease the table now treats as expired. -/
theorem Sim.advance {s : Both} (hs : Sim s) (d : Nat) : Sim (s.step (.advance d)) := by
  have hle : s.now ≤ s.now + d := Int.le_add_of_nonneg_right (Int.natCast_nonneg d)
  obtain ⟨ks, hks⟩ := keep_events s.etcd fun kv => (s.etcd.leases.lookup kv.lease).any fun l => s.now + d ≤ l.deadline
  have hin : (s.step (.advance d)).known = s.known := known_deletes hs.watched ⟨ks, hks⟩ rfl
  have hkvs : ∀ k kv, (s.etcd.expire (s.now + d)).kvs.lookup k = some kv ↔
      s.etcd.kvs.lookup k = some kv ∧ s.now + d ≤ kv.value.expiresAt := by
    intro k kv
    simp only [expire, keep, GoMap.lookup_filter, Option.filter_eq_some_iff]
    refine and_congr_right fun hk => ?_
    obtain ⟨ttl, hg⟩ := (hs.keys k kv hk).lease
    simp [hg]
  refine ⟨hs.maps, fun k kv hk => ?_, fun id l hl hx => ?_, hin ▸ hs.known, hin ▸ hs.ids, hin ▸ hs.apart,
    hin ▸ hs.recorded, hs.held, watched_append hs.watched hks rfl⟩
  · obtain ⟨hk, hx⟩ := (hkvs k kv).1 hk
    have hkv := hs.keys k kv hk
    obtain ⟨ttl, hg⟩ := hkv.lease
    refine ⟨hkv.key, hkv.named, hkv.table, hx, ⟨ttl, ?_⟩, hin ▸ hkv.known⟩
    simp only [Both.step, expire, GoMap.lookup_filter, hg, Option.filter_some]
    simp [hx]
  · obtain ⟨kv, hkv, rfl⟩ := hs.live id l hl (Int.le_trans hle hx)
    exact ⟨kv, (hkvs _ kv).2 ⟨hkv, hx⟩, rfl⟩

theorem Sim.watch {s : Both} (hs : Sim s) : Sim (s.step .watch) := by
  simp only [Both.step]
  cases hi : s.inst.watch s.etcd with
  | none => exact hs
  | some i =>
    obtain ⟨hin, hw⟩ := known_watch hi
    refine ⟨hs.maps, fun k kv hk => ?_, hs.live, hin ▸ hs.known, hin ▸ hs.ids, hin ▸ hs.apart, hin ▸ hs.recorded,
      hs.held, hw⟩
    have hkv := hs.keys k kv hk
    exact ⟨hkv.key, hkv.named, hkv.table, hkv.unexpired, hkv.lease, hin ▸ hkv.known⟩

theorem sim_init (t₀ : Time) : Sim { now := t₀ } := by
  constructor <;> first | exact inv_new | simp [new, Both.known, Both.unseen, grantedIn]

/-! ## When the two agree -/

/-- Over any sequence of calls, with the watch behind them, in which leases are acquired for some time and released in
time, the two coordinators agree on every call exactly when there is no renewal. -/
theorem coordinators_agree_iff (t₀ : Time) (ops : List Op)
    (h : Along Both.step (fun s op => Legal s op ∧ Timely s op) { now := t₀ } ops) :
    Along Both.step Agree { now := t₀ } ops ↔ Along Both.step (fun _ op => ¬ op.renews) { now := t₀ } ops := by
  refine along_iff Sim (fun s op hs hd => ?_) (fun s op hs hd hr => ?_) (sim_init t₀) h
  · cases op with
    | acquire fresh req => exact iff_of_true (hs.acquire hd.1 (of_decide_eq_true hd.2)).1 Bool.false_ne_true
    | renew id ttl => exact iff_of_false (hs.renew hd.1) fun hr => hr rfl
    | release id => exact iff_of_true (hs.release hd.2).1 Bool.false_ne_true
    | current t => exact iff_of_true (hs.current t).1 Bool.false_ne_true
    | advance d => exact iff_of_true ⟨rfl, fun _ => rfl⟩ Bool.false_ne_true
    | watch => exact iff_of_true ⟨rfl, fun _ => rfl⟩ Bool.false_ne_true
  · cases op with
    | acquire fresh req => exact (hs.acquire hd.1 (of_decide_eq_true hd.2)).2
    | renew id ttl => exact absurd rfl hr
    | release id => exact (hs.release hd.2).2
    | current t => exact (hs.current t).2
    | advance d => exact hs.advance d
    | watch => exact hs.watch

/-- A lease expires, another relay takes the tunnel over and extends its lease, and the lease is released; the watch
handles the puts one by one. -/
def takesOver : List Op :=
  [.acquire "u0" ⟨"t-a", "A", second⟩, .advance 1000000001, .acquire "u1" ⟨"t-a", "B", second⟩, .watch, .current "t-a",
    .acquire "u2" ⟨"t-a", "B", second⟩, .watch, .watch, .watch, .release "u1", .release "u1"]

theorem coordinators_agree_takeover : Along Both.step Agree { now := 0 } takesOver :=
  (coordinators_agree_iff 0 takesOver (by decide +kernel)).2 (by decide +kernel)

/-- The coordinators do not agree on a legal sequence. -/
def Disagree (ops : List Op) : Prop :=
  Along Both.step (fun s op => Legal s op) { now := 0 } ops ∧ ¬ Along Both.step Agree { now := 0 } ops

instance (ops : List Op) : Decidable (Disagree ops) := inferInstanceAs (Decidable (_ ∧ _))

/-- A live lease is renewed: `MemCoordinator` extends it, `EtcdCoordinator` reports it as not found. A lease is
released before the watch has handled its put, and released again after it: the put has brought it back. A lease is
extended and released between the two puts: the etcd lease behind its key is not the one that is revoked. An expired
lease is released after a look at its tunnel. A lease for no time is kept by etcd for a second. -/
theorem etcd_renew_disagrees :
    Disagree [.acquire "u0" ⟨"t-a", "A", second⟩, .renew "u0" second] ∧
    Disagree [.acquire "u0" ⟨"t-a", "A", second⟩, .release "u0", .watch, .release "u0"] ∧
    Disagree [.acquire "u0" ⟨"t-a", "A", second⟩, .acquire "u1" ⟨"t-a", "A", second⟩, .watch, .release "u0",
      .current "t-a"] ∧
    Disagree [.acquire "u0" ⟨"t-a", "A", second⟩, .watch, .advance 1000000001, .current "t-a", .release "u0"] ∧
    Disagree [.acquire "u0" ⟨"t-a", "A", 0⟩, .advance 1, .acquire "u1" ⟨"t-a", "B", second⟩] := by
  decide +kernel

end TunnelEdge.Registry
