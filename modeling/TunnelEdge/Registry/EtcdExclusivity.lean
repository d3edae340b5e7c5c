import TunnelEdge.Lib.Runs
import TunnelEdge.Registry.Etcd
/-!
# Who holds a lease key in etcd

Any number of registry instances over one etcd, any number of lease calls on
them, and every interleaving of their requests, of lost requests and answers,
of watch deliveries and of lease expiry. Each step advances a step counter that
stamps when a call was invoked, stored its lease and returned, and when a key
was removed.

The two writes of `AcquireLease` differ. The transaction creates the key only
if it is absent. The `Put` of a re-acquisition is unconditional and comes two
requests after the transaction that read the owner.
-/

namespace TunnelEdge.Registry

open GoLib LeaseStore

/-- A call on instance `inst`, with the times at which it was invoked, stored its lease, and returned. -/
structure CallState where
  inst : Nat
  proc : Proc
  invokedAt : Nat
  wroteAt : Option Nat := none
  returnedAt : Option Nat := none

structure Cluster where
  etcd : Etcd := {}
  insts : Nat → EtcdCoordinator := fun _ => {}
  calls : Nat → Option CallState := fun _ => none
  clock : Nat := 0
  removals : List (Nat × String) := []

inductive Label
  | invoke (n inst : Nat) (op : Invocation)
  | send (n : Nat) (now : Time) (net : Net)
  | watch (inst : Nat)
  | expire (l : Nat)

namespace Cluster

def gone (e e' : Etcd) : List String := e.kvs.keys.filter fun k => (e'.kvs.lookup k).isNone

def tick (s : Cluster) (e' : Etcd) : Cluster :=
  { s with
    etcd := e'
    clock := s.clock + 1
    removals := s.removals ++ (gone s.etcd e').map fun k => (s.clock, k) }

/-- The request of an `AcquireLease` call that put its lease under the key. -/
def stored (e e' : Etcd) : Proc → Bool
  | .acquire _ _ (.txn _) | .acquire _ _ (.put _) => e.events.length < e'.events.length
  | _ => false

def stamp (s : Cluster) (c : CallState) (e' : Etcd) (p : Proc) : CallState :=
  { c with
    proc := p
    wroteAt := if stored s.etcd e' c.proc then some s.clock else c.wroteAt
    returnedAt := p.result.map fun _ => s.clock }

def step (s : Cluster) : Label → Option Cluster
  | .invoke n inst op =>
    match s.calls n with
    | some _ => none
    | none => some { s.tick s.etcd with
        calls := Function.update s.calls n (some
          { inst, proc := op.start, invokedAt := s.clock, returnedAt := op.start.result.map fun _ => s.clock }) }
  | .send n now net =>
    match s.calls n with
    | none => none
    | some c =>
      if c.proc.result.isSome then none
      else
        let o := c.proc.step now net s.etcd (s.insts c.inst)
        some { s.tick o.etcd with
          insts := Function.update s.insts c.inst o.inst
          calls := Function.update s.calls n (some (s.stamp c o.etcd o.pc)) }
  | .watch inst =>
    ((s.insts inst).watch s.etcd).map fun i => { s.tick s.etcd with insts := Function.update s.insts inst i }
  | .expire l =>
    match s.etcd.revoke l with
    | .error _ => none
    | .ok (e, _) => some (s.tick e)

end Cluster

/-! ## Exclusivity -/

/-- An `AcquireLease` of tunnel `t` for relay `r` that returned success. -/
def CallState.Acquired (c : CallState) (t r : String) : Prop :=
  ∃ req fresh l, c.proc = .acquire req fresh (.done (.ok l)) ∧ req.tunnelID = t ∧ req.relayID = r

/-- The key of tunnel `t` was removed after `w` and before `r`. -/
def Cluster.RemovedBetween (s : Cluster) (t : String) (w r : Nat) : Prop :=
  ∃ x, (x, leaseKey t) ∈ s.removals ∧ w < x ∧ x < r

/-- A relay that got the lease of a tunnel keeps it until its key is removed:
a later `AcquireLease` for another relay returns success only after that, and
the key does not carry another relay before that. -/
structure Cluster.Exclusive (s : Cluster) : Prop where
  later : ∀ a b ca cb t A B, s.calls a = some ca → s.calls b = some cb → ca.Acquired t A → cb.Acquired t B →
    A ≠ B → ∀ rb ∈ cb.returnedAt, rb < ca.invokedAt →
    ∃ wb ∈ cb.wroteAt, ∃ ra ∈ ca.returnedAt, s.RemovedBetween t wb ra
  key : ∀ b cb t B, s.calls b = some cb → cb.Acquired t B → ∀ wb ∈ cb.wroteAt, ¬ s.RemovedBetween t wb s.clock →
    ∀ kv, s.etcd.kvs.lookup (leaseKey t) = some kv → kv.value.relayID = B

/-- A re-acquisition sends its unconditional `Put` while the key is absent or
still carries the relay it acquires for. -/
def putsOwn (s : Cluster) : Label → Bool
  | .send n _ _ =>
    match (s.calls n).map CallState.proc with
    | some (.acquire req _ (.put _)) =>
      (s.etcd.kvs.lookup (leaseKey req.tunnelID)).all fun kv => kv.value.relayID = req.relayID
    | _ => true
  | _ => true

/-! ## What one request of a call can do -/

/-- A call that has not stored its lease holds nothing of another relay, and one that returns a lease has stored it. -/
def AcquirePc.Ok (req : LeaseRequest) (wrote : Bool) : AcquirePc → Prop
  | .grant | .revokeOwn _ _ => wrote = false ∧ req.tunnelID ≠ ""
  | .txn lease | .regrant lease | .put lease => wrote = false ∧ req.tunnelID ≠ "" ∧ lease.relayID = req.relayID
  | .record _ | .done (.ok _) => wrote = true
  | .revokeTxnFailed _ _ | .revokePutFailed _ _ | .done (.error _) => True

theorem send_revoke_shrinks (net : Net) (e : Etcd) (l : Nat) : Shrinks e (net.send e (·.revoke l)).1 := by
  rcases net.send_cases e (·.revoke l) with ⟨err, h⟩ | ⟨e', a, hf, h | ⟨err, h⟩⟩ <;> rw [h]
  · exact .refl e
  · exact revoke_shrinks hf
  · exact revoke_shrinks hf

theorem send_grant_kvs (net : Net) (e : Etcd) (now : Time) (ttl : Duration) :
    (net.send e (grantRequest now ttl)).1.kvs = e.kvs := by
  rcases net.send_cases e (grantRequest now ttl) with ⟨err, h⟩ | ⟨e', a, hf, h | ⟨err, h⟩⟩ <;> rw [h]
  all_goals
    simp only [grantRequest] at hf
    cases hf
    rfl

/-- One request of `AcquireLease` removes keys at most, or it stores the call's
lease: by the transaction where the key was absent, or by the unconditional put. -/
inductive AcquireEffect (req : LeaseRequest) (e : Etcd) (pc : AcquirePc) (o : Outcome AcquirePc) : Prop
  | quiet (shrinks : Shrinks e o.etcd) (still : ∀ fresh, Cluster.stored e o.etcd (.acquire req fresh pc) = false)
      (ok : ∀ wrote, pc.Ok req wrote → o.pc.Ok req wrote)
  | store (lease : LeaseMeta) (l : Nat) (insert : o.etcd.kvs = e.kvs.insert (leaseKey req.tunnelID) ⟨lease, l⟩)
      (stored : ∀ fresh, Cluster.stored e o.etcd (.acquire req fresh pc) = true)
      (by_ : (pc = .txn lease ∧ e.kvs.lookup (leaseKey req.tunnelID) = none) ∨ pc = .put lease)
      (ok : o.pc.Ok req true) (running : ∀ fresh, (Proc.acquire req fresh o.pc).result = none)

theorem acquireStep_effect (req : LeaseRequest) (fresh : String) (now : Time) (net : Net) (e : Etcd)
    (i : EtcdCoordinator) (pc : AcquirePc) : AcquireEffect req e pc (acquireStep req fresh now net e i pc) := by
  cases pc with
  | grant =>
    have hk := send_grant_kvs net e now req.ttl
    simp only [acquireStep]
    split <;> rename_i heq <;> rw [heq] at hk <;>
      refine .quiet (fun k => .inl (by rw [hk])) (fun _ => rfl) fun w h => ?_
    · trivial
    · exact ⟨h.1, h.2, rfl⟩
  | regrant existing =>
    have hk := send_grant_kvs net e now req.ttl
    simp only [acquireStep]
    split <;> rename_i heq <;> rw [heq] at hk <;>
      refine .quiet (fun k => .inl (by rw [hk])) (fun _ => rfl) fun w h => ?_
    · trivial
    · exact h
  | revokeTxnFailed l err => exact .quiet (send_revoke_shrinks net e l) (fun _ => rfl) fun _ _ => trivial
  | revokePutFailed l err => exact .quiet (send_revoke_shrinks net e l) (fun _ => rfl) fun _ _ => trivial
  | revokeOwn l existing =>
    simp only [acquireStep]
    split
    · rename_i hr
      exact .quiet (send_revoke_shrinks net e l) (fun _ => rfl) fun w h => ⟨h.1, h.2, hr⟩
    · exact .quiet (send_revoke_shrinks net e l) (fun _ => rfl) fun _ _ => trivial
  | record lease => exact .quiet (.refl e) (fun _ => rfl) fun w h => h
  | done r => exact .quiet (.refl e) (fun _ => rfl) fun w h => h
  | txn lease =>
    simp only [acquireStep]
    rcases net.send_cases e (·.createOrGet (leaseKey req.tunnelID) lease lease.etcdLease) with
      ⟨err, h⟩ | ⟨e', r, hf, hs⟩
    · rw [h]
      exact .quiet (.refl e) (fun _ => by simp [Cluster.stored]) fun _ _ => trivial
    · rcases createOrGet_ok hf with ⟨rfl, hn, hk, he⟩ | ⟨kv, rfl, hkv, rfl⟩
      · have hst : ∀ fresh, Cluster.stored e e' (.acquire req fresh (.txn lease)) = true := by
          simp [Cluster.stored, he]
        rcases hs with hs | ⟨err, hs⟩ <;> rw [hs]
        · exact .store lease _ hk hst (.inl ⟨rfl, hn⟩) rfl (fun _ => rfl)
        · exact .store lease _ hk hst (.inl ⟨rfl, hn⟩) trivial (fun _ => rfl)
      · rcases hs with hs | ⟨err, hs⟩ <;> rw [hs]
        · exact .quiet (.refl _) (fun _ => by simp [Cluster.stored]) fun w h => ⟨h.1, h.2.1⟩
        · exact .quiet (.refl _) (fun _ => by simp [Cluster.stored]) fun _ _ => trivial
  | put lease =>
    simp only [acquireStep]
    rcases net.send_cases e (·.put (leaseKey req.tunnelID) lease lease.etcdLease) with ⟨err, h⟩ | ⟨e', r, hf, hs⟩
    · rw [h]
      exact .quiet (.refl e) (fun _ => by simp [Cluster.stored]) fun _ _ => trivial
    · obtain ⟨hk, he⟩ := put_ok hf
      have hst : ∀ fresh, Cluster.stored e e' (.acquire req fresh (.put lease)) = true := by
        simp [Cluster.stored, he]
      rcases hs with hs | ⟨err, hs⟩ <;> rw [hs]
      · exact .store lease _ hk hst (.inr rfl) rfl (fun _ => rfl)
      · exact .store lease _ hk hst (.inr rfl) trivial (fun _ => rfl)

theorem releaseStep_shrinks (id : String) (net : Net) (e : Etcd) (i : EtcdCoordinator) (pc : ReleasePc) :
    Shrinks e (releaseStep id net e i pc).etcd := by
  cases pc with
  | take => simp only [releaseStep]; split <;> exact .refl e
  | revoke l => exact send_revoke_shrinks net e l
  | done r => exact .refl e

/-- No key is the bare prefix, so the read of `RenewLease` finds nothing and its put is never reached. -/
theorem renewStep_shrinks (id : String) (ttl : Duration) (now : Time) (net : Net) {e : Etcd} (i : EtcdCoordinator)
    {pc : RenewPc} (hp : e.kvs.lookup etcdKeyPrefixLeases = none) (hpc : ∀ l k v, pc ≠ .put l k v) :
    Shrinks e (renewStep id ttl now net e i pc).etcd ∧ ∀ l k v, (renewStep id ttl now net e i pc).pc ≠ .put l k v := by
  cases pc with
  | find => simp only [renewStep]; split <;> exact ⟨.refl e, fun _ _ _ h => by cases h⟩
  | keepAlive l =>
    simp only [renewStep]
    rcases net.send_cases e (·.keepAliveOnce now l) with ⟨err, h⟩ | ⟨e', a, hf, h | ⟨err, h⟩⟩ <;> rw [h]
    · exact ⟨.refl e, fun _ _ _ h => by cases h⟩
    · exact ⟨fun k => .inl (by rw [keepAliveOnce_kvs hf]), fun _ _ _ h => by cases h⟩
    · exact ⟨fun k => .inl (by rw [keepAliveOnce_kvs hf]), fun _ _ _ h => by cases h⟩
  | get l =>
    have hg : e.get etcdKeyPrefixLeases = [] := by simp [LeaseStore.get, hp]
    cases net <;> simp only [renewStep, Net.send, hg, List.find?_nil] <;>
      exact ⟨.refl e, fun _ _ _ h => by cases h⟩
  | put l k v => exact absurd rfl (hpc l k v)
  | done r => exact ⟨.refl e, fun _ _ _ h => by cases h⟩

/-! ## The invariant of a run -/

def CallState.Ok (c : CallState) : Prop :=
  match c.proc with
  | .acquire req _ pc => pc.Ok req c.wroteAt.isSome
  | .release _ _ => True
  | .renew _ _ pc => ∀ l k v, pc ≠ .put l k v

/-- The stamps of one call are in order. -/
structure CallState.Stamped (c : CallState) (clock : Nat) : Prop where
  invoked : c.invokedAt < clock
  wrote : ∀ w ∈ c.wroteAt, c.invokedAt < w ∧ w < clock
  returned : c.returnedAt.isSome = c.proc.result.isSome ∧ ∀ r ∈ c.returnedAt, ∀ w ∈ c.wroteAt, w < r

/-- The call stored a lease of tunnel `t` for relay `r` at `w`. -/
def CallState.Wrote (c : CallState) (t r : String) (w : Nat) : Prop :=
  ∃ req fresh pc, c.proc = .acquire req fresh pc ∧ req.tunnelID = t ∧ req.relayID = r ∧ c.wroteAt = some w

structure Cluster.Inv (s : Cluster) : Prop where
  stamped : ∀ n c, s.calls n = some c → c.Stamped s.clock
  ok : ∀ n c, s.calls n = some c → c.Ok
  prefixFree : s.etcd.kvs.lookup etcdKeyPrefixLeases = none
  owner : ∀ n c t r w, s.calls n = some c → c.Wrote t r w →
    s.RemovedBetween t w s.clock ∨ ∃ kv, s.etcd.kvs.lookup (leaseKey t) = some kv ∧ kv.value.relayID = r
  apart : ∀ a b ca cb t A B wa wb, s.calls a = some ca → s.calls b = some cb → ca.Wrote t A wa → cb.Wrote t B wb →
    A ≠ B → wb < wa → s.RemovedBetween t wb wa

namespace Cluster

variable {s : Cluster}

theorem mem_gone {e e' : Etcd} {k : String} {kv : Kv LeaseMeta} (h : e.kvs.lookup k = some kv)
    (h' : e'.kvs.lookup k = none) : k ∈ gone e e' := by
  have hk : k ∈ e.kvs.keys := AList.mem_keys.1 (AList.lookup_isSome.1 (by rw [h]; rfl))
  exact List.mem_filter.2 ⟨hk, by simp [h']⟩

theorem RemovedBetween.tick {t : String} {w r : Nat} (h : s.RemovedBetween t w r) (e : Etcd) :
    (s.tick e).RemovedBetween t w r := by
  obtain ⟨x, hx, hw⟩ := h
  exact ⟨x, List.mem_append_left _ hx, hw⟩

theorem RemovedBetween.mono {t : String} {w r r' : Nat} (h : s.RemovedBetween t w r) (hr : r ≤ r') :
    s.RemovedBetween t w r' := by
  obtain ⟨x, hx, hw, hlt⟩ := h
  exact ⟨x, hx, hw, by omega⟩

theorem Stamped.mono {c : CallState} {n m : Nat} (h : c.Stamped n) (hle : n ≤ m) : c.Stamped m :=
  ⟨by have := h.invoked; omega, fun w hw => ⟨(h.wrote w hw).1, by have := (h.wrote w hw).2; omega⟩, h.returned⟩

theorem Inv.tick (hi : s.Inv) {e : Etcd} (he : Shrinks s.etcd e) : (s.tick e).Inv where
  stamped n c hc := Stamped.mono (hi.stamped n c hc) (Nat.le_succ _)
  ok := hi.ok
  prefixFree := by
    rcases he etcdKeyPrefixLeases with h | h
    · exact h.trans hi.prefixFree
    · exact h
  owner n c t r w hc hw := by
    rcases hi.owner n c t r w hc hw with h | ⟨kv, hkv, hr⟩
    · exact .inl ((h.tick e).mono (Nat.le_succ _))
    · rcases he (leaseKey t) with h | h
      · exact .inr ⟨kv, h.trans hkv, hr⟩
      · -- the key goes in this very step
        obtain ⟨_, _, _, _, _, _, hw⟩ := hw
        refine .inl ⟨s.clock, List.mem_append_right _ (List.mem_map.2 ⟨_, mem_gone hkv h, rfl⟩), ?_, Nat.lt_succ_self _⟩
        exact ((hi.stamped n c hc).wrote w hw).2
  apart a b ca cb t A B wa wb ha hb hwa hwb hne hlt := (hi.apart a b ca cb t A B wa wb ha hb hwa hwb hne hlt).tick e

theorem update_call {calls : Nat → Option CallState} {n m : Nat} {c c' : CallState}
    (h : Function.update calls n (some c) m = some c') : (m = n ∧ c' = c) ∨ calls m = some c' := by
  by_cases hm : m = n
  · subst hm
    rw [Function.update_self] at h
    exact .inl ⟨rfl, (Option.some.inj h).symm⟩
  · rw [Function.update_of_ne hm] at h
    exact .inr h

theorem Inv.setCall (hi : s.Inv) (n : Nat) {c : CallState} (hst : c.Stamped s.clock) (hok : c.Ok)
    (hold : ∀ t r w, c.Wrote t r w → ∃ c₀, s.calls n = some c₀ ∧ c₀.Wrote t r w) (insts : Nat → EtcdCoordinator) :
    Inv { s with insts := insts, calls := Function.update s.calls n (some c) } := by
  have hwrote : ∀ m c' t r w, Function.update s.calls n (some c) m = some c' → c'.Wrote t r w →
      ∃ c₀, s.calls m = some c₀ ∧ c₀.Wrote t r w := by
    intro m c' t r w h hw
    rcases update_call h with ⟨rfl, rfl⟩ | h
    · exact hold t r w hw
    · exact ⟨c', h, hw⟩
  refine ⟨fun m c' h => ?_, fun m c' h => ?_, hi.prefixFree, fun m c' t r w h hw => ?_,
    fun a b ca cb t A B wa wb ha hb hwa hwb hne hlt => ?_⟩
  · rcases update_call h with ⟨rfl, rfl⟩ | h
    · exact hst
    · exact hi.stamped m c' h
  · rcases update_call h with ⟨rfl, rfl⟩ | h
    · exact hok
    · exact hi.ok m c' h
  · obtain ⟨c₀, h₀, hw₀⟩ := hwrote m c' t r w h hw
    exact hi.owner m c₀ t r w h₀ hw₀
  · obtain ⟨ca₀, ha₀, hwa₀⟩ := hwrote a ca t A wa ha hwa
    obtain ⟨cb₀, hb₀, hwb₀⟩ := hwrote b cb t B wb hb hwb
    exact hi.apart a b ca₀ cb₀ t A B wa wb ha₀ hb₀ hwa₀ hwb₀ hne hlt

/-- A call stores its lease under a key that is absent or carries its own relay. -/
theorem Inv.store (hi : s.Inv) {n : Nat} {e : Etcd} {c : CallState} {req : LeaseRequest} {lease : LeaseMeta} {l : Nat}
    (hst : c.Stamped (s.clock + 1)) (hok : c.Ok) (hw : c.Wrote req.tunnelID req.relayID s.clock)
    (hne : req.tunnelID ≠ "") (hrel : lease.relayID = req.relayID)
    (hk : e.kvs = s.etcd.kvs.insert (leaseKey req.tunnelID) ⟨lease, l⟩)
    (hown : ∀ kv, s.etcd.kvs.lookup (leaseKey req.tunnelID) = some kv → kv.value.relayID = req.relayID)
    (insts : Nat → EtcdCoordinator) :
    Inv { s.tick e with insts := insts, calls := Function.update s.calls n (some c) } := by
  have hwhat : ∀ t r w, c.Wrote t r w → t = req.tunnelID ∧ r = req.relayID ∧ w = s.clock := by
    rintro t r w ⟨req', fresh', pc', hp', rfl, rfl, hw'⟩
    obtain ⟨req₀, fresh₀, pc₀, hp₀, ht₀, hr₀, hw₀⟩ := hw
    rw [hp₀] at hp'
    cases hp'
    exact ⟨ht₀, hr₀, Option.some.inj (hw'.symm.trans hw₀)⟩
  have hold : ∀ m c' t r w, s.calls m = some c' → c'.Wrote t r w → w < s.clock := by
    rintro m c' t r w h ⟨_, _, _, _, _, _, hw'⟩
    exact ((hi.stamped m c' h).wrote w hw').2
  refine ⟨fun m c' h => ?_, fun m c' h => ?_, ?_, fun m c' t r w h hw' => ?_,
    fun a b ca cb t A B wa wb ha hb hwa hwb hAB hlt => ?_⟩
  · rcases update_call h with ⟨rfl, rfl⟩ | h
    · exact hst
    · exact Stamped.mono (hi.stamped m c' h) (Nat.le_succ _)
  · rcases update_call h with ⟨rfl, rfl⟩ | h
    · exact hok
    · exact hi.ok m c' h
  · have hpre : etcdKeyPrefixLeases ≠ leaseKey req.tunnelID := fun h => hne (leaseKey_inj (h.symm.trans rfl))
    change e.kvs.lookup _ = none
    rw [hk, GoMap.lookup_insert_ite, if_neg hpre]
    exact hi.prefixFree
  · change (s.tick e).RemovedBetween t w (s.clock + 1) ∨ ∃ kv, e.kvs.lookup (leaseKey t) = some kv ∧ _
    rcases update_call h with ⟨rfl, rfl⟩ | h
    · obtain ⟨rfl, rfl, rfl⟩ := hwhat t r w hw'
      exact .inr ⟨⟨lease, l⟩, by rw [hk, GoMap.lookup_insert_ite, if_pos rfl], hrel⟩
    · rcases hi.owner m c' t r w h hw' with h | ⟨kv, hkv, hr⟩
      · exact .inl ((h.tick e).mono (Nat.le_succ _))
      · by_cases ht : t = req.tunnelID
        · subst ht
          exact .inr ⟨⟨lease, l⟩, by rw [hk, GoMap.lookup_insert_ite, if_pos rfl],
            hrel.trans ((hown kv hkv).symm.trans hr)⟩
        · exact .inr ⟨kv, by rw [hk, GoMap.lookup_insert_ite, if_neg fun h => ht (leaseKey_inj h)]; exact hkv, hr⟩
  · refine RemovedBetween.tick ?_ e
    rcases update_call ha with ⟨rfl, rfl⟩ | ha' <;> rcases update_call hb with ⟨rfl, rfl⟩ | hb'
    · have e₁ := (hwhat _ _ _ hwa).2.2
      have e₂ := (hwhat _ _ _ hwb).2.2
      omega
    · -- the other relay's key is gone, else this call would have overwritten it
      obtain ⟨rfl, rfl, rfl⟩ := hwhat _ _ _ hwa
      rcases hi.owner b cb _ _ _ hb' hwb with h | ⟨kv, hkv, hr⟩
      · exact h
      · exact absurd ((hown kv hkv).symm.trans hr) hAB
    · have e₂ := (hwhat _ _ _ hwb).2.2
      have := hold a ca t A wa ha' hwa
      omega
    · exact hi.apart a b ca cb t A B wa wb ha' hb' hwa hwb hAB hlt

theorem returned_map {p : Proc} {n : Nat} :
    (p.result.map fun _ => n).isSome = p.result.isSome ∧ ∀ r ∈ p.result.map fun _ => n, r = n := by
  cases p.result <;> simp

theorem stamp_stamped {n : Nat} {c : CallState} (hi : s.Inv) (hc : s.calls n = some c) {e : Etcd} {p : Proc}
    (hrun : stored s.etcd e c.proc = true → p.result = none) : (s.stamp c e p).Stamped (s.clock + 1) := by
  have hst := hi.stamped n c hc
  refine ⟨Nat.lt_succ_of_lt hst.invoked, fun w hw => ?_, returned_map.1, fun r hr w hw => ?_⟩
  · simp only [stamp] at hw
    split at hw
    · cases hw
      exact ⟨hst.invoked, Nat.lt_succ_self _⟩
    · exact ⟨(hst.wrote w hw).1, Nat.lt_succ_of_lt (hst.wrote w hw).2⟩
  · have hr' := returned_map.2 r hr
    simp only [stamp] at hw hr
    split at hw
    · rename_i h
      rw [hrun h] at hr
      cases hr
    · rw [hr']
      exact (hst.wrote w hw).2

theorem Inv.quiet (hi : s.Inv) {n : Nat} {c : CallState} (hc : s.calls n = some c) {e : Etcd} {p : Proc}
    (he : Shrinks s.etcd e) (hstill : stored s.etcd e c.proc = false)
    (hp : ∀ req fresh pc', p = .acquire req fresh pc' → ∃ pc, c.proc = .acquire req fresh pc)
    (hok : CallState.Ok { c with proc := p }) (insts : Nat → EtcdCoordinator) :
    Inv { s.tick e with insts := insts, calls := Function.update s.calls n (some (s.stamp c e p)) } := by
  have hw : (s.stamp c e p).wroteAt = c.wroteAt := by simp [stamp, hstill]
  refine (hi.tick he).setCall n (stamp_stamped hi hc fun h => by rw [hstill] at h; cases h) ?_ ?_ insts
  · cases p <;> simp only [CallState.Ok, hw] at hok ⊢ <;> exact hok
  · rintro t r w ⟨req, fresh, pc', rfl, ht, hr, hw'⟩
    obtain ⟨pc, hpc⟩ := hp req fresh pc' rfl
    exact ⟨c, hc, req, fresh, pc, hpc, ht, hr, hw ▸ hw'⟩

theorem Inv.invoke (hi : s.Inv) {n inst : Nat} {op : Invocation} {s' : Cluster}
    (h : s.step (.invoke n inst op) = some s') : s'.Inv := by
  simp only [Cluster.step] at h
  split at h <;> cases h
  refine (hi.tick (.refl s.etcd)).setCall n ⟨Nat.lt_succ_self _, by simp, returned_map.1, by simp⟩ ?_ ?_ s.insts
  · cases op with
    | acquire req fresh =>
      simp only [CallState.Ok, Invocation.start, AcquirePc.start]
      split
      · trivial
      · rename_i hne
        exact ⟨rfl, fun h => hne (.inl h)⟩
    | release id => trivial
    | renew id ttl =>
      simp only [CallState.Ok, Invocation.start, RenewPc.start]
      split <;> exact fun _ _ _ h => by cases h
  · rintro t r w ⟨_, _, _, _, _, _, hw⟩
    cases hw

theorem Inv.step (hi : s.Inv) {l : Label} {s' : Cluster} (hown : putsOwn s l) (h : s.step l = some s') : s'.Inv := by
  cases l with
  | invoke n inst op => exact hi.invoke h
  | send n now net =>
    simp only [Cluster.step] at h
    split at h
    · cases h
    · rename_i c hc
      split at h <;> cases h
      have hcok := hi.ok n c hc
      cases hp : c.proc with
      | acquire req fresh pc =>
        simp only [CallState.Ok, hp] at hcok
        simp only [Proc.step, Outcome.map]
        cases acquireStep_effect req fresh now net s.etcd (s.insts c.inst) pc with
        | quiet hsh hstill hok =>
          refine hi.quiet hc hsh (hp ▸ hstill fresh) (fun _ _ _ h => ?_) ?_ _
          · cases h
            exact ⟨pc, hp⟩
          · exact hok _ hcok
        | store lease l hk hstored hby hok hrun =>
          have hw := hp ▸ hstored fresh
          have hfree : c.wroteAt.isSome = false ∧ req.tunnelID ≠ "" ∧ lease.relayID = req.relayID := by
            rcases hby with ⟨rfl, -⟩ | rfl <;> exact hcok
          refine hi.store (stamp_stamped hi hc fun _ => hrun fresh) ?_ ⟨req, fresh, _, rfl, rfl, rfl, if_pos hw⟩
            hfree.2.1 hfree.2.2 hk ?_ _
          · simp only [CallState.Ok, stamp, hw, if_true]
            exact hok
          · rcases hby with ⟨rfl, hn⟩ | rfl
            · intro kv hkv
              rw [hn] at hkv
              cases hkv
            · intro kv hkv
              simpa [putsOwn, hc, hp, hkv] using hown
      | release id pc =>
        simp only [Proc.step, Outcome.map]
        refine hi.quiet hc (releaseStep_shrinks id net s.etcd _ pc) (by rw [hp]; rfl) (fun _ _ _ h => ?_) ?_ _
        · cases h
        · trivial
      | renew id ttl pc =>
        simp only [CallState.Ok, hp] at hcok
        simp only [Proc.step, Outcome.map]
        have hr := renewStep_shrinks id ttl now net (s.insts c.inst) hi.prefixFree hcok
        refine hi.quiet hc hr.1 (by rw [hp]; rfl) (fun _ _ _ h => ?_) ?_ _
        · cases h
        · exact hr.2
  | watch inst =>
    simp only [Cluster.step, Option.map_eq_some_iff] at h
    obtain ⟨i, -, rfl⟩ := h
    have ht := hi.tick (.refl s.etcd)
    exact ⟨ht.stamped, ht.ok, ht.prefixFree, ht.owner, ht.apart⟩
  | expire l =>
    simp only [Cluster.step] at h
    split at h <;> cases h
    rename_i heq
    exact hi.tick (revoke_shrinks heq)

theorem inv_init : Inv {} := by
  constructor <;> simp

end Cluster

/-! ## The two writes of AcquireLease -/

/-- As long as no re-acquisition puts over another relay's key, the lease is exclusive. -/
theorem etcd_lease_exclusive {ls : List Label} {s : Cluster} (hr : Run Cluster.step (putsOwn · ·) {} ls s) :
    s.Exclusive := by
  have hi : s.Inv := hr.inv _ Cluster.inv_init fun _ _ _ hi hok hst => hi.step hok hst
  have hwrote : ∀ n c t r, s.calls n = some c → c.Acquired t r → ∃ w, c.wroteAt = some w ∧ c.Wrote t r w := by
    rintro n c t r hc ⟨req, fresh, l, hp, ht, hrel⟩
    have hok := hi.ok n c hc
    simp only [CallState.Ok, hp, AcquirePc.Ok] at hok
    obtain ⟨w, hw⟩ := Option.isSome_iff_exists.1 hok
    exact ⟨w, hw, req, fresh, _, hp, ht, hrel, hw⟩
  refine ⟨fun a b ca cb t A B ha hb hA hB hne rb hrb hlt => ?_, fun b cb t B hb hB wb hwb hnr kv hkv => ?_⟩
  · obtain ⟨wa, hwa, hWa⟩ := hwrote a ca t A ha hA
    obtain ⟨wb, hwb, hWb⟩ := hwrote b cb t B hb hB
    have hsa := hi.stamped a ca ha
    have hsb := hi.stamped b cb hb
    obtain ⟨req, fresh, l, hp, -, -⟩ := hA
    obtain ⟨ra, hra⟩ := Option.isSome_iff_exists.1 (hsa.returned.1.trans (by rw [hp]; rfl))
    have h1 := (hsa.wrote wa hwa).1
    have h2 := hsb.returned.2 rb hrb wb hwb
    have h3 := hsa.returned.2 ra hra wa hwa
    have hlt' : wb < wa := by omega
    exact ⟨wb, hwb, ra, hra, (hi.apart a b ca cb t A B wa wb ha hb hWa hWb hne hlt').mono (Nat.le_of_lt h3)⟩
  · obtain ⟨w, hw, hW⟩ := hwrote b cb t B hb hB
    rw [Option.some.inj (hw.symm.trans hwb)] at hW
    rcases hi.owner b cb t B wb hb hW with h | ⟨kv', hkv', hr⟩
    · exact absurd h hnr
    · rw [hkv'] at hkv
      cases hkv
      exact hr

/-- Relay `A` has a lease and acquires again: the transaction of the second
call found `A`'s own key, and the next request is the unconditional put. -/
def reacquiring : List Label :=
  [.invoke 0 0 (.acquire ⟨"t-a", "A", second⟩ "u0"), .send 0 0 .ok, .send 0 0 .ok, .send 0 0 .ok,
   .invoke 1 0 (.acquire ⟨"t-a", "A", second⟩ "u1"), .send 1 0 .ok, .send 1 0 .ok, .send 1 0 .ok, .send 1 0 .ok]

/-- The put goes through at once. -/
theorem etcd_lease_exclusive_reacquired :
    ∃ s, Run Cluster.step (putsOwn · ·) {} (reacquiring ++ [.send 1 0 .ok, .send 1 0 .ok]) s ∧ s.Exclusive := by
  obtain ⟨s, hs⟩ := Option.isSome_iff_exists.1 (show (exec (checked Cluster.step putsOwn) {}
    (reacquiring ++ [.send 1 0 .ok, .send 1 0 .ok])).isSome by decide +kernel)
  exact ⟨s, run_of_checked hs, etcd_lease_exclusive (run_of_checked hs)⟩

/-- Before the put, `A`'s key expires and relay `B` acquires the tunnel. -/
def overtaken : List Label :=
  reacquiring ++ [.expire 1, .invoke 2 1 (.acquire ⟨"t-a", "B", second⟩ "u2"), .send 2 0 .ok, .send 2 0 .ok,
    .send 2 0 .ok, .send 1 0 .ok, .send 1 0 .ok]

/-- Both calls return success, and the key carries `A` while the lease of `B` is live. -/
theorem etcd_put_overwrites_owner :
    ∃ s, Run Cluster.step (fun _ _ => True) {} overtaken s ∧ (s.etcd.leases.lookup 4).isSome ∧ ¬ s.Exclusive := by
  obtain ⟨s, hs⟩ := Option.isSome_iff_exists.1
    (show (exec Cluster.step {} overtaken).isSome by decide +kernel)
  have hd : (exec Cluster.step {} overtaken).map (fun s => ((s.calls 2).map fun c => (c.proc, c.wroteAt))) =
      some (some (.acquire ⟨"t-a", "B", second⟩ "u2" (.done (.ok ⟨"u2", "t-a", "B", second, 1⟩)), some 12)) := by
    decide +kernel
  have he : (exec Cluster.step {} overtaken).map (fun s => (s.removals,
      (s.etcd.kvs.lookup (leaseKey "t-a")).map (·.value.relayID), (s.etcd.leases.lookup 4).isSome)) =
      some ([(9, leaseKey "t-a")], some "A", true) := by
    decide +kernel
  rw [hs] at hd he
  simp only [Option.map_some, Option.some.injEq, Option.map_eq_some_iff, Prod.mk.injEq] at hd he
  obtain ⟨c, hc, hp, hw⟩ := hd
  obtain ⟨hrem, ⟨kv, hkv, hA⟩, hl⟩ := he
  refine ⟨s, run_of_exec hs, hl, fun hx => ?_⟩
  have hB := hx.key 2 c "t-a" "B" hc ⟨_, _, _, hp, rfl, rfl⟩ 12 hw ?_ kv hkv
  · rw [hA] at hB
    exact absurd hB (by decide)
  · rintro ⟨x, hx, hlt, -⟩
    rw [hrem] at hx
    cases List.mem_singleton.1 hx
    omega

end TunnelEdge.Registry
