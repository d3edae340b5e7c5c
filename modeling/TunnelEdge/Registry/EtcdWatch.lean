import TunnelEdge.Registry.EtcdExclusivity
import TunnelEdge.Registry.Delivery
/-!
# Watches over etcd

Registry processes that share one etcd: each runs the tunnel handlers over the
session store, and its `watchLoop` turns what etcd reports into registry events
for its own watches. A lease key that is deleted, by a release or because its
etcd lease ran out, is reported without its value, so the `lease_released` that
`handleEtcdEvent` publishes names the tunnel and nothing else.

The keys of relays and their health are not kept here; the events that come of
them may be published at any time.
-/

namespace TunnelEdge.Registry

open GoLib Store LeaseStore

/-! ## The events of the etcd watch -/

/-- `strings.TrimPrefix` on a key with the prefix of the leases. -/
def tunnelOfKey (key : String) : Option String :=
  (key.toList.dropPrefix? etcdKeyPrefixLeases.toList).map String.ofList

theorem tunnelOfKey_leaseKey (t : String) : tunnelOfKey (leaseKey t) = some t := by
  unfold tunnelOfKey leaseKey
  rw [String.toList_append, List.dropPrefix?_append_of_beq _ BEq.rfl]
  exact congrArg some String.ofList_toList

/-- What `handleEtcdEvent` publishes for a lease key. -/
def etcdEvent : WatchEvent String LeaseMeta → Option RegistryEvent
  | .put key lease => (tunnelOfKey key).map fun _ => .acquired lease.toLease
  | .delete key => (tunnelOfKey key).map fun tunnelID =>
      .released { leaseID := "", tunnelID, relayID := "", expiresAt := 0, version := 0 }

/-! ## What etcd reports of a request -/

theorem send_logged {α : Type} (net : Net) {e : Etcd} {f : Etcd → Except String (Etcd × α)}
    (hf : ∀ e' a, f e = .ok (e', a) → Logged e e') : Logged e (net.send e f).1 := by
  rcases net.send_cases e f with ⟨err, h⟩ | ⟨e', a, hok, h | ⟨err, h⟩⟩ <;> rw [h]
  · exact .refl e
  · exact hf e' a hok
  · exact hf e' a hok

theorem send_grant_logged (net : Net) (e : Etcd) (now : Time) (ttl : Duration) :
    Logged e (net.send e (grantRequest now ttl)).1 := by
  refine send_logged net fun e' a h => ?_
  cases h
  exact logged_of_kvs rfl rfl

theorem send_revoke_logged (net : Net) (e : Etcd) (l : Nat) : Logged e (net.send e (·.revoke l)).1 :=
  send_logged net fun _ _ h => revoke_logged h

theorem acquireStep_logged (req : LeaseRequest) (fresh : String) (now : Time) (net : Net) (e : Etcd)
    (i : EtcdCoordinator) (pc : AcquirePc) :
    Logged e (acquireStep req fresh now net e i pc).etcd ∧
      (acquireStep req fresh now net e i pc).inst.watched = i.watched := by
  cases pc with
  | grant | regrant =>
    have h := send_grant_logged net e now req.ttl
    simp only [acquireStep]
    split <;> rename_i heq <;> rw [heq] at h <;> exact ⟨h, rfl⟩
  | txn lease =>
    have h : Logged e (net.send e (·.createOrGet (leaseKey req.tunnelID) lease lease.etcdLease)).1 :=
      send_logged net fun _ _ h => createOrGet_logged h
    simp only [acquireStep]
    split <;> rename_i heq <;> rw [heq] at h <;> exact ⟨h, rfl⟩
  | put lease =>
    have h : Logged e (net.send e (·.put (leaseKey req.tunnelID) lease lease.etcdLease)).1 :=
      send_logged net fun _ _ h => put_logged h
    simp only [acquireStep]
    split <;> rename_i heq <;> rw [heq] at h <;> exact ⟨h, rfl⟩
  | revokeOwn l existing =>
    simp only [acquireStep]
    split <;> exact ⟨send_revoke_logged net e l, rfl⟩
  | revokeTxnFailed l | revokePutFailed l => exact ⟨send_revoke_logged net e l, rfl⟩
  | record | done => exact ⟨.refl e, rfl⟩

theorem releaseStep_logged (id : String) (net : Net) (e : Etcd) (i : EtcdCoordinator) (pc : ReleasePc) :
    Logged e (releaseStep id net e i pc).etcd ∧ (releaseStep id net e i pc).inst.watched = i.watched := by
  cases pc with
  | take => simp only [releaseStep]; split <;> exact ⟨.refl e, rfl⟩
  | revoke l => exact ⟨send_revoke_logged net e l, rfl⟩
  | done r => exact ⟨.refl e, rfl⟩

theorem renewStep_logged (id : String) (ttl : Duration) (now : Time) (net : Net) (e : Etcd) (i : EtcdCoordinator)
    (pc : RenewPc) :
    Logged e (renewStep id ttl now net e i pc).etcd ∧ (renewStep id ttl now net e i pc).inst.watched = i.watched := by
  cases pc with
  | find => simp only [renewStep]; split <;> exact ⟨.refl e, rfl⟩
  | keepAlive l =>
    have h : Logged e (net.send e (·.keepAliveOnce now l)).1 := send_logged net fun _ _ h => keepAliveOnce_logged h
    simp only [renewStep]
    split <;> rename_i heq <;> rw [heq] at h <;> exact ⟨h, rfl⟩
  | get l =>
    have h : Logged e (net.send e fun e => .ok (e, e.get etcdKeyPrefixLeases)).1 :=
      send_logged net fun _ _ h => by cases h; exact .refl e
    simp only [renewStep]
    split
    · rename_i heq
      rw [heq] at h
      exact ⟨h, rfl⟩
    · rename_i heq
      rw [heq] at h
      split <;> exact ⟨h, rfl⟩
  | put l key lease =>
    exact ⟨send_logged net fun _ _ h => put_logged h, rfl⟩
  | done r => exact ⟨.refl e, rfl⟩

theorem proc_step_logged (now : Time) (net : Net) (e : Etcd) (i : EtcdCoordinator) (p : Proc) :
    Logged e (p.step now net e i).etcd ∧ (p.step now net e i).inst.watched = i.watched := by
  cases p with
  | acquire req fresh pc => exact acquireStep_logged req fresh now net e i pc
  | release id pc => exact releaseStep_logged id net e i pc
  | renew id ttl pc => exact renewStep_logged id ttl now net e i pc

namespace Cluster

variable {s s' : Cluster} {l : Label}

theorem step_watched (hs : s.step l = some s') :
    (∃ i ev, l = .watch i ∧ s.etcd.events[(s.insts i).watched]? = some ev ∧ s'.etcd = s.etcd ∧
      (s'.insts i).watched = (s.insts i).watched + 1 ∧ ∀ j, j ≠ i → s'.insts j = s.insts j) ∨
    ((∀ i, l ≠ .watch i) ∧ Logged s.etcd s'.etcd ∧ ∀ j, (s'.insts j).watched = (s.insts j).watched) := by
  cases l with
  | invoke n inst op =>
    simp only [step] at hs
    split at hs <;> cases hs
    exact .inr ⟨fun _ h => (by cases h), .refl _, fun _ => rfl⟩
  | send n now net =>
    simp only [step] at hs
    split at hs
    · cases hs
    · split at hs <;> cases hs
      rename_i c hc _
      obtain ⟨hlog, hw⟩ := proc_step_logged now net s.etcd (s.insts c.inst) c.proc
      refine .inr ⟨fun _ h => (by cases h), hlog, fun j => ?_⟩
      by_cases hj : j = c.inst
      · subst hj
        simpa using hw
      · simp [hj]
  | watch i =>
    obtain ⟨inst, hi, rfl⟩ := Option.map_eq_some_iff.1 hs
    obtain ⟨ev, hev, rfl⟩ := Option.map_eq_some_iff.1 hi
    refine .inl ⟨i, ev, rfl, hev, rfl, by simp, fun j hj => by simp [hj]⟩
  | expire lease =>
    simp only [step] at hs
    split at hs
    · cases hs
    · rename_i e u hr
      cases hs
      exact .inr ⟨fun _ h => (by cases h), revoke_logged hr, fun _ => rfl⟩

end Cluster

namespace RegistryEvent

def AcquiresTunnel (t : String) (ev : RegistryEvent) : Prop :=
  ev.type = .leaseAcquired ∧ ev.lease.map Lease.tunnelID = some t

def ReleasesTunnel (t : String) (ev : RegistryEvent) : Prop :=
  ev.type = .leaseReleased ∧ ev.lease.map Lease.tunnelID = some t

instance (t : String) (ev : RegistryEvent) : Decidable (ev.AcquiresTunnel t) := inferInstanceAs (Decidable (_ ∧ _))

/-- Neither a `tunnel_deleted` nor a `lease_released` names a relay. -/
def Nameless (ev : RegistryEvent) : Prop :=
  ev.Bare ∧ (ev.type = .leaseReleased → ∀ l, ev.lease = some l → l.relayID = "")

theorem Nameless.reread {ev : RegistryEvent} (h : ev.Nameless) (record : Option Session) :
    (ev.reread record).Nameless := by
  refine ⟨h.1.reread record, fun ht l hl => ?_⟩
  rw [reread_type] at ht
  rw [reread_lease] at hl
  exact h.2 ht l hl

end RegistryEvent

/-! ## The processes -/

/-- A session with the owner that `CurrentLease` reports, if it reports one. -/
def withOwner (sess : Session) (lease : Option Lease) : Session :=
  lease.elim sess fun l => { sess with ownerRelayID := l.relayID, leaseID := l.leaseID }

theorem withOwner_tunnelID (sess : Session) (lease : Option Lease) :
    (withOwner sess lease).tunnelID = sess.tunnelID := by
  cases lease <;> rfl

section Handlers

variable {σ : Type} (repo : SessionRepository σ)

/-- The store after the owner was written into a session that it handed out. -/
def writeOwner (store : σ) (sess : Session) (lease : Option Lease) : σ :=
  lease.elim store fun l => repo.setOwner store sess.tunnelID l.relayID l.leaseID

/-- The tunnel handlers over a `CurrentLease` that only reads. -/
def tunnelOpEtcd (sessionTTL : Duration) (currentLease : Time → String → Option Lease) (store : σ) :
    TunnelOp → σ × List RegistryEvent
  | .registerTunnel now tunnelID agentID publicAddr localAddr =>
    match repo.register store now
      (withOwner { tunnelID, agentID, localAddr, publicAddr } (currentLease now tunnelID)) with
    | (store, .ok sess) => (store, [.upserted sess])
    | (store, .error _) => (store, [])
  | .deregisterTunnel now tunnelID =>
    match repo.deregister store now tunnelID with
    | (store, .ok _) => (store, [.deleted tunnelID])
    | (store, .error _) => (store, [])
  | .getTunnel now tunnelID =>
    match repo.get store tunnelID with
    | .ok sess => (writeOwner repo store sess (currentLease now sess.tunnelID), [])
    | .error _ => (store, [])
  | .listTunnels now =>
    ((repo.list store).foldl (fun store sess => writeOwner repo store sess (currentLease now sess.tunnelID)) store, [])
  | .heartbeat now tunnelID => ((repo.heartbeat store now tunnelID).1, [])
  | .cleanupExpired now => ((repo.cleanupExpired store now sessionTTL).1, [])

/-- `EtcdCoordinator.Snapshot`, its leases. -/
def snapshotEtcd (e : Etcd) (now : Time) (tunnelID relayID : String) : List RegistryEvent :=
  ((GoMap.values (fun _ kv => passes tunnelID kv.value.tunnelID && passes relayID kv.value.relayID &&
    !(kv.value.expiresAt < now)) e.kvs).map fun kv => kv.value.toLease).map .acquired

/-- `sendSnapshot`, where `leases` is what the coordinator's snapshot lists. -/
def sendSnapshotEtcd (currentLease : String → Option Lease) (leases : List RegistryEvent) (store : σ)
    (tunnelFilter relayFilter : String) : σ × List RegistryEvent :=
  let sessions := (repo.list store).filter fun sess => passes tunnelFilter sess.tunnelID
  (sessions.foldl (fun store sess => writeOwner repo store sess (currentLease sess.tunnelID)) store,
    ((sessions.map fun sess => withOwner sess (currentLease sess.tunnelID)).filter fun sess =>
      passes relayFilter sess.ownerRelayID).map .upserted ++ leases)

end Handlers

structure EtcdNodes (σ : Type) where
  cluster : Cluster := {}
  store : σ
  hubs : Nat → Hub := fun _ => {}

/-- `answers` says for which keys etcd answers the reads of a handler. -/
inductive EtcdLabel
  | cluster (l : Label)
  | tunnel (i : Nat) (op : TunnelOp) (answers : String → Bool)
  | relayUpserted (i : Nat) (relay : RelayInfo)
  | relayHealth (i : Nat) (relay : Option RelayInfo) (health : RelayHealth)
  | watch (i : Nat) (tunnelFilter relayFilter : String) (includeExisting : Bool)
  | snapshot (i k : Nat) (now : Time) (answers : String → Bool) (listed : Bool)
  | publish (i j : Nat)
  | recv (i k : Nat) (record : Option Session)

namespace EtcdNodes

variable {σ : Type}

def new (store : σ) : EtcdNodes σ := { store }

/-- `EtcdCoordinator.CurrentLease`: nothing when etcd does not answer. -/
def currentLease (s : EtcdNodes σ) (answers : String → Bool) (now : Time) (tunnelID : String) : Option Lease :=
  if answers tunnelID then currentLeaseEtcd now tunnelID s.cluster.etcd else none

section Step

variable (repo : SessionRepository σ) (sessionTTL : Duration)

def snapshotFor (s : EtcdNodes σ) (i k : Nat) (now : Time) (answers : String → Bool) (listed : Bool) :
    σ × List RegistryEvent :=
  let w := ((s.hubs i).watches[k]?).getD {}
  sendSnapshotEtcd repo (s.currentLease answers now)
    (if listed then snapshotEtcd s.cluster.etcd now w.tunnelFilter w.relayFilter else []) s.store w.tunnelFilter
    w.relayFilter

def effect (s : EtcdNodes σ) : EtcdLabel → Option (EtcdNodes σ)
  | .cluster l => (s.cluster.step l).map fun cluster => { s with cluster }
  | .tunnel _ op answers =>
    some { s with store := (tunnelOpEtcd repo sessionTTL (s.currentLease answers) s.store op).1 }
  | .snapshot i k now answers listed => some { s with store := (s.snapshotFor repo i k now answers listed).1 }
  | _ => some s

/-- The process whose hub a label moves, and how. -/
def hubMove (s : EtcdNodes σ) : EtcdLabel → Option (Nat × HubLabel)
  | .cluster (.watch i) =>
    (s.cluster.etcd.events[(s.cluster.insts i).watched]?.bind etcdEvent).map fun ev => (i, .broadcast ev)
  | .cluster _ => none
  | .tunnel i op answers => some (i, .spawn (tunnelOpEtcd repo sessionTTL (s.currentLease answers) s.store op).2)
  | .relayUpserted i relay => some (i, .broadcast (.relayUpserted relay))
  | .relayHealth i relay health => some (i, .broadcast (.healthUpdated relay health))
  | .watch i tunnelFilter relayFilter includeExisting => some (i, .subscribe tunnelFilter relayFilter includeExisting)
  | .snapshot i k now answers listed => some (i, .snapshot k (s.snapshotFor repo i k now answers listed).2)
  | .publish i j => some (i, .publish j)
  | .recv i k record => some (i, .recv k record)

def step (s : EtcdNodes σ) (l : EtcdLabel) : Option (EtcdNodes σ) :=
  (s.effect repo sessionTTL l).bind fun s' =>
    match s.hubMove repo sessionTTL l with
    | none => some s'
    | some (i, hl) => ((s.hubs i).step hl).map fun h => { s' with hubs := Function.update s.hubs i h }

/-- Watch `k` of process `i` has room for an event that is published there now. -/
def roomy (i k : Nat) (s : EtcdNodes σ) (l : EtcdLabel) : Bool :=
  (s.hubMove repo sessionTTL l).all fun m => m.1 ≠ i || (s.hubs i).roomy k m.2

end Step

/-! ## What a step does to one hub and to etcd -/

variable {repo : SessionRepository σ} {sessionTTL : Duration} {s s' : EtcdNodes σ} {l : EtcdLabel}

theorem step_hub (hs : s.step repo sessionTTL l = some s') (i : Nat) :
    (s'.hubs i = s.hubs i ∧ ∀ hl, s.hubMove repo sessionTTL l ≠ some (i, hl)) ∨
      ∃ hl, s.hubMove repo sessionTTL l = some (i, hl) ∧ (s.hubs i).step hl = some (s'.hubs i) := by
  obtain ⟨s₁, he, hs⟩ := Option.bind_eq_some_iff.1 hs
  have hsame : s₁.hubs = s.hubs := by
    cases l with
    | cluster cl =>
      obtain ⟨c, -, rfl⟩ := Option.map_eq_some_iff.1 he
      rfl
    | _ =>
      cases he
      rfl
  split at hs
  · rename_i hm
    cases hs
    exact .inl ⟨congrFun hsame i, fun hl h => by rw [hm] at h; cases h⟩
  · rename_i j hl hm
    obtain ⟨h, hh, rfl⟩ := Option.map_eq_some_iff.1 hs
    by_cases hij : i = j
    · subst hij
      exact .inr ⟨hl, hm, hh.trans (congrArg some (Function.update_self i h s.hubs).symm)⟩
    · exact .inl ⟨Function.update_of_ne hij .., fun hl' h => by rw [hm] at h; cases h; exact hij rfl⟩

theorem effect_cluster {s₁ : EtcdNodes σ} (he : s.effect repo sessionTTL l = some s₁) :
    ((∀ cl, l ≠ .cluster cl) ∧ s₁.cluster = s.cluster) ∨
      ∃ cl, l = .cluster cl ∧ s.cluster.step cl = some s₁.cluster := by
  cases l with
  | cluster cl =>
    obtain ⟨c, hc, rfl⟩ := Option.map_eq_some_iff.1 he
    exact .inr ⟨cl, rfl, hc⟩
  | _ =>
    cases he
    exact .inl ⟨fun _ h => (by cases h), rfl⟩

theorem step_cluster (hs : s.step repo sessionTTL l = some s') :
    ((∀ cl, l ≠ .cluster cl) ∧ s'.cluster = s.cluster) ∨
      ∃ cl, l = .cluster cl ∧ s.cluster.step cl = some s'.cluster := by
  obtain ⟨s₁, he, hs⟩ := Option.bind_eq_some_iff.1 hs
  split at hs
  · cases hs
    exact effect_cluster he
  · obtain ⟨h, -, rfl⟩ := Option.map_eq_some_iff.1 hs
    have hc := effect_cluster he
    exact hc

theorem hub_run {i k : Nat} {ls : List EtcdLabel}
    (h : Run (step repo sessionTTL) (fun s l => s.roomy repo sessionTTL i k l = true) s ls s') :
    ∃ ms, Run Hub.step (fun h l => h.roomy k l = true) (s.hubs i) ms (s'.hubs i) := by
  refine h.project (fun s => s.hubs i) fun s l s' hr hs => (step_hub hs i).imp And.left fun ⟨hl, hm, hh⟩ => ⟨hl, ?_, hh⟩
  simpa [roomy, hm] using hr

theorem since_step {i k : Nat} {w : Watch} (hs : s.step repo sessionTTL l = some s')
    (h : (s.hubs i).Since k w fun _ _ => True) : (s'.hubs i).Since k w fun _ _ => True := by
  rcases step_hub hs i with ⟨he, -⟩ | ⟨hl, -, hh⟩
  · rwa [he]
  · exact h.step hh

theorem hub_since {ok : EtcdNodes σ → EtcdLabel → Prop} {i k : Nat} {w : Watch} {ls : List EtcdLabel}
    (h : Run (step repo sessionTTL) ok s ls s') (hs : (s.hubs i).Since k w fun _ _ => True) :
    (s'.hubs i).Since k w fun _ _ => True :=
  h.inv (fun s => (s.hubs i).Since k w fun _ _ => True) hs fun _ _ _ hs _ hst => since_step hst hs

/-! ## The events of running processes -/

theorem snapshotFor_matches {i k : Nat} {now : Time} {answers : String → Bool} {listed : Bool} {w : Watch}
    (hw : (s.hubs i).watches[k]? = some w) {ev : RegistryEvent}
    (hev : ev ∈ (s.snapshotFor repo i k now answers listed).2) :
    matchesDomainEvent ev w.tunnelFilter w.relayFilter = true ∧ ev.Nameless := by
  simp only [snapshotFor, sendSnapshotEtcd, hw, Option.getD_some, List.mem_append, List.mem_map] at hev
  rcases hev with ⟨sess, hsess, rfl⟩ | hev
  · obtain ⟨hmem, hrf⟩ := List.mem_filter.1 hsess
    obtain ⟨sess₀, h₀, rfl⟩ := List.mem_map.1 hmem
    refine ⟨?_, fun h => (by cases h), fun h => (by cases h)⟩
    rw [matches_tunnel _ _ rfl (.inl rfl), hrf, withOwner_tunnelID, Bool.and_true]
    exact (List.mem_filter.1 h₀).2
  · split at hev
    · simp only [snapshotEtcd, List.mem_map] at hev
      obtain ⟨l, ⟨kv, hkv, rfl⟩, rfl⟩ := hev
      obtain ⟨key, -, hp⟩ := (GoMap.mem_values_iff _ _ _).1 hkv
      refine ⟨?_, fun h => (by cases h), fun h => (by cases h)⟩
      rw [matches_lease _ _ rfl (.inl rfl)]
      exact (Bool.and_eq_true _ _ ▸ hp).1
    · cases hev

theorem tunnelOpEtcd_events {currentLease : Time → String → Option Lease} {store : σ} (op : TunnelOp)
    {ev : RegistryEvent} (hev : ev ∈ (tunnelOpEtcd repo sessionTTL currentLease store op).2) :
    ev.Nameless ∧ ev.type ≠ .leaseAcquired := by
  cases op with
  | registerTunnel now t a p l =>
    simp only [tunnelOpEtcd] at hev
    split at hev
    · cases List.mem_singleton.1 hev
      exact ⟨⟨fun h => (by cases h), fun h => (by cases h)⟩, by exact RegistryEventType.noConfusion⟩
    · cases hev
  | deregisterTunnel now t =>
    simp only [tunnelOpEtcd] at hev
    split at hev
    · cases List.mem_singleton.1 hev
      exact ⟨⟨fun _ sess hs => (by cases hs; rfl), fun h => (by cases h)⟩, by exact RegistryEventType.noConfusion⟩
    · cases hev
  | getTunnel now t =>
    simp only [tunnelOpEtcd] at hev
    split at hev <;> cases hev
  | listTunnels now => cases hev
  | heartbeat now t => cases hev
  | cleanupExpired now => cases hev

theorem hubMove_nameless {i : Nat} {hl : HubLabel} (hm : s.hubMove repo sessionTTL l = some (i, hl))
    {ev : RegistryEvent} (hev : ev ∈ hl.events)
    (hw : ∀ k events, hl = .snapshot k events → ∃ w, (s.hubs i).watches[k]? = some w) : ev.Nameless := by
  cases l with
  | cluster cl =>
    cases cl with
    | watch j =>
      obtain ⟨ev', hev', he⟩ := Option.map_eq_some_iff.1 hm
      cases he
      cases List.mem_singleton.1 hev
      obtain ⟨we, -, hwe⟩ := Option.bind_eq_some_iff.1 hev'
      cases we with
      | put key lease =>
        obtain ⟨t, -, rfl⟩ := Option.map_eq_some_iff.1 hwe
        exact ⟨fun h => (by cases h), fun h => (by cases h)⟩
      | delete key =>
        obtain ⟨t, -, rfl⟩ := Option.map_eq_some_iff.1 hwe
        exact ⟨fun h => (by cases h), fun _ l hl => (by cases hl; rfl)⟩
    | _ => cases hm
  | tunnel j op answers =>
    cases hm
    exact (tunnelOpEtcd_events op hev).1
  | relayUpserted j relay =>
    cases hm
    cases List.mem_singleton.1 hev
    exact ⟨fun h => (by cases h), fun h => (by cases h)⟩
  | relayHealth j relay health =>
    cases hm
    cases List.mem_singleton.1 hev
    exact ⟨fun h => (by cases h), fun h => (by cases h)⟩
  | snapshot j k now answers listed =>
    cases hm
    obtain ⟨w, hw⟩ := hw k _ rfl
    exact (snapshotFor_matches hw hev).2
  | watch => cases hm; cases hev
  | publish => cases hm; cases hev
  | recv => cases hm; cases hev

theorem hubMove_acquired {i : Nat} {hl : HubLabel} (hm : s.hubMove repo sessionTTL l = some (i, hl)) :
    (∀ ev ∈ hl.spawned, ev.type ≠ .leaseAcquired) ∧
      ∀ ev, hl = .broadcast ev → ev.type ≠ .leaseAcquired ∨
        l = .cluster (.watch i) ∧
          ∃ we, s.cluster.etcd.events[(s.cluster.insts i).watched]? = some we ∧ etcdEvent we = some ev := by
  cases l with
  | cluster cl =>
    cases cl with
    | watch j =>
      obtain ⟨ev', hev', he⟩ := Option.map_eq_some_iff.1 hm
      cases he
      refine ⟨fun ev hev => (by cases hev), fun ev he => .inr ⟨rfl, ?_⟩⟩
      cases he
      exact Option.bind_eq_some_iff.1 hev'
    | _ => cases hm
  | tunnel j op answers =>
    cases hm
    exact ⟨fun ev hev => (tunnelOpEtcd_events op hev).2, fun ev he => by cases he⟩
  | relayUpserted | relayHealth =>
    cases hm
    exact ⟨fun ev hev => (by cases hev), fun ev he => by cases he; exact .inl (by exact RegistryEventType.noConfusion)⟩
  | _ =>
    cases hm
    exact ⟨fun ev hev => (by cases hev), fun ev he => by cases he⟩

/-- What the events in the hubs of running processes satisfy, and how far their watch loops are. -/
structure Told (s : EtcdNodes σ) : Prop where
  filtered : ∀ i, (s.hubs i).Filtered
  nameless : ∀ i, (s.hubs i).All RegistryEvent.Nameless
  plain : ∀ i, ∀ ev ∈ (s.hubs i).pending.flatten, ev.type ≠ .leaseAcquired
  watched : ∀ i, (s.cluster.insts i).watched ≤ s.cluster.etcd.events.length

theorem told_new (store : σ) : (new store).Told where
  filtered _ := Hub.filtered_empty
  nameless _ := Hub.all_empty _
  plain _ _ hev := by cases hev
  watched _ := Nat.le_refl 0

theorem step_watched (hs : s.step repo sessionTTL l = some s') (i : Nat) :
    (l = .cluster (.watch i) ∧ s'.cluster.etcd = s.cluster.etcd ∧
      (s.cluster.insts i).watched < s.cluster.etcd.events.length ∧
      (s'.cluster.insts i).watched = (s.cluster.insts i).watched + 1) ∨
    (l ≠ .cluster (.watch i) ∧ (s'.cluster.insts i).watched = (s.cluster.insts i).watched) := by
  rcases step_cluster hs with ⟨hl, he⟩ | ⟨cl, rfl, hc⟩
  · exact .inr ⟨hl _, by rw [he]⟩
  · rcases Cluster.step_watched hc with ⟨j, ev, rfl, hev, he, hw, hother⟩ | ⟨hl, -, hw⟩
    · by_cases hij : i = j
      · subst hij
        exact .inl ⟨rfl, he, (List.getElem?_eq_some_iff.1 hev).1, hw⟩
      · exact .inr ⟨fun h => hij (by cases h; rfl), by rw [hother i hij]⟩
    · exact .inr ⟨fun h => hl i (by cases h; rfl), hw i⟩

/-- Events are only added to the log, and a key that is gone has its delete among them. -/
theorem step_logged (hs : s.step repo sessionTTL l = some s') : Logged s.cluster.etcd s'.cluster.etcd := by
  rcases step_cluster hs with ⟨-, he⟩ | ⟨cl, -, hc⟩
  · rw [he]
    exact .refl _
  · rcases Cluster.step_watched hc with ⟨_, _, -, -, he, -⟩ | ⟨-, hlog, -⟩
    · rw [he]
      exact .refl _
    · exact hlog

theorem Told.step (h : s.Told) (hs : s.step repo sessionTTL l = some s') : s'.Told := by
  refine ⟨fun i => ?_, fun i => ?_, fun i => ?_, fun i => ?_⟩
  · rcases step_hub hs i with ⟨he, -⟩ | ⟨hl, hm, hh⟩
    · exact he ▸ h.filtered i
    · refine (h.filtered i).step hh fun k events w heq hw ev hev => ?_
      subst heq
      cases l with
      | snapshot j k now answers listed =>
        cases hm
        exact (snapshotFor_matches hw hev).1
      | cluster cl =>
        cases cl with
        | watch j =>
          obtain ⟨ev', -, he⟩ := Option.map_eq_some_iff.1 hm
          cases he
        | _ => cases hm
      | _ => cases hm
  · rcases step_hub hs i with ⟨he, -⟩ | ⟨hl, hm, hh⟩
    · exact he ▸ h.nameless i
    · refine (h.nameless i).step (fun _ record hp => hp.reread record) (fun ev hev => ?_) hh
      refine hubMove_nameless hm hev fun k events heq => ?_
      subst heq
      exact Hub.watch_of_snapshot hh
  · rcases step_hub hs i with ⟨he, -⟩ | ⟨hl, hm, hh⟩
    · exact he ▸ h.plain i
    · intro ev hev
      rcases Hub.pending_of_step hh hev with hev | hev
      · exact h.plain i ev hev
      · exact (hubMove_acquired hm).1 ev hev
  · obtain ⟨evs, hlog, -⟩ := step_logged hs
    rcases step_watched hs i with ⟨-, he, hlt, hw⟩ | ⟨-, hw⟩ <;> rw [hw]
    · exact he ▸ hlt
    · rw [hlog, List.length_append]
      exact Nat.le_trans (h.watched i) (Nat.le_add_right _ _)

theorem run_told {ok : EtcdNodes σ → EtcdLabel → Prop} (h0 : s.Told) {ls : List EtcdLabel}
    (h : Run (step repo sessionTTL) ok s ls s') : s'.Told :=
  h.inv Told h0 fun _ _ _ ht _ hs => ht.step hs

end EtcdNodes

end TunnelEdge.Registry
