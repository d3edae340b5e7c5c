import TunnelEdge.Registry.Mirror
/-!
# The owners a watch client believes in

`AcquireLease` and `RenewLease` publish `lease_acquired`, `ReleaseLease` and the
sweep publish `lease_released`, each from a goroutine or after the lock is gone.
The owners that a client reads off these events are those of `leasesByID` as
long as `CurrentLease` deletes no expired lease, which it does without an event,
and the goroutines of one tunnel publish in the order of the operations.
-/

namespace TunnelEdge.Registry

open GoLib Store

/-! ## What the operations publish -/

namespace MemCoordinator

def ownerOf (m : MemCoordinator) (t : String) : Option String := (m.leaseOf t).map Lease.relayID

variable {m : MemCoordinator}

theorem leaseOf_write (hi : m.Inv) {m' : MemCoordinator} (hi' : m'.Inv) {l : Lease}
    (hw : ∀ id, m'.leasesByID.lookup id = if id = l.leaseID then some l else m.leasesByID.lookup id)
    (hid : ∀ l', m.leasesByID.lookup l.leaseID = some l' → l'.tunnelID = l.tunnelID) (t : String) :
    m'.leaseOf t = if t = l.tunnelID then some l else m.leaseOf t := by
  split
  · rename_i ht
    exact (leaseOf_eq_some hi').2 ⟨by rw [hw, if_pos rfl], ht.symm⟩
  · rename_i ht
    refine Option.ext fun l' => ?_
    rw [leaseOf_eq_some hi', leaseOf_eq_some hi]
    unfold Holds
    rw [hw]
    by_cases hl : l'.leaseID = l.leaseID
    · rw [if_pos hl]
      constructor
      · rintro ⟨he, htl⟩
        cases he
        exact absurd htl.symm ht
      · rintro ⟨he, htl⟩
        exact absurd (htl.symm.trans (hid l' (hl ▸ he))) ht
    · rw [if_neg hl]

theorem ownerOf_write (hi : m.Inv) {m' : MemCoordinator} (hi' : m'.Inv) {l : Lease}
    (hw : ∀ id, m'.leasesByID.lookup id = if id = l.leaseID then some l else m.leasesByID.lookup id)
    (hid : ∀ l', m.leasesByID.lookup l.leaseID = some l' → l'.tunnelID = l.tunnelID) :
    replay RegistryEvent.leasedTunnel RegistryEvent.owner m.ownerOf [.acquired l] = m'.ownerOf := by
  funext t
  rw [replay_set (RegistryEvent.leasedTunnel_acquired l)]
  unfold ownerOf
  rw [leaseOf_write hi hi' hw hid]
  split <;> rfl

theorem ownerOf_drop (hi : m.Inv) {id : String} {l : Lease} (hl : m.leasesByID.lookup id = some l) :
    replay RegistryEvent.leasedTunnel RegistryEvent.owner m.ownerOf [.released l] = (m.drop id l).ownerOf := by
  funext t
  rw [replay_set (RegistryEvent.leasedTunnel_released l)]
  unfold ownerOf
  rw [leaseOf_drop hi hl]
  split <;> rfl

/-- Deleting a tunnel's own lease and writing a new one is, for the owners, writing the new one. -/
theorem replay_acquired_of_ne {f g : String → Option String} {l : Lease} (h : ∀ t, t ≠ l.tunnelID → f t = g t) :
    replay RegistryEvent.leasedTunnel RegistryEvent.owner f [.acquired l] =
      replay RegistryEvent.leasedTunnel RegistryEvent.owner g [.acquired l] := by
  funext t
  rw [replay_set (RegistryEvent.leasedTunnel_acquired l), replay_set (RegistryEvent.leasedTunnel_acquired l)]
  split
  · rfl
  · exact h t ‹_›

theorem acquireLease_owners (hi : m.Inv) {now : Time} {fresh : String} {req : LeaseRequest}
    (hi' : (m.acquireLease now fresh req).1.Inv) (hfree : m.leasesByID.lookup fresh = none) :
    replay RegistryEvent.leasedTunnel RegistryEvent.owner m.ownerOf
        (((m.acquireLease now fresh req).2.toOption.map RegistryEvent.acquired).toList) =
      (m.acquireLease now fresh req).1.ownerOf := by
  rcases hr : m.acquireLease now fresh req with ⟨m₁, r⟩
  have hc := acquireLease_cases hi now fresh req
  rw [hr] at hc hi'
  cases hc with
  | invalid => rfl
  | conflict => rfl
  | extend l _ hl =>
    refine ownerOf_write hi hi' (fun id => putLease_leases m now _ id) fun l' hl' => ?_
    rw [show (extended l now req).leaseID = l.leaseID from rfl, hl.1] at hl'
    cases hl'
    rfl
  | grant m' _ hm =>
    obtain ⟨hip, -, hsub⟩ := grant_purged hi hm
    have hpurged : ∀ t, t ≠ req.tunnelID → m.ownerOf t = m'.ownerOf t := by
      intro t ht
      rcases hm with ⟨rfl, -⟩ | ⟨l, hl, -, rfl⟩
      · rfl
      · unfold ownerOf
        rw [leaseOf_drop hi hl.1, if_neg (hl.2 ▸ ht)]
    refine (replay_acquired_of_ne hpurged).trans
      (ownerOf_write hip hi' (fun id => putLease_leases m' now _ id) fun l' hl' => ?_)
    rcases hsub fresh with he | ⟨he, -⟩ <;> rw [show (granted now fresh req).leaseID = fresh from rfl, he] at hl'
    · rw [hfree] at hl'
      cases hl'
    · cases hl'

theorem renewLease_owners (hi : m.Inv) (now : Time) (id : String) (ttl : Duration) :
    replay RegistryEvent.leasedTunnel RegistryEvent.owner m.ownerOf
        (((m.renewLease now id ttl).2.toOption.map RegistryEvent.acquired).toList) =
      (m.renewLease now id ttl).1.ownerOf := by
  rcases renewLease_cases hi now id ttl with ⟨s, hr, -⟩ | ⟨l, hl, -, hr⟩
  · rw [hr]
    rfl
  · rw [hr]
    have hid : ({ l with expiresAt := now + ttl, version := l.version + 1 } : Lease).leaseID = id := (hi.ids id l hl).1
    have ht : ({ l with expiresAt := now + ttl, version := l.version + 1 } : Lease).tunnelID = l.tunnelID := rfl
    generalize ({ l with expiresAt := now + ttl, version := l.version + 1 } : Lease) = l₁ at hid ht ⊢
    have hi' := inv_update hi hl (hid.trans (hi.ids id l hl).1.symm) ht
    refine ownerOf_write hi hi' (fun id' => ?_) fun l' hl' => ?_
    · rw [GoMap.lookup_insert_ite, hid]
    · rw [hid, hl] at hl'
      cases hl'
      exact ht.symm

theorem releaseLease_owners (hi : m.Inv) (id : String) :
    replay RegistryEvent.leasedTunnel RegistryEvent.owner m.ownerOf
        (((m.releaseLease id).2.toOption.map RegistryEvent.released).toList) = (m.releaseLease id).1.ownerOf := by
  rcases releaseLease_cases hi id with ⟨s, hr, -⟩ | ⟨l, hl, hr⟩
  · rw [hr]
    rfl
  · rw [hr]
    exact ownerOf_drop hi hl

theorem releaseExpiredLeases_owners (hi : m.Inv) (now : Time) :
    replay RegistryEvent.leasedTunnel RegistryEvent.owner m.ownerOf
        ((m.releaseExpiredLeases now).2.map RegistryEvent.released) = (m.releaseExpiredLeases now).1.ownerOf := by
  obtain ⟨hi', hl'⟩ := releaseExpiredLeases_spec hi now
  funext t
  have hleft : (m.releaseExpiredLeases now).1.leaseOf t = (m.leaseOf t).filter fun l => ¬ l.expiresAt < now := by
    refine Option.ext fun l => ?_
    rw [leaseOf_eq_some hi', Option.filter_eq_some_iff, leaseOf_eq_some hi]
    unfold Holds
    rw [hl', Option.filter_eq_some_iff]
    tauto
  unfold ownerOf
  rw [hleft]
  by_cases hex : ∃ l, m.Holds t l ∧ l.expiresAt < now
  · obtain ⟨l, hl, he⟩ := hex
    rw [(leaseOf_eq_some hi).2 hl, Option.filter_some, if_neg (by simpa using he)]
    have hmem := (mem_releaseExpiredLeases hi).2 ⟨hl.1, he⟩
    refine replay_of_all (fun ev hev => ?_) ⟨_, List.mem_map_of_mem hmem, congrArg some hl.2⟩
    obtain ⟨l', -, rfl⟩ := List.mem_map.1 hev
    rfl
  · rw [replay_of_none fun ev hev hk => ?_]
    · cases ho : m.leaseOf t with
      | none => rfl
      | some l =>
        have hl : ¬ l.expiresAt < now := fun he => hex ⟨l, (leaseOf_eq_some hi).1 ho, he⟩
        rw [Option.filter_some, if_pos (decide_eq_true hl)]
    · obtain ⟨l', hl', rfl⟩ := List.mem_map.1 hev
      obtain ⟨hid, he⟩ := (mem_releaseExpiredLeases hi).1 hl'
      exact hex ⟨l', ⟨hid, Option.some.inj hk⟩, he⟩

end MemCoordinator

/-! ## The process -/

namespace Server

variable {σ : Type} {repo : SessionRepository σ} {s : Server σ} {sessionTTL : Duration} {now : Time}

theorem refresh_coord_of_unexpired (hi : s.coord.Inv) {sess : Session}
    (h : s.coord.unexpired now sess.tunnelID = true) : (s.refresh repo now sess).1.coord = s.coord := by
  rw [refresh_coord, MemCoordinator.currentLease_of_unexpired hi h]

theorem refreshAll_coord_of_unexpired (hi : s.coord.Inv) {sessions : List Session}
    (h : ∀ sess ∈ sessions, s.coord.unexpired now sess.tunnelID = true) :
    (s.refreshAll repo now sessions).1.coord = s.coord := by
  induction sessions generalizing s with
  | nil => rfl
  | cons sess rest ih =>
    have hs : (s.refresh repo now sess).1.coord = s.coord :=
      refresh_coord_of_unexpired hi (h sess (List.mem_cons_self ..))
    rw [refreshAll_cons, ih (hs.symm ▸ hi) fun sess' hs' => hs.symm ▸ h sess' (List.mem_cons_of_mem _ hs'), hs]

theorem tunnelOp_coord_of_unexpired (hi : s.coord.Inv) {op : TunnelOp}
    (h : ∀ t ∈ (op.asks repo s).2, s.coord.unexpired (op.asks repo s).1 t = true) :
    (s.tunnelOp repo sessionTTL op).1.coord = s.coord := by
  cases op with
  | registerTunnel now t a p l =>
    simp only [tunnelOp, registerTunnel_coord]
    exact MemCoordinator.currentLease_of_unexpired hi (h t (List.mem_singleton_self t))
  | deregisterTunnel now t =>
    have hd := deregisterTunnel_coord repo s now t
    simp only [tunnelOp]
    split <;> rename_i heq <;> rwa [heq] at hd
  | getTunnel now t =>
    simp only [tunnelOp]
    split
    · rfl
    · rename_i sess hg
      exact refresh_coord_of_unexpired hi (h _ (by simp [TunnelOp.asks, hg, Except.toOption]))
  | listTunnels now =>
    exact refreshAll_coord_of_unexpired hi fun sess hs => h sess.tunnelID (List.mem_map_of_mem hs)
  | heartbeat now t => exact heartbeat_coord repo s now t
  | cleanupExpired now => rfl

theorem tunnelOp_events (op : TunnelOp) {ev : RegistryEvent} (hev : ev ∈ (s.tunnelOp repo sessionTTL op).2) :
    (∃ sess, ev = .upserted sess) ∨ ∃ t, ev = .deleted t := by
  cases op with
  | registerTunnel now t a p l =>
    simp only [tunnelOp] at hev
    split at hev
    · exact .inl ⟨_, List.mem_singleton.1 hev⟩
    · cases hev
  | deregisterTunnel now t =>
    simp only [tunnelOp] at hev
    split at hev
    · exact .inr ⟨t, List.mem_singleton.1 hev⟩
    · cases hev
  | getTunnel now t =>
    simp only [tunnelOp] at hev
    split at hev <;> cases hev
  | listTunnels now => cases hev
  | heartbeat now t => cases hev
  | cleanupExpired now => cases hev

end Server

namespace Node

variable {σ : Type} {repo : SessionRepository σ} {sessionTTL : Duration} {ids : UUIDs} {n n' : Node σ} {l : NodeLabel}

/-- No `CurrentLease` meets an expired lease, and the events of one tunnel's
leases are published in the order of the operations, with room in the first
watch's channel. -/
def tellsLeases (repo : SessionRepository σ) (n : Node σ) : NodeLabel → Bool
  | .tunnel op => (op.asks repo n.server).2.all (n.server.coord.unexpired (op.asks repo n.server).1)
  | .coord (.currentLease now t) => n.server.coord.unexpired now t
  | .snapshot k now =>
    ((repo.list n.server.store).filter fun sess =>
      passes ((n.hub.watches[k]?).getD {}).tunnelFilter sess.tunnelID).all fun sess =>
        n.server.coord.unexpired now sess.tunnelID
  | .publish i => n.hub.inTurn RegistryEvent.leasedTunnel 0 (.publish i)
  | _ => true

theorem tellsLeases_inTurn (h : n.tellsLeases repo l = true) :
    n.hub.inTurn RegistryEvent.leasedTunnel 0 (n.hubLabel repo sessionTTL ids l) = true := by
  cases l with
  | publish i => exact h
  | _ => rfl

theorem coordOp_owners (hb : n.Base ids) (op : CoordOp)
    (h : ∀ now t, op = .currentLease now t → n.server.coord.unexpired now t = true) :
    replay RegistryEvent.leasedTunnel RegistryEvent.owner n.server.coord.ownerOf (n.coordOp ids op).2 =
      (n.coordOp ids op).1.server.coord.ownerOf := by
  have hi := hb.leases.inv
  cases op with
  | acquireLease now req =>
    exact MemCoordinator.acquireLease_owners hi (hb.coordOp (.acquireLease now req)).leases.inv
      (hb.leases.fresh ids.inj)
  | renewLease now id ttl => exact MemCoordinator.renewLease_owners hi now id ttl
  | releaseLease id => exact MemCoordinator.releaseLease_owners hi id
  | currentLease now t =>
    exact congrArg MemCoordinator.ownerOf (MemCoordinator.currentLease_of_unexpired hi (h now t rfl)).symm
  | reportRelayHealth now r addr health =>
    simp only [coordOp]
    split
    · rfl
    · exact funext fun t => replay_singleton _ t
  | releaseExpiredLeases now => exact MemCoordinator.releaseExpiredLeases_owners hi now

theorem step_owners (hb : n.Base ids) (h : n.tellsLeases repo l = true) :
    replay RegistryEvent.leasedTunnel RegistryEvent.owner n.server.coord.ownerOf
        (n.hubLabel repo sessionTTL ids l).spawned =
      (n.effect repo sessionTTL ids l).server.coord.ownerOf := by
  have hi := hb.leases.inv
  cases l with
  | tunnel op =>
    have hc : (n.server.tunnelOp repo sessionTTL op).1.coord = n.server.coord :=
      Server.tunnelOp_coord_of_unexpired hi (List.all_eq_true.1 h)
    funext t
    refine (replay_of_none fun ev hev => ?_).trans (congrFun (congrArg MemCoordinator.ownerOf hc.symm) t)
    rcases Server.tunnelOp_events op hev with ⟨sess, rfl⟩ | ⟨t', rfl⟩ <;> exact (Option.some_ne_none t).symm
  | coord op =>
    refine coordOp_owners hb op fun now t hop => ?_
    subst hop
    exact h
  | snapshot k now =>
    exact congrArg MemCoordinator.ownerOf (Server.refreshAll_coord_of_unexpired hi (List.all_eq_true.1 h)).symm
  | watch => rfl
  | publish => rfl
  | recv => rfl

/-- The first watch will know the owners in the lease table. -/
def OwnersMirrored (n : Node σ) : Prop :=
  n.hub.Mirrors RegistryEvent.leasedTunnel RegistryEvent.owner (fun _ => none) 0 n.server.coord.ownerOf

theorem ownersMirrored_step (hb : n.Base ids) (hm : n.OwnersMirrored) (hok : n.tellsLeases repo l = true)
    (hs : n.step repo sessionTTL ids l = some n') : n'.OwnersMirrored := by
  obtain ⟨hub, hh, rfl⟩ := step_eq_some _ _ _ hs
  exact Hub.Mirrors.step RegistryEvent.reread_leasedTunnel RegistryEvent.reread_owner hm hh (tellsLeases_inTurn hok)
    (step_owners hb hok)

/-- A client that watches a process from its start knows for every tunnel the
owner that `leasesByID` records, and no owner where it records none, in every run
in which no `CurrentLease` meets an expired lease and each tunnel's lease events
are published in order. -/
theorem watch_mirrors_leases (repo : SessionRepository σ) (ids : UUIDs) (sessionTTL : Duration) (store : σ)
    {ls : List NodeLabel} {n : Node σ}
    (hrun : Run (step repo sessionTTL ids) (fun n l => n.tellsLeases repo l = true) (watched store) ls n)
    (hidle : n.hub.Idle 0) :
    ∃ w ∈ n.hub.watches[0]?, ∀ t, knownOwners w.sent t = n.server.coord.ownerOf t := by
  have h0 : (watched store).Base ids ∧ (watched store).OwnersMirrored :=
    ⟨⟨(base_new ids store).leases, (base_new ids store).relays⟩, {}, rfl, ⟨rfl, rfl, rfl⟩, rfl⟩
  have hm := hrun.inv (fun n => n.Base ids ∧ n.OwnersMirrored) h0 fun _ _ _ hm hok hs =>
    ⟨hm.1.step hs, ownersMirrored_step hm.1 hm.2 hok hs⟩
  obtain ⟨w, hw, hr⟩ := hm.2.idle hidle
  exact ⟨w, hw, fun t => congrFun hr t⟩

/-- Two leases whose events overtake each other, a renewal, and a sweep of the other one. -/
def twoLeases : List NodeLabel :=
  [.coord (.acquireLease 0 ⟨"t-a", "r1", 5⟩), .coord (.acquireLease 0 ⟨"t-b", "r2", 20⟩), .publish 1, .publish 0,
    .coord (.renewLease 4 "u" 5), .publish 2, .coord (.currentLease 9 "t-a"), .coord (.releaseExpiredLeases 10),
    .publish 4, .recv 0 none, .recv 0 none, .recv 0 none, .recv 0 none]

/-- The client ends up with the owner of the one lease that is left. -/
theorem watch_mirrors_leases_two_leases :
    ∃ n, Run (step Memory.repo second .sample) (fun n l => n.tellsLeases Memory.repo l = true) (watched ∅) twoLeases n ∧
      n.hub.Idle 0 ∧ n.server.coord.ownerOf "t-b" = some "r2" ∧ n.server.coord.ownerOf "t-a" = none ∧
      ∃ w ∈ n.hub.watches[0]?, ∀ t, knownOwners w.sent t = n.server.coord.ownerOf t := by
  obtain ⟨n, hr, hi, hb, ha⟩ := run_checked_any (P := fun n : Node Memory =>
      n.hub.Idle 0 ∧ n.server.coord.ownerOf "t-b" = some "r2" ∧ n.server.coord.ownerOf "t-a" = none)
    (show (exec (checked (step Memory.repo second .sample) (tellsLeases Memory.repo)) (watched ∅) twoLeases).any _ =
      true by decide +kernel)
  exact ⟨n, hr, hi, hb, ha, watch_mirrors_leases Memory.repo .sample second ∅ hr hi⟩

/-- A lease that `CurrentLease` finds expired and deletes stays known to the
client, and so does one whose release is published before its acquisition; the
channel never filled up. -/
theorem deleted_lease_stays_known :
    (∃ n, Run (step Memory.repo second .sample) (fun n l => n.roomy 0 l = true) (watched ∅)
      [.coord (.acquireLease 0 ⟨"t-a", "r1", 5⟩), .publish 0, .coord (.currentLease 6 "t-a"), .recv 0 none] n ∧
      n.hub.Idle 0 ∧ n.server.coord.ownerOf "t-a" = none ∧
      ∃ w ∈ n.hub.watches[0]?, knownOwners w.sent "t-a" = some "r1") ∧
    ∃ n, Run (step Memory.repo second .sample) (fun n l => n.roomy 0 l = true) (watched ∅)
      [.coord (.acquireLease 0 ⟨"t-a", "r1", 5⟩), .coord (.releaseLease "u"), .publish 1, .publish 0, .recv 0 none,
        .recv 0 none] n ∧
      n.hub.Idle 0 ∧ n.server.coord.ownerOf "t-a" = none ∧
      ∃ w ∈ n.hub.watches[0]?, knownOwners w.sent "t-a" = some "r1" := by
  constructor
  · exact run_checked_any (by decide +kernel)
  · exact run_checked_any (by decide +kernel)

end Node

end TunnelEdge.Registry
