import TunnelEdge.Domain
/-!
# The in-memory coordinator

`MemCoordinator` (`internal/registry/mem_coordinator.go`): tunnel leases kept
under their id, with an index from tunnel to lease id. Every operation reads
the clock before it takes the lock, so `now` is an argument of each, and the
id a new lease gets from `uuid.NewString` is the argument `fresh`. The lease
operations run under one lock, hence each is one function.

`Inv` is what the two maps keep: they are inverse to each other. The `_spec`
lemmas say once what each operation does to the maps; later modules use them
and never unfold an operation.
-/

namespace TunnelEdge.Registry

open GoLib

/-- The lease part of `MemCoordinator`. -/
structure MemCoordinator where
  leasesByID : GoMap String Lease := ∅
  leaseByTunnel : GoMap String String := ∅
  relays : GoMap String RelayInfo := ∅

namespace MemCoordinator

def new : MemCoordinator := {}

/-- `currentLeaseLocked`: an expired lease, or an index entry without a lease, is deleted on the way. -/
def currentLeaseLocked (m : MemCoordinator) (tunnelID : String) (now : Time) : MemCoordinator × Option Lease :=
  match m.leaseByTunnel.lookup tunnelID with
  | none => (m, none)
  | some leaseID =>
    match m.leasesByID.lookup leaseID with
    | none => ({ m with leaseByTunnel := m.leaseByTunnel.erase tunnelID }, none)
    | some lease =>
      if lease.expiresAt < now then
        ({ m with
            leasesByID := m.leasesByID.erase leaseID
            leaseByTunnel := m.leaseByTunnel.erase tunnelID }, none)
      else (m, some lease)

/-- The writes at the end of `AcquireLease`: both maps, and the relay's `LastSeen`. -/
def putLease (m : MemCoordinator) (now : Time) (lease : Lease) : MemCoordinator :=
  { leasesByID := m.leasesByID.insert lease.leaseID lease
    leaseByTunnel := m.leaseByTunnel.insert lease.tunnelID lease.leaseID
    relays := match m.relays.lookup lease.relayID with
      | some relay => m.relays.insert lease.relayID { relay with lastSeen := now }
      | none => m.relays }

def acquireLease (m : MemCoordinator) (now : Time) (fresh : String) (req : LeaseRequest) :
    MemCoordinator × Except Status Lease :=
  if req.tunnelID = "" ∨ req.relayID = "" then
    (m, .error ⟨.invalidArgument, "tunnel_id and relay_id are required"⟩)
  else
    match m.currentLeaseLocked req.tunnelID now with
    | (m, some existing) =>
      if existing.relayID ≠ req.relayID then
        (m, .error ⟨.alreadyExists,
          "tunnel " ++ req.tunnelID ++ " already leased by relay " ++ existing.relayID⟩)
      else
        let lease := { existing with
          relayID := req.relayID, version := existing.version + 1, expiresAt := now + req.ttl }
        (m.putLease now lease, .ok lease)
    | (m, none) =>
      let lease := {
        leaseID := fresh, tunnelID := req.tunnelID, relayID := req.relayID, version := 1, expiresAt := now + req.ttl }
      (m.putLease now lease, .ok lease)

def renewLease (m : MemCoordinator) (now : Time) (leaseID : String) (ttl : Duration) :
    MemCoordinator × Except Status Lease :=
  if leaseID = "" then (m, .error ⟨.invalidArgument, "lease_id is required"⟩)
  else
    match m.leasesByID.lookup leaseID with
    | none => (m, .error ⟨.notFound, "lease " ++ leaseID ++ " not found"⟩)
    | some lease =>
      if lease.expiresAt < now then (m, .error ⟨.notFound, "lease " ++ leaseID ++ " not found"⟩)
      else
        let lease := { lease with expiresAt := now + ttl, version := lease.version + 1 }
        ({ m with leasesByID := m.leasesByID.insert leaseID lease }, .ok lease)

/-- Delete one lease, and its index entry if that still names this lease. -/
def drop (m : MemCoordinator) (leaseID : String) (lease : Lease) : MemCoordinator :=
  { m with
    leasesByID := m.leasesByID.erase leaseID
    leaseByTunnel :=
      if (m.leaseByTunnel.lookup lease.tunnelID).getD "" = leaseID then m.leaseByTunnel.erase lease.tunnelID
      else m.leaseByTunnel }

def releaseLease (m : MemCoordinator) (leaseID : String) : MemCoordinator × Except Status Lease :=
  if leaseID = "" then (m, .error ⟨.invalidArgument, "lease_id is required"⟩)
  else
    match m.leasesByID.lookup leaseID with
    | none => (m, .error ⟨.notFound, "lease " ++ leaseID ++ " not found"⟩)
    | some lease => (m.drop leaseID lease, .ok lease)

def currentLease (m : MemCoordinator) (now : Time) (tunnelID : String) : MemCoordinator × Option Lease :=
  m.currentLeaseLocked tunnelID now

/-- One round of the loop in `ReleaseExpiredLeases`. -/
def sweep (now : Time) (m : MemCoordinator) (e : Sigma fun _ : String => Lease) : MemCoordinator :=
  if e.2.expiresAt < now then m.drop e.1 e.2 else m

def releaseExpiredLeases (m : MemCoordinator) (now : Time) : MemCoordinator × List Lease :=
  (m.leasesByID.entries.foldl (sweep now) m, GoMap.values (fun _ l => l.expiresAt < now) m.leasesByID)

/-! ## The two maps are inverse -/

structure Inv (m : MemCoordinator) : Prop where
  inverse : ∀ t id, m.leaseByTunnel.lookup t = some id ↔ ∃ l, m.leasesByID.lookup id = some l ∧ l.tunnelID = t
  ids : ∀ id l, m.leasesByID.lookup id = some l → l.leaseID = id ∧ id ≠ ""

/-- `l` is the lease the table holds for tunnel `t`, expired or not. -/
def Holds (m : MemCoordinator) (t : String) (l : Lease) : Prop :=
  m.leasesByID.lookup l.leaseID = some l ∧ l.tunnelID = t

theorem inv_new : Inv new := by
  constructor <;> simp [new]

theorem Inv.holds {m : MemCoordinator} (hi : Inv m) {id : String} {l : Lease} (h : m.leasesByID.lookup id = some l) :
    Holds m l.tunnelID l := ⟨by rw [(hi.ids id l h).1]; exact h, rfl⟩

theorem Inv.index {m : MemCoordinator} (hi : Inv m) {t : String} {l : Lease} (h : Holds m t l) :
    m.leaseByTunnel.lookup t = some l.leaseID := (hi.inverse t l.leaseID).2 ⟨l, h⟩

theorem Inv.unique {m : MemCoordinator} (hi : Inv m) {t : String} {l l' : Lease} (h : Holds m t l)
    (h' : Holds m t l') : l = l' := by
  have e := (hi.index h).symm.trans (hi.index h')
  have h1 := h.1
  rw [Option.some.inj e, h'.1] at h1
  exact (Option.some.inj h1).symm

/-! ## What the operations do -/

@[simp] theorem drop_leases (m : MemCoordinator) (id id' : String) (l : Lease) :
    (m.drop id l).leasesByID.lookup id' = if id' = id then none else m.leasesByID.lookup id' := by
  simp [drop]

theorem drop_index {m : MemCoordinator} (hi : Inv m) {id : String} {l : Lease} (h : m.leasesByID.lookup id = some l) :
    (m.drop id l).leaseByTunnel = m.leaseByTunnel.erase l.tunnelID := by
  have hx := (hi.inverse l.tunnelID id).2 ⟨l, h, rfl⟩
  simp [drop, hx]

theorem inv_drop {m : MemCoordinator} (hi : Inv m) {id : String} {l : Lease} (h : m.leasesByID.lookup id = some l) :
    Inv (m.drop id l) := by
  refine ⟨fun t id' => ?_, fun id' l' h' => ?_⟩
  · rw [drop_index hi h]
    simp only [GoMap.lookup_erase_ite, drop_leases]
    by_cases ht : t = l.tunnelID
    · simp only [ht, if_true, reduceCtorEq, false_iff]
      rintro ⟨l', hl', hlt⟩
      by_cases hid : id' = id
      · simp [hid] at hl'
      · rw [if_neg hid] at hl'
        have h1 := (hi.inverse l.tunnelID id').2 ⟨l', hl', hlt⟩
        rw [(hi.inverse l.tunnelID id).2 ⟨l, h, rfl⟩] at h1
        exact hid (Option.some.inj h1).symm
    · rw [if_neg ht, hi.inverse]
      constructor
      · rintro ⟨l', hl', rfl⟩
        refine ⟨l', ?_, rfl⟩
        rw [if_neg]
        · exact hl'
        · rintro rfl
          rw [h] at hl'
          exact ht (congrArg Lease.tunnelID (Option.some.inj hl').symm)
      · rintro ⟨l', hl', hlt⟩
        by_cases hid : id' = id
        · simp [hid] at hl'
        · exact ⟨l', by simpa [hid] using hl', hlt⟩
  · rw [drop_leases] at h'
    split at h'
    · cases h'
    · exact hi.ids id' l' h'

@[simp] theorem putLease_leases (m : MemCoordinator) (now : Time) (l : Lease) (id : String) :
    (m.putLease now l).leasesByID.lookup id = if id = l.leaseID then some l else m.leasesByID.lookup id := by
  simp [putLease]

theorem inv_putLease {m : MemCoordinator} (hi : Inv m) (now : Time) {l : Lease} (hne : l.leaseID ≠ "")
    (ht : ∀ l', Holds m l.tunnelID l' → l'.leaseID = l.leaseID)
    (hid : ∀ l', m.leasesByID.lookup l.leaseID = some l' → l'.tunnelID = l.tunnelID) :
    Inv (m.putLease now l) := by
  refine ⟨fun t id => ?_, fun id l' h' => ?_⟩
  · simp only [putLease_leases]
    simp only [putLease, GoMap.lookup_insert_ite]
    by_cases htl : t = l.tunnelID
    · rw [if_pos htl, Option.some.injEq]
      constructor
      · rintro rfl
        exact ⟨l, by simp, htl.symm⟩
      · rintro ⟨l', hl', hlt⟩
        by_cases hidl : id = l.leaseID
        · exact hidl.symm
        · rw [if_neg hidl] at hl'
          have hh := hi.holds hl'
          rw [hlt, htl] at hh
          rw [← (hi.ids id l' hl').1]
          exact (ht l' hh).symm
    · rw [if_neg htl, hi.inverse]
      by_cases hidl : id = l.leaseID
      · subst hidl
        constructor
        · rintro ⟨l', hl', rfl⟩
          exact absurd (hid l' hl') htl
        · rintro ⟨l', hl', rfl⟩
          rw [if_pos rfl] at hl'
          exact absurd (congrArg Lease.tunnelID (Option.some.inj hl').symm) htl
      · simp only [if_neg hidl]
  · rw [putLease_leases] at h'
    split at h'
    · rename_i hid'
      cases h'
      exact ⟨hid'.symm, hid' ▸ hne⟩
    · exact hi.ids id l' h'

theorem currentLeaseLocked_cases {m : MemCoordinator} (hi : Inv m) (t : String) (now : Time) :
    (∃ l, Holds m t l ∧ ¬ l.expiresAt < now ∧ m.currentLeaseLocked t now = (m, some l)) ∨
    (∃ l, Holds m t l ∧ l.expiresAt < now ∧ m.currentLeaseLocked t now = (m.drop l.leaseID l, none)) ∨
    ((∀ l, ¬ Holds m t l) ∧ m.currentLeaseLocked t now = (m, none)) := by
  cases hx : m.leaseByTunnel.lookup t with
  | none =>
    refine .inr (.inr ⟨fun l hl => ?_, by simp [currentLeaseLocked, hx]⟩)
    rw [hi.index hl] at hx
    cases hx
  | some id =>
    obtain ⟨l, hl, rfl⟩ := (hi.inverse t id).1 hx
    have hh := hi.holds hl
    obtain rfl := (hi.ids id l hl).1
    by_cases he : l.expiresAt < now
    · refine .inr (.inl ⟨l, hh, he, ?_⟩)
      simp [currentLeaseLocked, hx, hl, he, drop]
    · exact .inl ⟨l, hh, he, by simp [currentLeaseLocked, hx, hl, he]⟩

def extended (l : Lease) (now : Time) (req : LeaseRequest) : Lease :=
  { l with relayID := req.relayID, version := l.version + 1, expiresAt := now + req.ttl }

def granted (now : Time) (fresh : String) (req : LeaseRequest) : Lease :=
  { leaseID := fresh, tunnelID := req.tunnelID, relayID := req.relayID, version := 1, expiresAt := now + req.ttl }

theorem inv_extended {m : MemCoordinator} (hi : Inv m) {t : String} {l : Lease} (hl : Holds m t l) (now : Time)
    (req : LeaseRequest) : Inv (m.putLease now (extended l now req)) := by
  refine inv_putLease hi now (hi.ids _ _ hl.1).2 (fun l' hl' => ?_) (fun l' hl' => ?_)
  · have hll : Holds m l.tunnelID l := ⟨hl.1, rfl⟩
    show l'.leaseID = l.leaseID
    rw [hi.unique hl' hll]
  · rw [show (extended l now req).leaseID = l.leaseID from rfl, hl.1] at hl'
    cases hl'
    rfl

theorem inv_granted {m : MemCoordinator} (hi : Inv m) {req : LeaseRequest} (hn : ∀ l, ¬ Holds m req.tunnelID l)
    {fresh : String} (hne : fresh ≠ "") (hfree : m.leasesByID.lookup fresh = none) (now : Time) :
    Inv (m.putLease now (granted now fresh req)) := by
  refine inv_putLease hi now hne (fun l' hl' => absurd hl' (hn l')) (fun l' hl' => ?_)
  rw [show (granted now fresh req).leaseID = fresh from rfl, hfree] at hl'
  cases hl'

inductive AcquireCase (m : MemCoordinator) (now : Time) (fresh : String) (req : LeaseRequest) :
    MemCoordinator × Except Status Lease → Prop
  | invalid (h : req.tunnelID = "" ∨ req.relayID = "") :
      AcquireCase m now fresh req (m, .error ⟨.invalidArgument, "tunnel_id and relay_id are required"⟩)
  | conflict (l : Lease) (hok : ¬ (req.tunnelID = "" ∨ req.relayID = "")) (hl : Holds m req.tunnelID l)
      (he : ¬ l.expiresAt < now) (hr : l.relayID ≠ req.relayID) :
      AcquireCase m now fresh req
        (m, .error ⟨.alreadyExists, "tunnel " ++ req.tunnelID ++ " already leased by relay " ++ l.relayID⟩)
  | extend (l : Lease) (hok : ¬ (req.tunnelID = "" ∨ req.relayID = "")) (hl : Holds m req.tunnelID l)
      (he : ¬ l.expiresAt < now) (hr : l.relayID = req.relayID) :
      AcquireCase m now fresh req (m.putLease now (extended l now req), .ok (extended l now req))
  | grant (m' : MemCoordinator) (hok : ¬ (req.tunnelID = "" ∨ req.relayID = ""))
      (hm : (m' = m ∧ ∀ l, ¬ Holds m req.tunnelID l) ∨
        ∃ l, Holds m req.tunnelID l ∧ l.expiresAt < now ∧ m' = m.drop l.leaseID l) :
      AcquireCase m now fresh req (m'.putLease now (granted now fresh req), .ok (granted now fresh req))

theorem acquireLease_cases {m : MemCoordinator} (hi : Inv m) (now : Time) (fresh : String) (req : LeaseRequest) :
    AcquireCase m now fresh req (m.acquireLease now fresh req) := by
  unfold acquireLease
  split
  · exact .invalid ‹_›
  · rename_i hok
    rcases currentLeaseLocked_cases hi req.tunnelID now with ⟨l, hl, he, hc⟩ | ⟨l, hl, he, hc⟩ | ⟨hn, hc⟩
    · rw [hc]
      by_cases hr : l.relayID = req.relayID
      · simp only [hr, ne_eq, not_true_eq_false, if_false]
        exact .extend l hok hl he hr
      · simp only [ne_eq, hr, not_false_eq_true, if_true]
        exact .conflict l hok hl he hr
    · rw [hc]
      exact .grant _ hok (.inr ⟨l, hl, he, rfl⟩)
    · rw [hc]
      exact .grant _ hok (.inl ⟨rfl, hn⟩)

theorem grant_purged {m m' : MemCoordinator} (hi : Inv m) {t : String} {now : Time}
    (hm : (m' = m ∧ ∀ l, ¬ Holds m t l) ∨ ∃ l, Holds m t l ∧ l.expiresAt < now ∧ m' = m.drop l.leaseID l) :
    Inv m' ∧ (∀ l, ¬ Holds m' t l) ∧
      ∀ id, m'.leasesByID.lookup id = m.leasesByID.lookup id ∨
        (m'.leasesByID.lookup id = none ∧
          ∃ l, m.leasesByID.lookup id = some l ∧ l.expiresAt < now ∧ l.tunnelID = t) := by
  rcases hm with ⟨rfl, hn⟩ | ⟨l, hl, he, rfl⟩
  · exact ⟨hi, hn, fun _ => .inl rfl⟩
  · refine ⟨inv_drop hi hl.1, fun l' hl' => ?_, fun id => ?_⟩
    · obtain ⟨h1, h2⟩ := hl'
      rw [drop_leases] at h1
      split at h1
      · cases h1
      · rename_i hne
        exact hne (congrArg Lease.leaseID (hi.unique ⟨h1, h2⟩ hl))
    · by_cases hid : id = l.leaseID
      · exact .inr ⟨by simp [hid], l, hid ▸ hl.1, he, hl.2⟩
      · exact .inl (by simp [hid])

theorem renewLease_cases {m : MemCoordinator} (hi : Inv m) (now : Time) (id : String) (ttl : Duration) :
    (∃ s, m.renewLease now id ttl = (m, .error s) ∧ ∀ l, m.leasesByID.lookup id = some l → l.expiresAt < now) ∨
    (∃ l, m.leasesByID.lookup id = some l ∧ ¬ l.expiresAt < now ∧
      m.renewLease now id ttl =
        ({ m with leasesByID := m.leasesByID.insert id { l with expiresAt := now + ttl, version := l.version + 1 } },
          .ok { l with expiresAt := now + ttl, version := l.version + 1 })) := by
  unfold renewLease
  split
  · rename_i hid
    exact .inl ⟨_, rfl, fun l hl => absurd hid (hi.ids id l hl).2⟩
  · cases hl : m.leasesByID.lookup id with
    | none => exact .inl ⟨_, rfl, fun l hl => by cases hl⟩
    | some l =>
      simp only
      split
      · rename_i he
        exact .inl ⟨_, rfl, fun l' hl' => by cases hl'; exact he⟩
      · exact .inr ⟨l, rfl, ‹_›, rfl⟩

theorem inv_update {m : MemCoordinator} (hi : Inv m) {id : String} {l l' : Lease}
    (h : m.leasesByID.lookup id = some l) (hid : l'.leaseID = l.leaseID) (ht : l'.tunnelID = l.tunnelID) :
    Inv { m with leasesByID := m.leasesByID.insert id l' } := by
  refine ⟨fun t id' => ?_, fun id' l'' h' => ?_⟩
  · rw [hi.inverse]
    simp only [GoMap.lookup_insert_ite]
    by_cases he : id' = id
    · subst he
      simp [h, ht]
    · simp [he]
  · simp only [GoMap.lookup_insert_ite] at h'
    split at h'
    · cases h'
      subst_vars
      exact ⟨hid.trans (hi.ids _ l h).1, (hi.ids _ l h).2⟩
    · exact hi.ids id' l'' h'

theorem releaseLease_cases {m : MemCoordinator} (hi : Inv m) (id : String) :
    (∃ s, m.releaseLease id = (m, .error s) ∧ m.leasesByID.lookup id = none) ∨
    (∃ l, m.leasesByID.lookup id = some l ∧ m.releaseLease id = (m.drop id l, .ok l)) := by
  unfold releaseLease
  cases hl : m.leasesByID.lookup id with
  | none => split <;> exact .inl ⟨_, rfl, rfl⟩
  | some l =>
    have hne := (hi.ids id l hl).2
    exact .inr ⟨l, rfl, by simp [hne]⟩

/-- The sweep over a list of entries of the table, each still present when its turn comes. -/
theorem foldl_sweep (now : Time) (es : List (Sigma fun _ : String => Lease)) (hn : es.NodupKeys) :
    ∀ m : MemCoordinator, Inv m → (∀ e ∈ es, m.leasesByID.lookup e.1 = some e.2) →
      Inv (es.foldl (sweep now) m) ∧
      ∀ id, (es.foldl (sweep now) m).leasesByID.lookup id =
        if ∃ e ∈ es, e.1 = id ∧ e.2.expiresAt < now then none else m.leasesByID.lookup id := by
  induction es with
  | nil => intro m hi _; simpa using hi
  | cons e es ih =>
    intro m hi hall
    obtain ⟨hne, hn'⟩ := List.nodupKeys_cons.1 hn
    have hkey : ∀ e' ∈ es, e'.1 ≠ e.1 := fun e' he' h => hne (h ▸ List.mem_map_of_mem he')
    have hstep : Inv (sweep now m e) ∧ (∀ id, (sweep now m e).leasesByID.lookup id =
        if e.1 = id ∧ e.2.expiresAt < now then none else m.leasesByID.lookup id) := by
      unfold sweep
      split
      · rename_i he
        refine ⟨inv_drop hi (hall e (by simp)), fun id => ?_⟩
        rw [drop_leases]
        by_cases h : id = e.1
        · simp [h, he]
        · simp [h, Ne.symm h]
      · rename_i he
        exact ⟨hi, fun id => by simp [he]⟩
    obtain ⟨h1, h2⟩ := ih hn' (sweep now m e) hstep.1 (fun e' he' => by
      rw [hstep.2, if_neg (fun h => hkey e' he' h.1.symm)]
      exact hall e' (by simp [he']))
    refine ⟨h1, fun id => ?_⟩
    rw [List.foldl_cons, h2, hstep.2]
    simp only [List.mem_cons, exists_eq_or_imp]
    by_cases ha : ∃ e' ∈ es, e'.1 = id ∧ e'.2.expiresAt < now
    · simp [ha]
    · simp [ha]

theorem releaseExpiredLeases_spec {m : MemCoordinator} (hi : Inv m) (now : Time) :
    Inv (m.releaseExpiredLeases now).1 ∧
    ∀ id, (m.releaseExpiredLeases now).1.leasesByID.lookup id =
      (m.leasesByID.lookup id).filter (fun l => ¬ l.expiresAt < now) := by
  obtain ⟨h1, h2⟩ := foldl_sweep now m.leasesByID.entries m.leasesByID.nodupKeys m hi
    (fun e he => (GoMap.mem_entries_iff m.leasesByID e.1 e.2).1 he)
  refine ⟨h1, fun id => (h2 id).trans ?_⟩
  cases hl : m.leasesByID.lookup id with
  | none => simp
  | some l =>
    have hm := (GoMap.mem_entries_iff m.leasesByID id l).2 hl
    by_cases he : l.expiresAt < now
    · rw [if_pos ⟨_, hm, rfl, he⟩]
      simp [Option.filter_some, he]
    · rw [if_neg]
      · simp [Option.filter_some, Int.not_lt.1 he]
      · rintro ⟨⟨id', l'⟩, hm', rfl, he'⟩
        have := (GoMap.mem_entries_iff m.leasesByID id' l').1 hm'
        rw [hl] at this
        cases this
        exact he he'

end MemCoordinator

end TunnelEdge.Registry
