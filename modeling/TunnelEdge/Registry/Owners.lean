import TunnelEdge.Registry.Mirror
import TunnelEdge.Registry.Wire
import TunnelEdge.Store.Tokens
/-!
# Who the registry says owns a tunnel

`GetTunnel` and `ListTunnels` write the owner into the session that they return when the
coordinator has a lease for it. When it has none they leave the session as it is, with the
owner that it got at its registration or, in the memory store, at an earlier read.

The history beside a run says of every session whether a lease was there at one of these
moments. The answers are right as long as the lease is, and afterwards only for the
sessions that never saw one.
-/

namespace TunnelEdge.Registry

open GoLib Store

namespace Server

variable {σ : Type} (repo : SessionRepository σ)

def getTunnel (s : Server σ) (now : Time) (tunnelID : String) : Server σ × Except Status Pb.GetTunnelResponse :=
  match repo.get s.store tunnelID with
  | .error _ => (s, .error ⟨.notFound, "tunnel " ++ tunnelID ++ " not found"⟩)
  | .ok sess => ((s.refresh repo now sess).1, .ok (sessionToProto (s.refresh repo now sess).2))

def listTunnels (s : Server σ) (now : Time) : Server σ × List Pb.GetTunnelResponse :=
  let (s, sessions) := s.refreshAll repo now (repo.list s.store)
  (s, sessions.map sessionToProto)

theorem tunnelOp_reads (s : Server σ) (sessionTTL : Duration) (now : Time) (t : String) :
    (s.tunnelOp repo sessionTTL (.getTunnel now t)).1 = (s.getTunnel repo now t).1 ∧
      (s.tunnelOp repo sessionTTL (.listTunnels now)).1 = (s.listTunnels repo now).1 := by
  refine ⟨?_, rfl⟩
  cases hg : repo.get s.store t <;> simp only [tunnelOp, getTunnel, hg]

theorem tunnelOp_deregister (s : Server σ) (sessionTTL : Duration) (now : Time) (t : String) :
    (s.tunnelOp repo sessionTTL (.deregisterTunnel now t)).1.store = (repo.deregister s.store now t).1 := by
  rcases hd : repo.deregister s.store now t with ⟨store, err | ok⟩ <;>
    simp only [tunnelOp, deregisterTunnel, hd]

theorem tunnelOp_heartbeat (s : Server σ) (sessionTTL : Duration) (now : Time) (t : String) :
    (s.tunnelOp repo sessionTTL (.heartbeat now t)).1.store = (repo.heartbeat s.store now t).1 := by
  rcases hh : repo.heartbeat s.store now t with ⟨store, err | ok⟩ <;> simp only [tunnelOp, heartbeat, hh]

def leased (s : Server σ) (now : Time) (t : String) : Bool := (s.coord.currentLease now t).2.isSome

def Names (lease : Option Lease) (r : Pb.GetTunnelResponse) : Prop :=
  r.ownerRelayId = (lease.map Lease.relayID).getD "" ∧ r.leaseId = (lease.map Lease.leaseID).getD ""

instance (lease : Option Lease) (r : Pb.GetTunnelResponse) : Decidable (Names lease r) :=
  inferInstanceAs (Decidable (_ ∧ _))

/-- What `GetTunnel` and `ListTunnels` say of a tunnel is what `CurrentLease` says. -/
def ReportsOwner (s : Server σ) (now : Time) (t : String) : Prop :=
  (∀ r ∈ (s.getTunnel repo now t).2.toOption, Names (s.coord.currentLease now t).2 r) ∧
    ∀ r ∈ (s.listTunnels repo now).2, r.tunnelId = t → Names (s.coord.currentLease now t).2 r

instance (s : Server σ) (now : Time) (t : String) : Decidable (s.ReportsOwner repo now t) :=
  inferInstanceAs (Decidable (_ ∧ _))

/-! ## One session -/

/-- A session that has seen a lease carries an id, one that has not carries nothing. -/
def Recorded (seen : Bool) (sess : Session) : Prop :=
  match seen with
  | true => sess.leaseID ≠ ""
  | false => sess.ownerRelayID = "" ∧ sess.leaseID = ""

theorem Recorded.congr {seen : Bool} {sess sess' : Session} (h : Recorded seen sess)
    (howner : sess'.ownerRelayID = sess.ownerRelayID) (hid : sess'.leaseID = sess.leaseID) : Recorded seen sess' := by
  unfold Recorded
  rw [howner, hid]
  exact h

variable {repo} {s : Server σ} {now : Time} {t : String} {sess : Session} {seen : Bool}

theorem leaseID_ne_of_current {m : MemCoordinator} (hi : m.Inv) {l : Lease} (h : (m.currentLease now t).2 = some l) :
    l.leaseID ≠ "" := by
  rw [MemCoordinator.currentLease_eq hi] at h
  have hl := (MemCoordinator.leaseOf_eq_some hi).1 (Option.filter_eq_some_iff.1 h).1
  exact (hi.ids _ _ hl.1).2

theorem recorded_newSession (hi : s.coord.Inv) (now : Time) (t a p l : String) :
    Recorded (s.leased now t) (s.newSession now t a p l) := by
  unfold leased newSession
  cases hc : (s.coord.currentLease now t).2 with
  | none => exact ⟨rfl, rfl⟩
  | some lease => exact leaseID_ne_of_current hi hc

theorem Recorded.shown (hi : s.coord.Inv) (now : Time) (h : Recorded seen sess) :
    Recorded (seen || s.leased now sess.tunnelID) (shown s.coord now sess) := by
  unfold leased Server.shown
  cases hc : (s.coord.currentLease now sess.tunnelID).2 with
  | none => simpa using h
  | some lease =>
    rw [Option.isSome_some, Bool.or_true]
    exact leaseID_ne_of_current hi hc

theorem Recorded.names_iff (s : Server σ) (now : Time) (h : Recorded seen sess) (ht : sess.tunnelID = t) :
    Names (s.coord.currentLease now t).2 (sessionToProto (Server.shown s.coord now sess)) ↔
      s.leased now t = true ∨ seen = false := by
  unfold leased Names Server.shown
  rw [ht]
  cases hc : (s.coord.currentLease now t).2 with
  | some lease => simp [sessionToProto]
  | none =>
    cases seen with
    | false => exact ⟨fun _ => .inr rfl, fun _ => h⟩
    | true => exact ⟨fun hn => absurd hn.2 h, fun hn => by simp at hn⟩

theorem reportsOwner_iff (hi : s.coord.Inv)
    (hget : ∀ sess, repo.get s.store t = .ok sess → sess ∈ repo.list s.store ∧ sess.tunnelID = t) :
    s.ReportsOwner repo now t ↔ ∀ sess ∈ repo.list s.store, sess.tunnelID = t →
      Names (s.coord.currentLease now t).2 (sessionToProto (shown s.coord now sess)) := by
  have hlist : (s.listTunnels repo now).2 =
      (repo.list s.store).map fun sess => sessionToProto (shown s.coord now sess) := by
    simp only [listTunnels, refreshAll_shown hi, List.map_map]
    rfl
  unfold ReportsOwner
  rw [hlist]
  constructor
  · rintro ⟨-, h⟩ sess hs ht
    refine h _ (List.mem_map_of_mem hs) ?_
    rw [sessionToProto, shown_tunnelID]
    exact ht
  · intro h
    refine ⟨fun r hr => ?_, fun r hr ht => ?_⟩
    · unfold getTunnel at hr
      cases hg : repo.get s.store t with
      | error e => simp [hg, Except.toOption] at hr
      | ok sess =>
        obtain ⟨hs, ht⟩ := hget sess hg
        simp only [hg, Except.toOption, Option.mem_some_iff, refresh_shown] at hr
        exact hr ▸ h sess hs ht
    · obtain ⟨sess, hs, rfl⟩ := List.mem_map.1 hr
      rw [sessionToProto, shown_tunnelID] at ht
      exact h sess hs ht

end Server

/-! ## The memory store -/

open Server

/-- Which sessions have seen a lease after a handler. A registration starts afresh. -/
def seenBy (s : Server Memory) (seen : String → Bool) (t : String) : TunnelOp → Bool
  | .registerTunnel now t' _ _ _ => if t' = t ∧ s.store.lookup t = none then s.leased now t else seen t
  | .getTunnel now t' => seen t || (decide (t = t') && s.leased now t)
  | .listTunnels now => seen t || s.leased now t
  | .deregisterTunnel .. | .heartbeat .. | .cleanupExpired .. => seen t

/-- The history of a process over the memory store, where a snapshot reads as `ListTunnels` does. -/
def leaseSeen (n : Node Memory) (l : NodeLabel) (_ : Node Memory) (seen : String → Bool) (t : String) : Bool :=
  match l with
  | .tunnel op => seenBy n.server seen t op
  | .snapshot k now =>
    seen t || (passes ((n.hub.watches[k]?).getD {}).tunnelFilter t && n.server.leased now t)
  | .coord .. | .watch .. | .publish .. | .recv .. => seen t

/-- Every session is stored under its own id, and carries an owner if it has seen a lease. -/
def Marked (store : Memory) (seen : String → Bool) : Prop :=
  ∀ t sess, store.lookup t = some sess → sess.tunnelID = t ∧ Recorded (seen t) sess

section Memory

variable {store store' : Memory} {seen seen' : String → Bool} {s : Server Memory} {now : Time} {t : String}

theorem Marked.mono (h : Marked store seen) (hseen : ∀ t, store'.lookup t ≠ none → seen' t = seen t)
    (hstore : ∀ t sess', store'.lookup t = some sess' → ∃ sess, store.lookup t = some sess ∧
      sess'.tunnelID = sess.tunnelID ∧ sess'.ownerRelayID = sess.ownerRelayID ∧ sess'.leaseID = sess.leaseID) :
    Marked store' seen' := by
  intro t sess' hs'
  obtain ⟨sess, hs, hid, howner, hlease⟩ := hstore t sess' hs'
  obtain ⟨ht, hr⟩ := h t sess hs
  refine ⟨hid.trans ht, ?_⟩
  rw [hseen t (by rw [hs']; exact Option.some_ne_none _)]
  exact hr.congr howner hlease

theorem Marked.weaken (h : Marked store seen) (hseen : ∀ t, store.lookup t ≠ none → seen' t = seen t) :
    Marked store seen' :=
  h.mono hseen fun _ sess hs => ⟨sess, hs, rfl, rfl, rfl⟩

theorem Marked.heartbeat (h : Marked store seen) (now : Time) (t : String) :
    Marked (Memory.heartbeat store now t).1 seen := by
  refine h.mono (fun _ _ => rfl) fun t' sess' hs' => ?_
  unfold Memory.heartbeat at hs'
  split at hs'
  · exact ⟨sess', hs', rfl, rfl, rfl⟩
  · rename_i sess hs
    rw [GoMap.lookup_insert_ite] at hs'
    split at hs'
    · rename_i ht
      cases hs'
      exact ⟨sess, ht ▸ hs, rfl, rfl, rfl⟩
    · exact ⟨sess', hs', rfl, rfl, rfl⟩

theorem Marked.deregister (h : Marked store seen) (t : String) : Marked (Memory.deregister store t).1 seen := by
  refine h.mono (fun _ _ => rfl) fun t' sess hs => ⟨sess, ?_, rfl, rfl, rfl⟩
  rcases Memory.deregister_cases store t with ⟨err, hd⟩ | hd
  · rwa [hd] at hs
  · rw [hd, GoMap.lookup_erase_ite] at hs
    split at hs
    · cases hs
    · exact hs

theorem Marked.cleanupExpired (h : Marked store seen) (now : Time) (ttl : Duration) :
    Marked (Memory.cleanupExpired store now ttl).1 seen := by
  refine h.mono (fun _ _ => rfl) fun t sess hs => ⟨sess, ?_, rfl, rfl, rfl⟩
  rw [Memory.cleanupExpired, GoMap.lookup_filter] at hs
  exact (Option.filter_eq_some_iff.1 hs).1

theorem Marked.register (h : Marked s.store seen) (hi : s.coord.Inv) (now : Time) (t a p l : String) :
    Marked (Memory.register s.store now (s.newSession now t a p l)).1
      fun t' => if t = t' ∧ s.store.lookup t' = none then s.leased now t' else seen t' := by
  unfold Memory.register
  rw [newSession_tunnelID]
  have hold : ∀ t', s.store.lookup t' ≠ none →
      (if t = t' ∧ s.store.lookup t' = none then s.leased now t' else seen t') = seen t' :=
    fun t' ht' => if_neg fun hn => ht' hn.2
  split
  · exact h.weaken hold
  · split
    · exact h.weaken hold
    · rename_i hnone
      intro t' sess hs
      change sess.tunnelID = t' ∧
        Recorded (if t = t' ∧ s.store.lookup t' = none then s.leased now t' else seen t') sess
      rw [GoMap.lookup_insert_ite] at hs
      by_cases ht : t' = t
      · rw [if_pos ht] at hs
        cases hs
        subst ht
        have hmark : (if t' = t' ∧ s.store.lookup t' = none then s.leased now t' else seen t') = s.leased now t' :=
          if_pos ⟨rfl, hnone⟩
        rw [hmark]
        exact ⟨rfl, (recorded_newSession hi now _ a p l).congr rfl rfl⟩
      · rw [if_neg ht] at hs
        rw [if_neg fun hn => ht hn.1.symm]
        exact h t' sess hs

theorem Marked.refresh (h : Marked s.store seen) (hi : s.coord.Inv) (now : Time) (sess : Session) :
    Marked (s.refresh Memory.repo now sess).1.store
      fun t => seen t || (decide (t = sess.tunnelID) && s.leased now t) := by
  intro t x hx
  by_cases ht : t = sess.tunnelID
  · subst ht
    simp only [decide_true, Bool.true_and]
    have hshown : ∃ y, s.store.lookup sess.tunnelID = some y ∧ x = shown s.coord now y := by
      unfold Server.refresh at hx
      cases hc : s.coord.currentLease now sess.tunnelID with
      | mk coord lease =>
        rw [hc] at hx
        cases lease with
        | none =>
          obtain ⟨hid, -⟩ := h _ x hx
          exact ⟨x, hx, by simp [shown, hid, hc]⟩
        | some lease =>
          simp only [Memory.repo, Memory.setOwner] at hx
          split at hx
          · rename_i hn
            rw [hn] at hx
            cases hx
          · rename_i y hy
            obtain ⟨hid, -⟩ := h _ y hy
            rw [GoMap.lookup_insert_ite, if_pos rfl] at hx
            cases hx
            exact ⟨y, hy, by simp [shown, hid, hc]⟩
    obtain ⟨y, hy, rfl⟩ := hshown
    obtain ⟨hid, hr⟩ := h _ y hy
    refine ⟨(shown_tunnelID ..).trans hid, ?_⟩
    have hs := hr.shown hi now
    rwa [hid] at hs
  · have hsame : (s.refresh Memory.repo now sess).1.store.lookup t = s.store.lookup t := by
      unfold Server.refresh
      split
      · rfl
      · simp only [Memory.repo, Memory.setOwner]
        split
        · rfl
        · rw [GoMap.lookup_insert_ite, if_neg ht]
    rw [hsame] at hx
    simpa [ht] using h t x hx

theorem leased_after (hi : s.coord.Inv) (now : Time) (sess : Session) :
    (s.refresh Memory.repo now sess).1.leased now = s.leased now := by
  funext t
  unfold leased
  rw [refresh_coord, MemCoordinator.currentLease_after hi]

theorem inv_refresh (hi : s.coord.Inv) (now : Time) (sess : Session) :
    (s.refresh Memory.repo now sess).1.coord.Inv := by
  rw [refresh_coord]
  rcases MemCoordinator.currentLeaseLocked_cases hi sess.tunnelID now with ⟨l, -, -, hc⟩ | ⟨l, hl, -, hc⟩ | ⟨-, hc⟩ <;>
    rw [MemCoordinator.currentLease, hc]
  · exact hi
  · exact MemCoordinator.inv_drop hi hl.1
  · exact hi

theorem Marked.refreshAll (sessions : List Session) (h : Marked s.store seen) (hi : s.coord.Inv) (now : Time) :
    Marked (s.refreshAll Memory.repo now sessions).1.store
      fun t => seen t || (decide (t ∈ sessions.map Session.tunnelID) && s.leased now t) := by
  induction sessions generalizing s seen with
  | nil => exact h.weaken fun t _ => by simp
  | cons sess rest ih =>
    have hrest := ih (h.refresh hi now sess) (inv_refresh hi now sess)
    rw [leased_after hi] at hrest
    refine hrest.weaken fun t _ => ?_
    by_cases ht : t = sess.tunnelID
    · subst ht
      cases s.leased now sess.tunnelID <;> simp
    · simp [ht]

theorem Marked.reads (h : Marked s.store seen) (hi : s.coord.Inv) (now : Time) (p : String → Bool) :
    Marked (s.refreshAll Memory.repo now ((Memory.list s.store).filter fun sess => p sess.tunnelID)).1.store
      fun t => seen t || (p t && s.leased now t) := by
  refine (h.refreshAll _ hi now).weaken fun t ht => ?_
  have hreg := congrFun (refreshAll_registered s now ((Memory.list s.store).filter fun sess => p sess.tunnelID)) t
  obtain ⟨sess, hs⟩ : ∃ sess, s.store.lookup t = some sess := by
    rw [registered, registered, Option.isSome_iff_ne_none.2 ht] at hreg
    exact Option.isSome_iff_exists.1 hreg.symm
  have hmem : decide (t ∈ ((Memory.list s.store).filter fun sess => p sess.tunnelID).map Session.tunnelID) = p t := by
    rw [Bool.eq_iff_iff, decide_eq_true_iff, List.mem_map]
    constructor
    · rintro ⟨x, hx, rfl⟩
      exact (List.mem_filter.1 hx).2
    · intro hp
      obtain ⟨hid, -⟩ := h t sess hs
      refine ⟨sess, List.mem_filter.2 ⟨(GoMap.mem_values_iff _ _ _).2 ⟨t, hs, rfl⟩, ?_⟩, hid⟩
      rw [hid]
      exact hp
  rw [hmem]

theorem Marked.getTunnel (h : Marked s.store seen) (hi : s.coord.Inv) (now : Time) (t : String) :
    Marked (s.getTunnel Memory.repo now t).1.store fun t' => seen t' || (decide (t' = t) && s.leased now t') := by
  unfold Server.getTunnel
  simp only [Memory.repo, Memory.get]
  cases hl : s.store.lookup t with
  | none =>
    refine h.weaken fun t' ht' => ?_
    have hne : t' ≠ t := fun he => ht' (he ▸ hl)
    simp [hne]
  | some sess =>
    have hr := h.refresh hi now sess
    rwa [(h t sess hl).1] at hr

theorem Marked.tunnelOp (h : Marked s.store seen) (hi : s.coord.Inv) (sessionTTL : Duration) (op : TunnelOp) :
    Marked (s.tunnelOp Memory.repo sessionTTL op).1.store fun t => seenBy s seen t op := by
  cases op with
  | registerTunnel now t a p l =>
    simp only [Server.tunnelOp, registerTunnel_store]
    exact h.register hi now t a p l
  | deregisterTunnel now t =>
    rw [tunnelOp_deregister]
    exact h.deregister t
  | getTunnel now t =>
    rw [(tunnelOp_reads Memory.repo s sessionTTL now t).1]
    exact h.getTunnel hi now t
  | listTunnels now =>
    have hr := h.reads hi now fun _ => true
    rw [List.filter_true] at hr
    exact hr.weaken fun t _ => by simp [seenBy]
  | heartbeat now t =>
    rw [tunnelOp_heartbeat]
    exact h.heartbeat now t
  | cleanupExpired now => exact h.cleanupExpired now sessionTTL

theorem Marked.step {ids : UUIDs} {sessionTTL : Duration} {n n' : Node Memory} {l : NodeLabel}
    (h : Marked n.server.store seen) (hb : n.Base ids) (hst : n.step Memory.repo sessionTTL ids l = some n') :
    Marked n'.server.store (leaseSeen n l n' seen) := by
  obtain ⟨hub, -, rfl⟩ := Node.step_eq_some _ _ _ hst
  have hi := hb.leases.inv
  cases l with
  | tunnel op => exact h.tunnelOp hi sessionTTL op
  | coord op =>
    change Marked (n.coordOp ids op).1.server.store seen
    rw [Node.coordOp_store]
    exact h
  | snapshot k now => exact h.reads hi now fun t => passes ((n.hub.watches[k]?).getD {}).tunnelFilter t
  | watch | publish | recv => exact h

theorem reportsOwner_memory_iff (h : Marked s.store seen) (hi : s.coord.Inv) (now : Time) (t : String) :
    s.ReportsOwner Memory.repo now t ↔
      s.leased now t = true ∨ (s.store.lookup t ≠ none → seen t = false) := by
  have hmem : ∀ sess, sess ∈ Memory.repo.list s.store ∧ sess.tunnelID = t ↔ s.store.lookup t = some sess := by
    intro sess
    change sess ∈ GoMap.values (fun _ _ => true) s.store ∧ _ ↔ _
    constructor
    · rintro ⟨hs, ht⟩
      obtain ⟨t', hl, -⟩ := (GoMap.mem_values_iff _ _ _).1 hs
      rw [← ht, (h t' sess hl).1]
      exact hl
    · exact fun hl => ⟨(GoMap.mem_values_iff _ _ _).2 ⟨t, hl, rfl⟩, (h t sess hl).1⟩
  rw [reportsOwner_iff hi]
  · cases hl : s.store.lookup t with
    | none =>
      refine ⟨fun _ => .inr fun hn => absurd rfl hn, fun _ sess hs ht => ?_⟩
      rw [(hmem sess).1 ⟨hs, ht⟩] at hl
      cases hl
    | some sess =>
      obtain ⟨ht, hr⟩ := h t sess hl
      have hnames := hr.names_iff s now ht
      constructor
      · intro hall
        exact (hnames.1 (hall sess ((hmem sess).2 hl).1 ht)).imp_right fun hs _ => hs
      · intro hcond sess' hs' ht'
        have heq := (hmem sess').1 ⟨hs', ht'⟩
        rw [hl] at heq
        cases heq
        exact hnames.2 (hcond.imp_right fun hs => hs (Option.some_ne_none _))
  · intro sess hg
    refine (hmem sess).2 ?_
    simp only [Memory.repo, Memory.get] at hg
    split at hg
    · cases hg
    · rename_i hl
      cases hg
      exact hl

end Memory

/-! ## The Postgres store -/

/-- For every row, whether its tunnel had a lease when it was inserted. Reads write nothing. -/
def insertedBy (s : Server Table) (seen : List Bool) : TunnelOp → List Bool
  | .registerTunnel now t _ _ _ => if t = "" then seen else seen ++ [s.leased now t]
  | .getTunnel .. | .listTunnels .. | .deregisterTunnel .. | .heartbeat .. | .cleanupExpired .. => seen

def rowSeen (n : Node Table) (l : NodeLabel) (_ : Node Table) (seen : List Bool) : List Bool :=
  match l with
  | .tunnel op => insertedBy n.server seen op
  | .snapshot .. | .coord .. | .watch .. | .publish .. | .recv .. => seen

def Rows (table : Table) (seen : List Bool) : Prop :=
  List.Forall₂ (fun row mark => Recorded mark row.session) table seen

section Table

variable {table : Table} {seen : List Bool} {s : Server Table} {now : Time} {t : String}

theorem Rows.update (h : Rows table seen) (p : TunnelSessionModel → Bool) {f : TunnelSessionModel → TunnelSessionModel}
    (howner : ∀ row, (f row).session.ownerRelayID = row.session.ownerRelayID)
    (hlease : ∀ row, (f row).session.leaseID = row.session.leaseID) : Rows (Table.update table p f).1 seen := by
  refine List.forall₂_map_left_iff.2 (h.imp fun row mark hr => ?_)
  split
  · exact hr.congr (howner row) (hlease row)
  · exact hr

theorem refresh_table (s : Server Table) (now : Time) (sess : Session) :
    (s.refresh Table.repo now sess).1.store = s.store := by
  unfold Server.refresh
  split <;> rfl

theorem refreshAll_table (sessions : List Session) (s : Server Table) (now : Time) :
    (s.refreshAll Table.repo now sessions).1.store = s.store := by
  induction sessions generalizing s with
  | nil => rfl
  | cons sess rest ih => exact (ih _).trans (refresh_table s now sess)

theorem Rows.tunnelOp (h : Rows s.store seen) (hi : s.coord.Inv) (sessionTTL : Duration) (op : TunnelOp) :
    Rows (s.tunnelOp Table.repo sessionTTL op).1.store (insertedBy s seen op) := by
  cases op with
  | registerTunnel now t a p l =>
    simp only [Server.tunnelOp, registerTunnel_store, Table.repo, Table.register, insertedBy]
    by_cases ht : t = ""
    · rw [if_pos ht, if_pos (show (s.newSession now t a p l).tunnelID = "" from ht)]
      exact h
    · rw [if_neg ht, if_neg (show ¬(s.newSession now t a p l).tunnelID = "" from ht)]
      have hnew := recorded_newSession hi now t a p l
      exact List.rel_append h (.cons (hnew.congr rfl rfl) .nil)
  | deregisterTunnel now t =>
    rw [tunnelOp_deregister]
    simp only [Table.repo, Table.deregister_store]
    exact h.update _ (fun _ => rfl) fun _ => rfl
  | getTunnel now t =>
    simp only [Server.tunnelOp]
    split
    · exact h
    · rw [refresh_table]
      exact h
  | listTunnels now =>
    simp only [Server.tunnelOp, refreshAll_table]
    exact h
  | heartbeat now t =>
    rw [tunnelOp_heartbeat]
    simp only [Table.repo, Table.heartbeat_store]
    exact h.update _ (fun _ => rfl) fun _ => rfl
  | cleanupExpired now => exact h.update _ (fun _ => rfl) fun _ => rfl

theorem Rows.step {ids : UUIDs} {sessionTTL : Duration} {n n' : Node Table} {l : NodeLabel}
    (h : Rows n.server.store seen) (hb : n.Base ids) (hst : n.step Table.repo sessionTTL ids l = some n') :
    Rows n'.server.store (rowSeen n l n' seen) := by
  obtain ⟨hub, -, rfl⟩ := Node.step_eq_some _ _ _ hst
  cases l with
  | tunnel op => exact h.tunnelOp hb.leases.inv sessionTTL op
  | coord op =>
    change Rows (n.coordOp ids op).1.server.store seen
    rw [Node.coordOp_store]
    exact h
  | snapshot k now =>
    change Rows (n.server.refreshAll Table.repo now _).1.store seen
    rw [refreshAll_table]
    exact h
  | watch | publish | recv => exact h

theorem Rows.mark (h : Rows table seen) {row : TunnelSessionModel} (hr : row ∈ table) :
    ∃ mark, (row, mark) ∈ table.zip seen := by
  induction h with
  | nil => cases hr
  | @cons row' mark table seen _ _ ih =>
    rcases List.mem_cons.1 hr with rfl | hr
    · exact ⟨mark, List.mem_cons_self⟩
    · obtain ⟨mark', hm⟩ := ih hr
      exact ⟨mark', List.mem_cons_of_mem _ hm⟩

theorem reportsOwner_table_iff (h : Rows s.store seen) (hi : s.coord.Inv) (now : Time) (t : String) :
    s.ReportsOwner Table.repo now t ↔
      s.leased now t = true ∨ ∀ e ∈ s.store.zip seen, Table.activeOf t e.1 = true → e.2 = false := by
  have hmem : ∀ row ∈ s.store, Table.activeOf t row = true →
      Table.toSession row ∈ Table.repo.list s.store ∧ (Table.toSession row).tunnelID = t := by
    intro row hr ha
    obtain ⟨ht, hs⟩ := Table.status_of_activeOf ha
    exact ⟨List.mem_map_of_mem (List.mem_filter.2 ⟨hr, decide_eq_true hs⟩), ht⟩
  have hnames : ∀ e ∈ s.store.zip seen, (Table.toSession e.1).tunnelID = t →
      (Names (s.coord.currentLease now t).2 (sessionToProto (shown s.coord now (Table.toSession e.1))) ↔
        s.leased now t = true ∨ e.2 = false) := by
    intro e he ht
    have hr : Recorded e.2 (Table.toSession e.1) := (List.forall₂_zip h he).congr rfl rfl
    exact hr.names_iff s now ht
  rw [reportsOwner_iff hi]
  · constructor
    · intro hall
      refine or_iff_not_imp_left.2 fun hfree e he ha => ?_
      obtain ⟨hl, ht⟩ := hmem e.1 (List.of_mem_zip he).1 ha
      exact ((hnames e he ht).1 (hall _ hl ht)).resolve_left hfree
    · intro hcond sess hs ht
      obtain ⟨row, hr, rfl⟩ := List.mem_map.1 hs
      obtain ⟨hr, hact⟩ := List.mem_filter.1 hr
      obtain ⟨mark, he⟩ := h.mark hr
      have ha : Table.activeOf t row = true := by
        unfold Table.activeOf
        rw [hact, Bool.and_true]
        exact decide_eq_true ht
      exact (hnames _ he ht).2 (hcond.imp_right fun hc => hc _ he ha)
  · intro sess hg
    simp only [Table.repo, Table.get] at hg
    split at hg
    · rename_i row hf
      cases hg
      exact hmem row (List.mem_of_find?_eq_some hf) (List.find?_some hf)
    · cases hg

end Table

/-! ## Every run -/

section Run

variable {ids : UUIDs} {sessionTTL : Duration}

theorem run_marked {ls : List NodeLabel} {s : Node Memory × (String → Bool)}
    (hrun : Run (tracked (Node.step Memory.repo sessionTTL ids) leaseSeen) (fun _ _ => True)
      (.new ∅, fun _ => false) ls s) : s.1.Base ids ∧ Marked s.1.server.store s.2 := by
  refine hrun.inv (fun s => s.1.Base ids ∧ Marked s.1.server.store s.2) ?_ ?_
  · exact ⟨Node.base_new ids ∅, fun t sess hs => by cases hs⟩
  · rintro ⟨n, seen⟩ l ⟨n', seen'⟩ ⟨hb, hm⟩ - hst
    obtain ⟨hst, hseen⟩ := tracked_some hst
    exact ⟨hb.step hst, hseen ▸ hm.step hb hst⟩

theorem run_rows {ls : List NodeLabel} {s : Node Table × List Bool}
    (hrun : Run (tracked (Node.step Table.repo sessionTTL ids) rowSeen) (fun _ _ => True) (.new [], []) ls s) :
    s.1.Base ids ∧ Rows s.1.server.store s.2 := by
  refine hrun.inv (fun s => s.1.Base ids ∧ Rows s.1.server.store s.2) ?_ ?_
  · exact ⟨Node.base_new ids [], .nil⟩
  · rintro ⟨n, seen⟩ l ⟨n', seen'⟩ ⟨hb, hr⟩ - hst
    obtain ⟨hst, hseen⟩ := tracked_some hst
    exact ⟨hb.step hst, hseen ▸ hr.step hb hst⟩

end Run

/-- In every state that a process over either store reaches, `GetTunnel` and `ListTunnels`
report the current owner of a tunnel exactly if it has an unexpired lease, or no active
session of it has seen one: at its registration or, in the memory store, at a read since. -/
theorem owner_reported_iff (ids : UUIDs) (sessionTTL : Duration) (now : Time) (t : String) :
    (∀ ls n seen, Run (tracked (Node.step Memory.repo sessionTTL ids) leaseSeen) (fun _ _ => True)
        (.new ∅, fun _ => false) ls (n, seen) →
      (n.server.ReportsOwner Memory.repo now t ↔
        n.server.leased now t = true ∨ (n.server.store.lookup t ≠ none → seen t = false))) ∧
    ∀ ls n seen, Run (tracked (Node.step Table.repo sessionTTL ids) rowSeen) (fun _ _ => True)
        (.new [], []) ls (n, seen) →
      (n.server.ReportsOwner Table.repo now t ↔
        n.server.leased now t = true ∨
          ∀ e ∈ n.server.store.zip seen, Table.activeOf t e.1 = true → e.2 = false) := by
  constructor
  · intro ls n seen hrun
    obtain ⟨hb, hm⟩ := run_marked hrun
    exact reportsOwner_memory_iff hm hb.leases.inv now t
  · intro ls n seen hrun
    obtain ⟨hb, hr⟩ := run_rows hrun
    exact reportsOwner_table_iff hr hb.leases.inv now t

/-- A lease comes after the registration and goes again, and nobody reads in between. -/
def leasedUnread : List NodeLabel :=
  [.tunnel (.registerTunnel 0 "t1" "a1" "" ""), .coord (.acquireLease 1 ⟨"t1", "r1", second⟩),
    .coord (.releaseLease "u")]

theorem owner_reported_unread :
    (∃ s, Run (tracked (Node.step Memory.repo second UUIDs.sample) leaseSeen) (fun _ _ => True)
        (.new ∅, fun _ => false) leasedUnread s ∧
      s.1.server.leased 2 "t1" = false ∧ (s.1.server.store.lookup "t1").isSome = true ∧
      s.1.server.ReportsOwner Memory.repo 2 "t1") ∧
    ∃ s, Run (tracked (Node.step Table.repo second UUIDs.sample) rowSeen) (fun _ _ => True) (.new [], [])
        leasedUnread s ∧
      s.1.server.leased 2 "t1" = false ∧ s.1.server.store.any (Table.activeOf "t1") = true ∧
      s.1.server.ReportsOwner Table.repo 2 "t1" := by
  have hmem : ∃ s, Run (tracked (Node.step Memory.repo second UUIDs.sample) leaseSeen) (fun _ _ => True)
      (.new ∅, fun _ => false) leasedUnread s ∧
      s.1.server.leased 2 "t1" = false ∧ (s.1.server.store.lookup "t1").isSome = true ∧ s.2 "t1" = false :=
    run_any (by decide +kernel)
  have htable : ∃ s, Run (tracked (Node.step Table.repo second UUIDs.sample) rowSeen) (fun _ _ => True)
      (.new [], []) leasedUnread s ∧
      s.1.server.leased 2 "t1" = false ∧ s.1.server.store.any (Table.activeOf "t1") = true ∧
      ∀ e ∈ s.1.server.store.zip s.2, Table.activeOf "t1" e.1 = true → e.2 = false := run_any (by decide +kernel)
  obtain ⟨m, hm, hfree, hin, hunseen⟩ := hmem
  obtain ⟨r, hr, hfree', hin', hunseen'⟩ := htable
  have hiff := owner_reported_iff UUIDs.sample second 2 "t1"
  exact ⟨⟨m, hm, hfree, hin, (hiff.1 _ _ _ hm).2 (.inr fun _ => hunseen)⟩,
    r, hr, hfree', hin', (hiff.2 _ _ _ hr).2 (.inr hunseen')⟩

/-- A tunnel is registered by the relay that owns it, which then gives up the lease. -/
def givesUp : List NodeLabel :=
  [.coord (.acquireLease 0 ⟨"t1", "r1", second⟩), .tunnel (.registerTunnel 1 "t1" "a1" "" ""),
    .coord (.releaseLease "u")]

/-- Nobody has a lease, and both stores still report the relay. -/
theorem released_owner_reported :
    (∃ n, Run (Node.step Memory.repo second UUIDs.sample) (fun _ _ => True) (.new ∅) givesUp n ∧
      (n.server.coord.currentLease 2 "t1").2 = none ∧ ¬n.server.ReportsOwner Memory.repo 2 "t1" ∧
      (n.server.listTunnels Memory.repo 2).2.map (·.ownerRelayId) = ["r1"]) ∧
    ∃ n, Run (Node.step Table.repo second UUIDs.sample) (fun _ _ => True) (.new []) givesUp n ∧
      (n.server.coord.currentLease 2 "t1").2 = none ∧ ¬n.server.ReportsOwner Table.repo 2 "t1" ∧
      (n.server.listTunnels Table.repo 2).2.map (·.ownerRelayId) = ["r1"] := by
  constructor
  · exact run_any (show (exec (Node.step Memory.repo second UUIDs.sample) (.new ∅) givesUp).any _ = true by
      decide +kernel)
  · exact run_any (show (exec (Node.step Table.repo second UUIDs.sample) (.new []) givesUp).any _ = true by
      decide +kernel)

end TunnelEdge.Registry
