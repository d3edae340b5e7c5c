import TunnelEdge.Lib.Runs
import TunnelEdge.Registry.MemCoordinator
/-!
# Who holds a lease of the in-memory coordinator

Runs of lease calls against one `MemCoordinator`. Each call carries the `now`
its caller read before the lock was taken, so the times of a run need not be
monotone. The history keeps every call with its reply, oldest first.

`Tracked` is the invariant behind exclusivity: a lease that was granted and
never released is either still in the table, with the expiry last returned for
it, or it is gone and some call of the run carried a later `now`.
-/

namespace TunnelEdge.Registry

open GoLib MemCoordinator

/-- A lease call, with the clock reading and the id `uuid.NewString` would give. -/
inductive Call
  | acquire (now : Time) (fresh : String) (req : LeaseRequest)
  | renew (now : Time) (leaseID : String) (ttl : Duration)
  | release (leaseID : String)
  | current (now : Time) (tunnelID : String)
  | releaseExpired (now : Time)

inductive Reply
  | lease (l : Lease)
  | nothing
  | expired (ls : List Lease)
  | error (s : Status)

def Reply.ofExcept : Except Status Lease → Reply
  | .ok l => .lease l
  | .error s => .error s

def Call.now : Call → Option Time
  | .acquire now _ _ | .renew now _ _ | .current now _ | .releaseExpired now => some now
  | .release _ => none

def MemCoordinator.call (m : MemCoordinator) : Call → MemCoordinator × Reply
  | .acquire now fresh req => let r := m.acquireLease now fresh req; (r.1, .ofExcept r.2)
  | .renew now id ttl => let r := m.renewLease now id ttl; (r.1, .ofExcept r.2)
  | .release id => let r := m.releaseLease id; (r.1, .ofExcept r.2)
  | .current now t => let r := m.currentLease now t; (r.1, r.2.elim .nothing .lease)
  | .releaseExpired now => let r := m.releaseExpiredLeases now; (r.1, .expired r.2)

abbrev History := List (Call × Reply)

def callStep (s : MemCoordinator × History) (c : Call) : Option (MemCoordinator × History) :=
  some ((s.1.call c).1, s.2 ++ [(c, (s.1.call c).2)])

/-! ## Reading a history -/

/-- Some call of the history drew the id `id`. -/
def Used (h : History) (id : String) : Prop := ∃ now req r, (Call.acquire now id req, r) ∈ h

/-- `uuid.NewString` gives non-empty ids, no id twice. -/
def FreshIDs (s : MemCoordinator × History) : Call → Prop
  | .acquire _ fresh _ => fresh ≠ "" ∧ ¬ Used s.2 fresh
  | _ => True

def Granted (h : History) (l : Lease) : Prop := ∃ now fresh req, (Call.acquire now fresh req, Reply.lease l) ∈ h

def Released (h : History) (id : String) : Prop := ∃ l, (Call.release id, Reply.lease l) ∈ h

/-- The expiry a grant or a renewal of lease `id` returned. -/
def expiryOf (id : String) : Call × Reply → Option Time
  | (.acquire _ _ _, .lease l) | (.renew _ _ _, .lease l) => if l.leaseID = id then some l.expiresAt else none
  | _ => none

def lastExpiry (id : String) (h : History) : Option Time := (h.filterMap (expiryOf id)).getLast?

def Passed (h : History) (e : Time) : Prop := ∃ c ∈ h, ∃ now, c.1.now = some now ∧ e < now

theorem lastExpiry_snoc (id : String) (h : History) (e : Call × Reply) :
    lastExpiry id (h ++ [e]) = (expiryOf id e).or (lastExpiry id h) := by
  simp only [lastExpiry, List.filterMap_append]
  cases he : expiryOf id e <;> simp [he]

theorem Used.snoc {h : History} {id : String} (hu : Used h id) (e : Call × Reply) : Used (h ++ [e]) id := by
  obtain ⟨now, req, r, hm⟩ := hu
  exact ⟨now, req, r, List.mem_append_left _ hm⟩

theorem Passed.snoc {h : History} {t : Time} (hp : Passed h t) (e : Call × Reply) : Passed (h ++ [e]) t := by
  obtain ⟨c, hc, hn⟩ := hp
  exact ⟨c, List.mem_append_left _ hc, hn⟩

theorem Released.snoc {h : History} {id : String} (hr : Released h id) (e : Call × Reply) : Released (h ++ [e]) id := by
  obtain ⟨l, hm⟩ := hr
  exact ⟨l, List.mem_append_left _ hm⟩

theorem granted_snoc {h : History} {e : Call × Reply} {l : Lease} (hg : Granted (h ++ [e]) l) :
    Granted h l ∨ ∃ now fresh req, e = (.acquire now fresh req, .lease l) := by
  obtain ⟨now, fresh, req, hm⟩ := hg
  rcases List.mem_append.1 hm with hm | hm
  · exact .inl ⟨now, fresh, req, hm⟩
  · exact .inr ⟨now, fresh, req, (List.mem_singleton.1 hm).symm⟩

/-! ## The invariant of a run -/

/-- Where the lease granted as `l` stands: in the table with the expiry last
returned, or deleted at a call past that expiry. -/
def Tracked (m : MemCoordinator) (h : History) (l : Lease) : Prop :=
  (∃ l', m.leasesByID.lookup l.leaseID = some l' ∧ l'.tunnelID = l.tunnelID ∧ l'.relayID = l.relayID ∧
    lastExpiry l.leaseID h = some l'.expiresAt) ∨
  (m.leasesByID.lookup l.leaseID = none ∧ ∃ e, lastExpiry l.leaseID h = some e ∧ Passed h e)

structure RunInv (s : MemCoordinator × History) : Prop where
  maps : s.1.Inv
  used : ∀ id l, s.1.leasesByID.lookup id = some l → Used s.2 id
  grantedUsed : ∀ l, Granted s.2 l → Used s.2 l.leaseID
  tracked : ∀ l, Granted s.2 l → ¬ Released s.2 l.leaseID → Tracked s.1 s.2 l

theorem Tracked.keep {m m' : MemCoordinator} {h : History} {l : Lease} {e : Call × Reply} (ht : Tracked m h l)
    (he : expiryOf l.leaseID e = none)
    (hm : m'.leasesByID.lookup l.leaseID = m.leasesByID.lookup l.leaseID ∨
      (m'.leasesByID.lookup l.leaseID = none ∧
        ∃ l', m.leasesByID.lookup l.leaseID = some l' ∧ ∃ now, e.1.now = some now ∧ l'.expiresAt < now)) :
    Tracked m' (h ++ [e]) l := by
  have hlast : lastExpiry l.leaseID (h ++ [e]) = lastExpiry l.leaseID h := by
    rw [lastExpiry_snoc, he, Option.none_or]
  rcases ht with ⟨l', hl', ht', hr', hx⟩ | ⟨hn, t, hx, hp⟩
  · rcases hm with hm | ⟨hm, l'', hl'', now, hnow, hlt⟩
    · exact .inl ⟨l', hm.trans hl', ht', hr', hlast.trans hx⟩
    · rw [hl'] at hl''
      cases hl''
      exact .inr ⟨hm, l'.expiresAt, hlast.trans hx, e, by simp, now, hnow, hlt⟩
  · refine .inr ⟨?_, t, hlast.trans hx, hp.snoc e⟩
    rcases hm with hm | ⟨hm, -⟩
    · exact hm.trans hn
    · exact hm

theorem Tracked.update {m m' : MemCoordinator} {h : History} {l l₀ l₁ : Lease} {e : Call × Reply}
    (ht : Tracked m h l) (h₀ : m.leasesByID.lookup l.leaseID = some l₀)
    (h₁ : m'.leasesByID.lookup l.leaseID = some l₁) (htun : l₁.tunnelID = l₀.tunnelID)
    (hrel : l₁.relayID = l₀.relayID) (he : expiryOf l.leaseID e = some l₁.expiresAt) :
    Tracked m' (h ++ [e]) l := by
  rcases ht with ⟨l', hl', ht', hr', -⟩ | ⟨hn, -⟩
  · rw [h₀] at hl'
    cases hl'
    exact .inl ⟨l₁, h₁, htun.trans ht', hrel.trans hr', by rw [lastExpiry_snoc, he, Option.some_or]⟩
  · rw [h₀] at hn
    cases hn

theorem RunInv.quiet {m m' : MemCoordinator} {h : History} {e : Call × Reply} (hi : RunInv (m, h)) (hmap : m'.Inv)
    (hq : ∀ id, expiryOf id e = none)
    (hm : ∀ id, m'.leasesByID.lookup id = m.leasesByID.lookup id ∨
      (m'.leasesByID.lookup id = none ∧
        ∃ l', m.leasesByID.lookup id = some l' ∧ ∃ now, e.1.now = some now ∧ l'.expiresAt < now)) :
    RunInv (m', h ++ [e]) := by
  have old : ∀ l, Granted (h ++ [e]) l → Granted h l := by
    intro l hg
    rcases granted_snoc hg with hg | ⟨now, fresh, req, rfl⟩
    · exact hg
    · have := hq l.leaseID
      simp [expiryOf] at this
  refine ⟨hmap, fun id l hl => ?_, fun l hg => (hi.grantedUsed l (old l hg)).snoc e, fun l hg hr => ?_⟩
  · rcases hm id with hm | ⟨hm, -⟩
    · exact (hi.used id l (hm ▸ hl)).snoc e
    · rw [hm] at hl
      cases hl
  · exact (hi.tracked l (old l hg) (fun hr' => hr (hr'.snoc e))).keep (hq _) (hm _)

/-- A call that overwrites lease `id` by `l₁` and returns it: a renewal or a re-acquisition. -/
theorem RunInv.overwrite {m m' : MemCoordinator} {h : History} {c : Call} {l₀ l₁ : Lease} (hi : RunInv (m, h))
    (hmap : m'.Inv) (h₀ : m.leasesByID.lookup l₁.leaseID = some l₀) (htun : l₁.tunnelID = l₀.tunnelID)
    (hrel : l₁.relayID = l₀.relayID)
    (hm : ∀ id, m'.leasesByID.lookup id = if id = l₁.leaseID then some l₁ else m.leasesByID.lookup id)
    (hc : ∀ id, expiryOf id (c, .lease l₁) = if l₁.leaseID = id then some l₁.expiresAt else none) :
    RunInv (m', h ++ [(c, .lease l₁)]) := by
  have hused := hi.used _ _ h₀
  refine ⟨hmap, fun id l hl => ?_, fun l hg => ?_, fun l hg hr => ?_⟩
  · rw [hm] at hl
    split at hl
    · subst_vars; exact hused.snoc _
    · exact (hi.used id l hl).snoc _
  · rcases granted_snoc hg with hg | ⟨now, fresh, req, he⟩
    · exact (hi.grantedUsed l hg).snoc _
    · cases he; exact hused.snoc _
  · rcases granted_snoc hg with hg | ⟨now, fresh, req, he⟩
    · have ht := hi.tracked l hg (fun hr' => hr (hr'.snoc _))
      by_cases hid : l.leaseID = l₁.leaseID
      · exact ht.update (hid ▸ h₀) (by rw [hm, if_pos hid]) htun hrel (by rw [hc, if_pos hid.symm])
      · exact ht.keep (by rw [hc, if_neg (Ne.symm hid)]) (.inl (by rw [hm, if_neg hid]))
    · cases he
      refine .inl ⟨l₁, by rw [hm, if_pos rfl], rfl, rfl, ?_⟩
      rw [lastExpiry_snoc, hc, if_pos rfl, Option.some_or]

theorem RunInv.grant {m m' : MemCoordinator} {h : History} {now : Time} {fresh : String} {req : LeaseRequest}
    (hi : RunInv (m, h)) (hne : fresh ≠ "") (hf : ¬ Used h fresh)
    (hm : (m' = m ∧ ∀ l, ¬ Holds m req.tunnelID l) ∨
      ∃ l, Holds m req.tunnelID l ∧ l.expiresAt < now ∧ m' = m.drop l.leaseID l) :
    RunInv (m'.putLease now (granted now fresh req),
      h ++ [(.acquire now fresh req, .lease (granted now fresh req))]) := by
  obtain ⟨hi', hnone, hsub⟩ := grant_purged hi.maps hm
  have hfree : m'.leasesByID.lookup fresh = none := by
    rcases hsub fresh with hs | ⟨hs, -⟩
    · cases hl : m.leasesByID.lookup fresh with
      | none => rw [hs, hl]
      | some l => exact absurd (hi.used fresh l hl) hf
    · exact hs
  have hcur : Used (h ++ [(.acquire now fresh req, .lease (granted now fresh req))]) fresh :=
    ⟨now, req, .lease (granted now fresh req), by simp⟩
  refine ⟨inv_granted hi' hnone hne hfree now, fun id l hl => ?_, fun l hg => ?_, fun l hg hr => ?_⟩
  · rw [putLease_leases] at hl
    split at hl
    · subst_vars; exact hcur
    · rcases hsub id with hs | ⟨hs, -⟩
      · exact (hi.used id l (hs ▸ hl)).snoc _
      · rw [hs] at hl
        cases hl
  · rcases granted_snoc hg with hg | ⟨now, fresh, req, he⟩
    · exact (hi.grantedUsed l hg).snoc _
    · cases he; exact hcur
  · rcases granted_snoc hg with hg | ⟨now', fresh', req', he⟩
    · have hid : l.leaseID ≠ fresh := fun hid => hf (hid ▸ hi.grantedUsed l hg)
      refine (hi.tracked l hg (fun hr' => hr (hr'.snoc _))).keep (by simp [expiryOf, granted, Ne.symm hid]) ?_
      have hput : (m'.putLease now (granted now fresh req)).leasesByID.lookup l.leaseID =
          m'.leasesByID.lookup l.leaseID := by
        rw [putLease_leases]
        exact if_neg hid
      rw [hput]
      rcases hsub l.leaseID with hs | ⟨hs, l', hl', he⟩
      · exact .inl hs
      · exact .inr ⟨hs, l', hl', now, rfl, he.1⟩
    · cases he
      exact .inl ⟨granted now fresh req, by simp, rfl, rfl, by simp [lastExpiry_snoc, expiryOf]⟩

theorem RunInv.step {s s' : MemCoordinator × History} {c : Call} (hi : RunInv s) (hf : FreshIDs s c)
    (hs : callStep s c = some s') : RunInv s' := by
  obtain ⟨m, h⟩ := s
  obtain rfl := Option.some.inj hs
  have hmi : m.Inv := hi.maps
  cases c with
  | acquire now fresh req =>
    have hc := acquireLease_cases hmi now fresh req
    simp only [call]
    generalize m.acquireLease now fresh req = r at hc
    cases hc with
    | invalid _ | conflict _ _ _ _ _ => exact hi.quiet hmi (fun _ => rfl) (fun _ => .inl rfl)
    | extend l _ hl _ hr =>
      exact hi.overwrite (inv_extended hmi hl now req) hl.1 rfl hr.symm (fun id => by rw [putLease_leases])
        (fun _ => rfl)
    | grant m' _ hm => exact hi.grant hf.1 hf.2 hm
  | renew now id ttl =>
    simp only [call]
    rcases renewLease_cases hmi now id ttl with ⟨st, hr, -⟩ | ⟨l, hl, -, hr⟩
    · rw [hr]
      exact hi.quiet hmi (fun _ => rfl) (fun _ => .inl rfl)
    · rw [hr]
      obtain rfl := (hmi.ids id l hl).1
      exact hi.overwrite (inv_update hmi hl rfl rfl) hl rfl rfl (fun id' => by simp) (fun _ => rfl)
  | release id =>
    simp only [call]
    rcases releaseLease_cases hmi id with ⟨st, hr, -⟩ | ⟨l, hl, hr⟩
    · rw [hr]
      exact hi.quiet hmi (fun _ => rfl) (fun _ => .inl rfl)
    · rw [hr]
      -- the released lease leaves the invariant: `Released` holds of it from here on
      refine ⟨inv_drop hmi hl, fun id' l' hl' => ?_, fun l' hg => ?_, fun l' hg hrel => ?_⟩
      · rw [drop_leases] at hl'
        split at hl'
        · cases hl'
        · exact (hi.used id' l' hl').snoc _
      · rcases granted_snoc hg with hg | ⟨now, fresh, req, he⟩
        · exact (hi.grantedUsed l' hg).snoc _
        · cases he
      · rcases granted_snoc hg with hg | ⟨now, fresh, req, he⟩
        · have hid : l'.leaseID ≠ id := fun hid => hrel ⟨l, by simp [Reply.ofExcept, hid]⟩
          exact (hi.tracked l' hg (fun hr' => hrel (hr'.snoc _))).keep rfl (.inl (by simp [hid]))
        · cases he
  | current now t =>
    simp only [call, currentLease]
    rcases currentLeaseLocked_cases hmi t now with ⟨l, -, -, hc⟩ | ⟨l, hl, he, hc⟩ | ⟨-, hc⟩
    · rw [hc]
      exact hi.quiet hmi (fun _ => rfl) (fun _ => .inl rfl)
    · rw [hc]
      refine hi.quiet (inv_drop hmi hl.1) (fun _ => rfl) (fun id => ?_)
      by_cases hid : id = l.leaseID
      · exact .inr ⟨by simp [hid], l, hid ▸ hl.1, now, rfl, he⟩
      · exact .inl (by simp [hid])
    · rw [hc]
      exact hi.quiet hmi (fun _ => rfl) (fun _ => .inl rfl)
  | releaseExpired now =>
    obtain ⟨hinv, hlook⟩ := releaseExpiredLeases_spec hmi now
    refine hi.quiet hinv (fun _ => rfl) (fun id => ?_)
    simp only [call, hlook]
    cases hl : m.leasesByID.lookup id with
    | none => exact .inl rfl
    | some l =>
      by_cases he : l.expiresAt < now
      · exact .inr ⟨by simp [Option.filter_some, he], l, rfl, now, rfl, he⟩
      · exact .inl (by simp [Option.filter_some, Int.not_lt.1 he])

theorem runInv_new : RunInv (new, []) :=
  ⟨inv_new, by simp [new], by simp [Granted], by simp [Granted]⟩

theorem run_inv {calls : List Call} {s : MemCoordinator × History} (hr : Run callStep FreshIDs (new, []) calls s) :
    RunInv s :=
  hr.inv RunInv runInv_new fun _ _ _ hi hf hs => hi.step hf hs

theorem call_error {m m' : MemCoordinator} (hi : m.Inv) {c : Call} {st : Status} (h : m.call c = (m', .error st)) :
    m' = m := by
  cases c with
  | acquire now fresh req =>
    have hc := acquireLease_cases hi now fresh req
    simp only [call] at h
    generalize m.acquireLease now fresh req = r at hc h
    cases hc with
    | invalid _ | conflict _ _ _ _ _ => exact (congrArg Prod.fst h).symm
    | extend _ _ _ _ _ | grant _ _ _ => simp [Reply.ofExcept] at h
  | renew now id ttl =>
    simp only [call] at h
    rcases renewLease_cases hi now id ttl with ⟨st', hr, -⟩ | ⟨l, -, -, hr⟩ <;> rw [hr] at h
    · exact (congrArg Prod.fst h).symm
    · simp [Reply.ofExcept] at h
  | release id =>
    simp only [call] at h
    rcases releaseLease_cases hi id with ⟨st', hr, -⟩ | ⟨l, -, hr⟩ <;> rw [hr] at h
    · exact (congrArg Prod.fst h).symm
    · simp [Reply.ofExcept] at h
  | current now t =>
    have h2 := congrArg Prod.snd h
    simp only [call] at h2
    cases hl : (m.currentLease now t).2 <;> simp [hl] at h2
  | releaseExpired now => simp [call] at h

/-! ## Exclusivity -/

/-- After every run of lease calls with fresh ids, whatever the clock readings
and TTLs: the two maps are inverse and a tunnel has at most one lease; another
relay acquires a tunnel whose lease was never released only when that call, or
one before it, carried a `now` past the expiry last returned for the lease;
and a call that answers an error changes nothing. -/
theorem lease_exclusivity {calls : List Call} {m : MemCoordinator} {h : History}
    (hr : Run callStep FreshIDs (new, []) calls (m, h)) :
    (∀ t id, m.leaseByTunnel.lookup t = some id ↔ ∃ l, m.leasesByID.lookup id = some l ∧ l.tunnelID = t) ∧
    (∀ id id' l l', m.leasesByID.lookup id = some l → m.leasesByID.lookup id' = some l' →
      l.tunnelID = l'.tunnelID → id = id') ∧
    (∀ now fresh req m' l', m.acquireLease now fresh req = (m', .ok l') →
      ∀ l, Granted h l → l.tunnelID = req.tunnelID → l.relayID ≠ req.relayID → ¬ Released h l.leaseID →
        ∃ e, lastExpiry l.leaseID h = some e ∧ (e < now ∨ Passed h e)) ∧
    (∀ c m' st, m.call c = (m', .error st) → m' = m) := by
  have hi := run_inv hr
  have hmi : m.Inv := hi.maps
  refine ⟨hmi.inverse, fun id id' l l' hl hl' ht => ?_, fun now fresh req m' l' hacq l hg ht hne hrel => ?_,
    fun c m' st he => call_error hmi he⟩
  · have hh := hi.maps.holds hl
    rw [ht] at hh
    have e := hmi.unique hh (hmi.holds hl')
    rw [← (hmi.ids id l hl).1, ← (hmi.ids id' l' hl').1, e]
  · rcases hi.tracked l hg hrel with ⟨l₀, hl₀, ht₀, hr₀, hx⟩ | ⟨-, e, hx, hp⟩
    · -- the lease is still in the table, so the acquisition met it and must have found it expired
      have hid := (hmi.ids _ _ hl₀).1
      have hh : Holds m req.tunnelID l₀ := ⟨by rw [hid]; exact hl₀, ht₀.trans ht⟩
      refine ⟨l₀.expiresAt, hx, .inl ?_⟩
      have hc := acquireLease_cases hmi now fresh req
      rw [hacq] at hc
      cases hc with
      | extend l₁ _ hl₁ _ hr₁ =>
        rw [hmi.unique hl₁ hh] at hr₁
        exact absurd (hr₀.symm.trans hr₁) hne
      | grant m₁ _ hm =>
        rcases hm with ⟨-, hn⟩ | ⟨l₁, hl₁, he, -⟩
        · exact absurd hh (hn l₀)
        · rwa [hmi.unique hl₁ hh] at he
    · exact ⟨e, hx, .inr hp⟩

/-- Relay `B` holds `t-a` until 8 after a renewal; relay `C` gets it at 9. -/
theorem lease_exclusivity_takeover :
    ∃ m h, Run callStep FreshIDs (new, []) [.acquire 0 "l1" ⟨"t-a", "B", 5⟩, .renew 3 "l1" 5] (m, h) ∧
      (m.acquireLease 9 "l2" ⟨"t-a", "C", 5⟩).2 = .ok ⟨"l2", "t-a", "C", 14, 1⟩ ∧
      ∃ e, lastExpiry "l1" h = some e ∧ (e < 9 ∨ Passed h e) := by
  have h₁ : Run callStep FreshIDs (new, []) [.acquire 0 "l1" ⟨"t-a", "B", 5⟩] _ :=
    .snoc .nil ⟨by decide, by simp [Used]⟩ rfl
  have hr : Run callStep FreshIDs (new, []) [.acquire 0 "l1" ⟨"t-a", "B", 5⟩, .renew 3 "l1" 5] _ :=
    .snoc h₁ trivial rfl
  refine ⟨_, _, hr, by decide, ?_⟩
  refine (lease_exclusivity hr).2.2.1 9 "l2" ⟨"t-a", "C", 5⟩ _ _ rfl ⟨"l1", "t-a", "B", 5, 1⟩ ?_ rfl (by decide) ?_
  · exact ⟨0, "l1", ⟨"t-a", "B", 5⟩, List.mem_cons_self⟩
  · rintro ⟨l, hm⟩
    simp at hm

end TunnelEdge.Registry
