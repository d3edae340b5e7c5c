import TunnelEdge.Store.Tokens
/-!
# Which tunnels have a session

A session is open while `Get` or `GetResumable` can hand it out. `Deregister`
removes the open sessions of its tunnel, with two exceptions, which have to be
kept in view where a teardown is to be complete: a row of the table that is
waiting for a resume, and a session that is filed under another tunnel id.
Neither comes about for a tunnel without resume tokens.
-/

namespace TunnelEdge.Store

open GoLib

/-- What the operations of a store can do to the sessions of a tunnel: `present` are those it can hand out, and
`lasting` those of them that a resume can bring back or that `Deregister` leaves behind. -/
structure SessionRepository.Presence {σ : Type} (repo : SessionRepository σ) (present lasting : σ → String → Prop) :
    Prop where
  get : ∀ s t sess, repo.get s t = .ok sess → present s t
  getResumable : ∀ s now token sess, repo.getResumable s now token = .ok sess → lasting s sess.tunnelID
  lasts : ∀ s t, lasting s t → present s t
  register : ∀ s now sess t, sess.resumeToken = "" →
    (present (repo.register s now sess).1 t → present s t ∨ t = sess.tunnelID) ∧
      (lasting (repo.register s now sess).1 t → lasting s t)
  deregister : ∀ s now t' t, (present (repo.deregister s now t').1 t → present s t ∧ (t = t' → lasting s t)) ∧
    (lasting (repo.deregister s now t').1 t → lasting s t)
  heartbeat : ∀ s now t' t, (present (repo.heartbeat s now t').1 t → present s t) ∧
    (lasting (repo.heartbeat s now t').1 t → lasting s t)
  cleanupExpired : ∀ s now ttl t, (present (repo.cleanupExpired s now ttl).1 t → present s t) ∧
    (lasting (repo.cleanupExpired s now ttl).1 t → lasting s t)
  setResumable : ∀ s now t' token deadline t, t ≠ t' →
    (present (repo.setResumable s now t' token deadline).1 t → present s t) ∧
      (lasting (repo.setResumable s now t' token deadline).1 t → lasting s t)

namespace Memory

/-- A session under the id of the tunnel, or one that names the tunnel. -/
def present (s : Memory) (t : String) : Prop := ∃ key sess, s.lookup key = some sess ∧ (key = t ∨ sess.tunnelID = t)

/-- A session that names the tunnel, with a token or under another id. -/
def lasting (s : Memory) (t : String) : Prop :=
  ∃ key sess, s.lookup key = some sess ∧ sess.tunnelID = t ∧ (key ≠ t ∨ sess.resumeToken ≠ "")

variable {s : Memory} {t t' : String}

theorem present_replace {sess new : Session} (hl : s.lookup t' = some sess) (hid : new.tunnelID = sess.tunnelID)
    (h : present (s.insert t' new) t) : present s t := by
  obtain ⟨key, x, hx, ht⟩ := h
  rw [GoMap.lookup_insert_ite] at hx
  split at hx
  · cases hx
    subst_vars
    exact ⟨_, sess, hl, ht.imp_right fun h => hid ▸ h⟩
  · exact ⟨key, x, hx, ht⟩

theorem lasting_replace {sess new : Session} (hl : s.lookup t' = some sess) (hid : new.tunnelID = sess.tunnelID)
    (htoken : t = t' → new.resumeToken = sess.resumeToken) (h : lasting (s.insert t' new) t) : lasting s t := by
  obtain ⟨key, x, hx, ht, hlast⟩ := h
  rw [GoMap.lookup_insert_ite] at hx
  split at hx
  · rename_i hkey
    cases hx
    subst hkey
    refine ⟨key, sess, hl, hid ▸ ht, ?_⟩
    by_cases hk : t = key
    · exact hlast.imp_right fun h => htoken hk ▸ h
    · exact .inl (Ne.symm hk)
  · exact ⟨key, x, hx, ht, hlast⟩

theorem presence : repo.Presence present lasting where
  get s t sess h := by
    simp only [repo, get] at h
    split at h
    · cases h
    · rename_i sess' hl
      exact ⟨t, sess', hl, .inl rfl⟩
  getResumable s now token sess h := by
    simp only [repo, getResumable] at h
    split at h
    · cases h
    · rename_i hne
      split at h
      · rename_i sess' rest hv
        cases h
        have hm : sess ∈ GoMap.values (fun _ sess => resumable token now sess) s := by simp [hv]
        obtain ⟨key, hl, hr⟩ := (GoMap.mem_values_iff _ _ _).1 hm
        simp only [resumable, Bool.and_eq_true, decide_eq_true_eq] at hr
        exact ⟨key, sess, hl, rfl, .inr (hr.1 ▸ hne)⟩
      · cases h
  lasts := by
    rintro s t ⟨key, sess, hl, ht, -⟩
    exact ⟨key, sess, hl, .inr ht⟩
  register s now sess t hempty := by
    simp only [repo, register]
    split
    · exact ⟨.inl, id⟩
    · split
      · exact ⟨.inl, id⟩
      · constructor
        · rintro ⟨key, x, hx, ht⟩
          rw [GoMap.lookup_insert_ite] at hx
          split at hx
          · cases hx
            subst_vars
            exact .inr (ht.elim Eq.symm Eq.symm)
          · exact .inl ⟨key, x, hx, ht⟩
        · rintro ⟨key, x, hx, ht, hlast⟩
          rw [GoMap.lookup_insert_ite] at hx
          split at hx
          · -- the new session stands under its own id and has no token
            cases hx
            subst_vars
            exact absurd hempty (hlast.resolve_left fun h => h rfl)
          · exact ⟨key, x, hx, ht, hlast⟩
  deregister s now t' t := by
    simp only [repo, deregister]
    split
    · rename_i hnone
      refine ⟨fun h => ⟨h, ?_⟩, id⟩
      rintro rfl
      obtain ⟨key, x, hx, ht⟩ := h
      have hkey : key ≠ t := by
        rintro rfl
        rw [hnone] at hx
        cases hx
      exact ⟨key, x, hx, ht.resolve_left hkey, .inl hkey⟩
    · constructor
      · rintro ⟨key, x, hx, ht⟩
        rw [GoMap.lookup_erase_ite] at hx
        split at hx
        · cases hx
        · rename_i hkey
          refine ⟨⟨key, x, hx, ht⟩, ?_⟩
          rintro rfl
          exact ⟨key, x, hx, ht.resolve_left hkey, .inl hkey⟩
      · rintro ⟨key, x, hx, ht, hlast⟩
        rw [GoMap.lookup_erase_ite] at hx
        split at hx
        · cases hx
        · exact ⟨key, x, hx, ht, hlast⟩
  heartbeat s now t' t := by
    simp only [repo, heartbeat]
    split
    · exact ⟨id, id⟩
    · rename_i sess hl
      exact ⟨present_replace hl rfl, lasting_replace hl rfl fun _ => rfl⟩
  cleanupExpired s now ttl t := by
    constructor
    · rintro ⟨key, x, hx, ht⟩
      simp only [repo, cleanupExpired, GoMap.lookup_filter] at hx
      exact ⟨key, x, (Option.filter_eq_some_iff.1 hx).1, ht⟩
    · rintro ⟨key, x, hx, ht⟩
      simp only [repo, cleanupExpired, GoMap.lookup_filter] at hx
      exact ⟨key, x, (Option.filter_eq_some_iff.1 hx).1, ht⟩
  setResumable s now t' token deadline t hne := by
    simp only [repo, setResumable]
    split
    · exact ⟨id, id⟩
    · rename_i sess hl
      exact ⟨present_replace hl rfl, lasting_replace hl rfl fun h => absurd h hne⟩

end Memory

namespace Table

/-- A row of the tunnel that `Get` or `GetResumable` can return. -/
def isOpen (t : String) (row : TunnelSessionModel) : Prop :=
  row.session.tunnelID = t ∧ (row.status = .active ∨ row.status = .disconnecting)

def present (s : Table) (t : String) : Prop := ∃ row ∈ s, isOpen t row

/-- A row that waits for a resume, or one with a token. -/
def lasting (s : Table) (t : String) : Prop :=
  ∃ row ∈ s, isOpen t row ∧ (row.status = .disconnecting ∨ row.session.resumeToken ≠ "")

variable {s : Table} {t : String} {p : TunnelSessionModel → Bool} {f : TunnelSessionModel → TunnelSessionModel}

theorem present_update (hf : ∀ row, p row = true → isOpen t (f row) → isOpen t row) (h : present (update s p f).1 t) :
    present s t := by
  obtain ⟨row, hm, ho⟩ := h
  obtain ⟨old, hold, rfl⟩ := mem_update.1 hm
  split at ho
  · exact ⟨old, hold, hf old ‹_› ho⟩
  · exact ⟨old, hold, ho⟩

theorem lasting_update (hf : ∀ row, p row = true → isOpen t (f row) →
      isOpen t row ∧ (f row).status = row.status ∧ (f row).session.resumeToken = row.session.resumeToken)
    (h : lasting (update s p f).1 t) : lasting s t := by
  obtain ⟨row, hm, ho, hlast⟩ := h
  obtain ⟨old, hold, rfl⟩ := mem_update.1 hm
  split at ho
  · rename_i hp
    obtain ⟨ho', hs, htok⟩ := hf old hp ho
    rw [if_pos hp, hs, htok] at hlast
    exact ⟨old, hold, ho', hlast⟩
  · rename_i hp
    rw [if_neg hp] at hlast
    exact ⟨old, hold, ho, hlast⟩

theorem presence : repo.Presence present lasting where
  get s t sess h := by
    simp only [repo, get] at h
    split at h
    · rename_i row hfind
      obtain ⟨ht, hs⟩ := status_of_activeOf (List.find?_some hfind)
      exact ⟨row, List.mem_of_find?_eq_some hfind, ht, .inl hs⟩
    · cases h
  getResumable s now token sess h := by
    simp only [repo, getResumable] at h
    split at h
    · cases h
    · rename_i hne
      split at h
      · rename_i row hfind
        cases h
        have hr := List.find?_some hfind
        simp only [resumable, Bool.and_eq_true, Bool.or_eq_true, decide_eq_true_eq] at hr
        exact ⟨row, List.mem_of_find?_eq_some hfind, ⟨rfl, hr.2⟩, .inr (hr.1.1 ▸ hne)⟩
      · cases h
  lasts := by
    rintro s t ⟨row, hm, ho, -⟩
    exact ⟨row, hm, ho⟩
  register s now sess t _ := by
    simp only [repo, register]
    split
    · exact ⟨.inl, id⟩
    · constructor
      · rintro ⟨row, hm, ho⟩
        rcases List.mem_append.1 hm with hm | hm
        · exact .inl ⟨row, hm, ho⟩
        · rw [List.mem_singleton] at hm
          subst hm
          exact .inr ho.1.symm
      · rintro ⟨row, hm, ho, hlast⟩
        rcases List.mem_append.1 hm with hm | hm
        · exact ⟨row, hm, ho, hlast⟩
        · -- a new row is active and has no token
          rw [List.mem_singleton] at hm
          subst hm
          simp at hlast
  deregister s now t' t := by
    simp only [repo, deregister_store]
    refine ⟨fun h => ⟨present_update (fun row hp ho => ?_) h, ?_⟩, lasting_update fun row hp ho => ?_⟩
    · exact ⟨ho.1, .inl (status_of_activeOf hp).2⟩
    · rintro rfl
      obtain ⟨row, hm, ho⟩ := h
      obtain ⟨old, hold, rfl⟩ := mem_update.1 hm
      split at ho
      · exact absurd ho.2 (by simp)
      · rename_i hp
        refine ⟨old, hold, ho, .inl (ho.2.resolve_left fun hs => hp ?_)⟩
        simp [activeOf, ho.1, hs]
    · exact absurd ho.2 (by simp)
  heartbeat s now t' t := by
    simp only [repo, heartbeat_store]
    exact ⟨present_update fun _ _ ho => ho, lasting_update fun _ _ ho => ⟨ho, rfl, rfl⟩⟩
  cleanupExpired s now ttl t := by
    refine ⟨present_update fun row hp ho => ?_, lasting_update fun row hp ho => ?_⟩
    · exact absurd ho.2 (by simp)
    · exact absurd ho.2 (by simp)
  setResumable s now t' token deadline t hne := by
    simp only [repo, setResumable_store]
    have hother : ∀ row, activeOf t' row = true → ¬ isOpen t (stamp token deadline row) := by
      intro row hp ho
      exact hne (ho.1.symm.trans (status_of_activeOf hp).1)
    exact ⟨present_update fun row hp ho => absurd ho (hother row hp),
      lasting_update fun row hp ho => absurd ho (hother row hp)⟩

end Table

end TunnelEdge.Store
