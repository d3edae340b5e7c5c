import TunnelEdge.Store.Sessions
/-!
# Resume tokens in the session stores

Which tokens a store can hold after an operation, for any store. Beyond that the
two stores differ. A session of the memory store has one token, and the next
`SetResumable` replaces it. A row of the table that has been given a token is no
longer active, and no operation touches it again.
-/

namespace TunnelEdge.Store

open GoLib

/-- What the operations of a store can do to the resume tokens of its tunnels. -/
structure SessionRepository.Tokens {σ : Type} (repo : SessionRepository σ) (holds : σ → String → String → Prop) :
    Prop where
  register : ∀ s now sess t x, holds (repo.register s now sess).1 t x → holds s t x ∨ x = sess.resumeToken ∨ x = ""
  deregister : ∀ s now t' t x, holds (repo.deregister s now t').1 t x → holds s t x
  heartbeat : ∀ s now t' t x, holds (repo.heartbeat s now t').1 t x → holds s t x
  cleanupExpired : ∀ s now ttl t x, holds (repo.cleanupExpired s now ttl).1 t x → holds s t x
  setResumable : ∀ s now t' token deadline t x, holds (repo.setResumable s now t' token deadline).1 t x →
    holds s t x ∨ (t = t' ∧ x = token)

namespace Memory

def holds (s : Memory) (t x : String) : Prop := ∃ sess, s.lookup t = some sess ∧ sess.resumeToken = x

theorem holds_insert {s : Memory} {t t' x : String} {sess : Session} (h : holds (s.insert t' sess) t x) :
    holds s t x ∨ (t = t' ∧ x = sess.resumeToken) := by
  obtain ⟨sess', hl, rfl⟩ := h
  rw [GoMap.lookup_insert_ite] at hl
  split at hl
  · rename_i ht
    cases hl
    exact .inr ⟨ht, rfl⟩
  · exact .inl ⟨sess', hl, rfl⟩

theorem tokens : repo.Tokens holds where
  register s now sess t x h := by
    simp only [repo, register] at h
    split at h
    · exact .inl h
    · split at h
      · exact .inl h
      · rcases holds_insert h with h | h
        · exact .inl h
        · exact .inr (.inl h.2)
  deregister s now t' t x h := by
    simp only [repo, deregister] at h
    split at h
    · exact h
    · obtain ⟨sess, hl, hx⟩ := h
      simp only [GoMap.lookup_erase_ite] at hl
      split at hl
      · cases hl
      · exact ⟨sess, hl, hx⟩
  heartbeat s now t' t x h := by
    simp only [repo, heartbeat] at h
    split at h
    · exact h
    · rename_i sess hs
      rcases holds_insert h with hk | ⟨rfl, hx⟩
      · exact hk
      · exact ⟨sess, hs, hx.symm⟩
  cleanupExpired s now ttl t x h := by
    obtain ⟨sess, hl, hx⟩ := h
    simp only [repo, cleanupExpired, GoMap.lookup_filter] at hl
    exact ⟨sess, (Option.filter_eq_some_iff.1 hl).1, hx⟩
  setResumable s now t' token deadline t x h := by
    simp only [repo, setResumable] at h
    split at h
    · exact .inl h
    · exact holds_insert h

theorem holds_of_getResumable {s : Memory} {now : Time} {token : String} {sess : Session}
    (h : getResumable s now token = .ok sess) : ∃ t, holds s t token := by
  simp only [getResumable] at h
  split at h
  · cases h
  · split at h
    · rename_i sess' rest hv
      have hm : sess' ∈ GoMap.values (fun _ sess => resumable token now sess) s := by simp [hv]
      obtain ⟨t, hl, hr⟩ := (GoMap.mem_values_iff _ _ _).1 hm
      simp only [resumable, Bool.and_eq_true, decide_eq_true_eq] at hr
      exact ⟨t, sess', hl, hr.1⟩
    · cases h

/-- A successful `SetResumable` leaves the tunnel with the new token only. -/
theorem setResumable_replaces {s : Memory} {t token x : String} {deadline : Time}
    (hok : (setResumable s t token deadline).2.toOption.isSome = true)
    (h : holds (setResumable s t token deadline).1 t x) : x = token := by
  unfold setResumable at hok h
  split at h
  · rename_i hl
    rw [hl] at hok
    cases hok
  · obtain ⟨sess, hl, rfl⟩ := h
    rw [GoMap.lookup_insert_ite, if_pos rfl] at hl
    cases hl
    rfl

end Memory

namespace Table

/-- A row of `t` has the token `x`. -/
def holds (s : Table) (t x : String) : Prop := ∃ row ∈ s, row.session.tunnelID = t ∧ row.session.resumeToken = x

theorem mem_update {s : Table} {p : TunnelSessionModel → Bool} {f : TunnelSessionModel → TunnelSessionModel}
    {row : TunnelSessionModel} : row ∈ (update s p f).1 ↔ ∃ old ∈ s, (if p old then f old else old) = row := by
  simp [update]

theorem status_of_activeOf {t : String} {row : TunnelSessionModel} (h : activeOf t row = true) :
    row.session.tunnelID = t ∧ row.status = .active := by
  simpa [activeOf] using h

theorem deregister_store (s : Table) (t : String) :
    (deregister s t).1 = (update s (activeOf t) ({ · with status := .closed })).1 := by
  unfold deregister
  split <;> simp_all

theorem heartbeat_store (s : Table) (now : Time) (t : String) : (heartbeat s now t).1 = (update s (activeOf t)
    fun row => { row with session := { row.session with lastHeartbeat := now } }).1 := by
  unfold heartbeat
  split <;> simp_all

/-- What `SetResumable` makes of an active row. -/
def stamp (token : String) (deadline : Time) (row : TunnelSessionModel) : TunnelSessionModel :=
  ⟨{ row.session with resumeToken := token, resumeDeadline := some deadline }, .disconnecting⟩

theorem setResumable_store (s : Table) (t token : String) (deadline : Time) :
    (setResumable s t token deadline).1 = (update s (activeOf t) (stamp token deadline)).1 := by
  unfold setResumable stamp
  split <;> simp_all

theorem register_store (s : Table) (now : Time) (sess : Session) : (register s now sess).1 = s ∨
    ∃ new : TunnelSessionModel, new.session.resumeToken = "" ∧ (register s now sess).1 = s ++ [new] := by
  unfold register
  split
  · exact .inl rfl
  · exact .inr ⟨_, rfl, rfl⟩

theorem holds_update {s : Table} {p : TunnelSessionModel → Bool} {f : TunnelSessionModel → TunnelSessionModel}
    (hf : ∀ row, (f row).session.tunnelID = row.session.tunnelID ∧
      (f row).session.resumeToken = row.session.resumeToken) {t x : String} (h : holds (update s p f).1 t x) :
    holds s t x := by
  obtain ⟨row, hm, ht, hx⟩ := h
  obtain ⟨old, hold, rfl⟩ := mem_update.1 hm
  split at ht
  · rename_i hp
    rw [if_pos hp] at hx
    exact ⟨old, hold, (hf old).1.symm.trans ht, (hf old).2.symm.trans hx⟩
  · rename_i hp
    rw [if_neg hp] at hx
    exact ⟨old, hold, ht, hx⟩

theorem tokens : repo.Tokens holds where
  register s now sess t x h := by
    rcases register_store s now sess with he | ⟨new, hnew, he⟩
    · simp only [repo, he] at h
      exact .inl h
    · simp only [repo, he] at h
      obtain ⟨row, hm, ht, rfl⟩ := h
      rcases List.mem_append.1 hm with hm | hm
      · exact .inl ⟨row, hm, ht, rfl⟩
      · rw [List.mem_singleton] at hm
        subst hm
        exact .inr (.inr hnew)
  deregister s now t' t x h := by
    simp only [repo, deregister_store] at h
    refine holds_update ?_ h
    exact fun _ => ⟨rfl, rfl⟩
  heartbeat s now t' t x h := by
    simp only [repo, heartbeat_store] at h
    refine holds_update ?_ h
    exact fun _ => ⟨rfl, rfl⟩
  cleanupExpired s now ttl t x h := by
    refine holds_update ?_ h
    exact fun _ => ⟨rfl, rfl⟩
  setResumable s now t' token deadline t x h := by
    simp only [repo, setResumable_store] at h
    obtain ⟨row, hm, ht, hx⟩ := h
    obtain ⟨old, hold, rfl⟩ := mem_update.1 hm
    split at hx
    · rename_i hp
      rw [if_pos hp] at ht
      exact .inr ⟨ht.symm.trans (status_of_activeOf hp).1, hx.symm⟩
    · rename_i hp
      rw [if_neg hp] at ht
      exact .inl ⟨old, hold, ht, hx⟩

/-! ## The rows with one token -/

def stamped (s : Table) (t token : String) (deadline : Time) (row : TunnelSessionModel) : Prop :=
  ∃ old ∈ s, activeOf t old = true ∧ row = stamp token deadline old

/-- The rows of `s'` with the token are those that `SetResumable` found active in `s`. -/
def Carries (s s' : Table) (t token : String) (deadline : Time) : Prop :=
  ∀ row, (row ∈ s' ∧ row.session.resumeToken = token) ↔ stamped s t token deadline row

section Carries

variable {s s' : Table} {t token : String} {deadline : Time}

theorem carries_set (h : ∀ t, ¬ holds s t token) :
    Carries s (setResumable s t token deadline).1 t token deadline := by
  intro row
  rw [setResumable_store, mem_update]
  constructor
  · rintro ⟨⟨old, hold, rfl⟩, htok⟩
    split at htok
    · rename_i ha
      exact ⟨old, hold, ha, if_pos ha⟩
    · exact absurd ⟨old, hold, rfl, htok⟩ (h _)
  · rintro ⟨old, hold, ha, rfl⟩
    exact ⟨⟨old, hold, if_pos ha⟩, rfl⟩

theorem carries_lost (h : ∀ t, ¬ holds s t token) : Carries [] s t token deadline := by
  intro row
  constructor
  · rintro ⟨hm, htok⟩
    exact absurd ⟨row, hm, rfl, htok⟩ (h _)
  · rintro ⟨old, hold, -⟩
    cases hold

theorem Carries.update (h : Carries s s' t token deadline) {p : TunnelSessionModel → Bool}
    {f : TunnelSessionModel → TunnelSessionModel} (hp : ∀ row, p row = true → row.status = .active)
    (hf : ∀ row, (f row).session.resumeToken = token → row.session.resumeToken = token) :
    Carries s (update s' p f).1 t token deadline := by
  have hact : ∀ row ∈ s', row.session.resumeToken = token → p row = false := by
    intro row hm htok
    obtain ⟨old, -, -, rfl⟩ := (h row).1 ⟨hm, htok⟩
    refine Bool.eq_false_iff.2 fun hpr => ?_
    cases hp _ hpr
  intro row
  rw [← h row, mem_update]
  constructor
  · rintro ⟨⟨old, hold, rfl⟩, htok⟩
    split at htok
    · rename_i hpo
      rw [hact old hold (hf old htok)] at hpo
      cases hpo
    · rename_i hpo
      rw [if_neg hpo]
      exact ⟨hold, htok⟩
  · rintro ⟨hm, htok⟩
    exact ⟨⟨row, hm, by simp [hact row hm htok]⟩, htok⟩

theorem Carries.register (h : Carries s s' t token deadline) (hne : token ≠ "") (now : Time) (sess : Session) :
    Carries s (register s' now sess).1 t token deadline := by
  rcases register_store s' now sess with he | ⟨new, hnew, he⟩
  · rw [he]
    exact h
  · intro row
    rw [he, ← h row, List.mem_append, List.mem_singleton]
    constructor
    · rintro ⟨hm | rfl, htok⟩
      · exact ⟨hm, htok⟩
      · exact absurd (htok.symm.trans hnew) hne
    · rintro ⟨hm, htok⟩
      exact ⟨.inl hm, htok⟩

theorem Carries.deregister (h : Carries s s' t token deadline) (t' : String) :
    Carries s (deregister s' t').1 t token deadline := by
  rw [deregister_store]
  exact h.update (fun row hp => (status_of_activeOf hp).2) fun row htok => htok

theorem Carries.heartbeat (h : Carries s s' t token deadline) (now : Time) (t' : String) :
    Carries s (heartbeat s' now t').1 t token deadline := by
  rw [heartbeat_store]
  exact h.update (fun row hp => (status_of_activeOf hp).2) fun row htok => htok

theorem Carries.cleanupExpired (h : Carries s s' t token deadline) (now : Time) (ttl : Duration) :
    Carries s (cleanupExpired s' now ttl).1 t token deadline := by
  refine h.update (fun row hp => ?_) fun row htok => htok
  simp only [Bool.and_eq_true, decide_eq_true_eq] at hp
  exact hp.1

theorem Carries.setResumable (h : Carries s s' t token deadline) {token' : String} (hne : token' ≠ token)
    (t' : String) (deadline' : Time) : Carries s (setResumable s' t' token' deadline').1 t token deadline := by
  rw [setResumable_store]
  exact h.update (fun row hp => (status_of_activeOf hp).2) fun row htok => absurd htok hne

theorem resumable_iff {token : String} {now : Time} {row : TunnelSessionModel} : resumable token now row = true ↔
    row.session.resumeToken = token ∧ (∃ deadline, row.session.resumeDeadline = some deadline ∧ now < deadline) ∧
      (row.status = .active ∨ row.status = .disconnecting) := by
  simp only [resumable, Bool.and_eq_true, decide_eq_true_eq, Bool.or_eq_true, Option.any_eq_true, and_assoc]

/-- `GetResumable` finds the token exactly when `SetResumable` found an active row for it and the deadline it was
given lies ahead. -/
theorem Carries.getResumable_iff (h : Carries s s' t token deadline) (hne : token ≠ "") {now : Time} :
    (∃ sess, getResumable s' now token = .ok sess ∧ sess.tunnelID = t) ↔
      (∃ row ∈ s, activeOf t row = true) ∧ now < deadline := by
  have hrow : ∀ row ∈ s', resumable token now row = true →
      (∃ old ∈ s, activeOf t old = true) ∧ now < deadline ∧ row.session.tunnelID = t := by
    intro row hm hr
    obtain ⟨htok, ⟨d, hd, hlt⟩, -⟩ := resumable_iff.1 hr
    obtain ⟨old, hold, ha, rfl⟩ := (h row).1 ⟨hm, htok⟩
    cases hd
    exact ⟨⟨old, hold, ha⟩, hlt, (status_of_activeOf ha).1⟩
  simp only [getResumable, if_neg hne]
  cases hf : s'.find? (resumable token now) with
  | none =>
    simp only [reduceCtorEq, false_and, exists_false, false_iff]
    rintro ⟨⟨old, hold, ha⟩, hlt⟩
    have hm := (h (stamp token deadline old)).2 ⟨old, hold, ha, rfl⟩
    have hnot := List.find?_eq_none.1 hf _ hm.1
    exact hnot (resumable_iff.2 ⟨rfl, ⟨deadline, rfl, hlt⟩, .inr rfl⟩)
  | some row =>
    have hr := hrow row (List.mem_of_find?_eq_some hf) (List.find?_some hf)
    constructor
    · exact fun _ => ⟨hr.1, hr.2.1⟩
    · exact fun _ => ⟨row.session, rfl, hr.2.2⟩

end Carries

end Table

end TunnelEdge.Store
