import TunnelEdge.Store.Equivalence
/-!
# Which tokens SetResumable replaces

`SetResumable` for a tunnel replaces the token that its session has. In the memory
store that is the only one. The table replaces the tokens of `active` rows, and
`GetResumable` also finds those of `disconnecting` rows, which no operation touches
any more.
-/

namespace TunnelEdge.Store

open GoLib

/-- How the operations of a store treat a token that nobody stores again. `replaceable s t x` says that `x` is a token
of `t` that the next `SetResumable` for `t` replaces, `stuck s now x` that `x` can be looked up and is not replaced. -/
structure SessionRepository.Replaces {σ : Type} (repo : SessionRepository σ) (keyed : σ → Prop)
    (holds replaceable : σ → String → String → Prop) (stuck : σ → Time → String → Bool) : Prop where
  held : ∀ s t x, replaceable s t x → holds s t x
  register : ∀ s now sess, sess.resumeToken = "" → (keyed s → keyed (repo.register s now sess).1) ∧
    ∀ t x, x ≠ "" → replaceable (repo.register s now sess).1 t x → replaceable s t x
  deregister : ∀ s now t', (keyed s → keyed (repo.deregister s now t').1) ∧
    ∀ t x, replaceable (repo.deregister s now t').1 t x → replaceable s t x
  heartbeat : ∀ s now t', (keyed s → keyed (repo.heartbeat s now t').1) ∧
    ∀ t x, replaceable (repo.heartbeat s now t').1 t x → replaceable s t x
  cleanupExpired : ∀ s now ttl, (keyed s → keyed (repo.cleanupExpired s now ttl).1) ∧
    ∀ t x, replaceable (repo.cleanupExpired s now ttl).1 t x → replaceable s t x
  setResumable : ∀ s now t' token deadline, (keyed s → keyed (repo.setResumable s now t' token deadline).1) ∧
    ∀ t x, x ≠ token → replaceable (repo.setResumable s now t' token deadline).1 t x → replaceable s t x ∧ t ≠ t'
  getResumable : ∀ s now x sess, keyed s → repo.getResumable s now x = .ok sess →
    x ≠ "" ∧ holds s sess.tunnelID x ∧ (replaceable s sess.tunnelID x ∨ stuck s now x = true)

namespace Memory

/-- Every session stands under its own tunnel id. -/
def keyed (s : Memory) : Prop := ∀ t sess, s.lookup t = some sess → sess.tunnelID = t

theorem replaces : repo.Replaces keyed holds holds fun _ _ _ => false where
  held _ _ _ h := h
  register s now sess hsess := by
    refine ⟨fun hk => Stores.keyed_answer (s := ⟨now, s, []⟩) hk (.register sess), fun t x hx h => ?_⟩
    rcases tokens.register s now sess t x h with h | h | h
    · exact h
    · exact absurd (h.trans hsess) hx
    · exact absurd h hx
  deregister s now t' :=
    ⟨fun hk => Stores.keyed_answer (s := ⟨now, s, []⟩) hk (.deregister t'), tokens.deregister s now t'⟩
  heartbeat s now t' :=
    ⟨fun hk => Stores.keyed_answer (s := ⟨now, s, []⟩) hk (.heartbeat t'), tokens.heartbeat s now t'⟩
  cleanupExpired s now ttl :=
    ⟨fun hk => Stores.keyed_answer (s := ⟨now, s, []⟩) hk (.cleanupExpired ttl), tokens.cleanupExpired s now ttl⟩
  setResumable s now t' token deadline := by
    refine ⟨fun hk => Stores.keyed_answer (s := ⟨now, s, []⟩) hk (.setResumable t' token deadline), fun t x hx h => ?_⟩
    simp only [repo, setResumable] at h
    split at h
    · rename_i hnone
      refine ⟨h, ?_⟩
      rintro rfl
      obtain ⟨sess, hl, -⟩ := h
      rw [hnone] at hl
      cases hl
    · obtain ⟨sess, hl, hsess⟩ := h
      rw [GoMap.lookup_insert_ite] at hl
      split at hl
      · cases hl
        exact absurd hsess.symm hx
      · rename_i hne
        exact ⟨⟨sess, hl, hsess⟩, hne⟩
  getResumable s now x sess hk h := by
    simp only [repo, getResumable] at h
    split at h
    · cases h
    · rename_i hx
      split at h
      · rename_i sess' rest hv
        cases h
        have hm : sess ∈ GoMap.values (fun _ sess => resumable x now sess) s := by simp [hv]
        obtain ⟨t, hl, hr⟩ := (GoMap.mem_values_iff _ _ _).1 hm
        simp only [resumable, Bool.and_eq_true, decide_eq_true_eq] at hr
        have hh : holds s sess.tunnelID x := ⟨sess, hk t sess hl ▸ hl, hr.1⟩
        exact ⟨hx, hh, .inl hh⟩
      · cases h

end Memory

namespace Table

/-- An active row of `t` has the token. -/
def replaceable (s : Table) (t x : String) : Prop := ∃ row ∈ s, activeOf t row = true ∧ row.session.resumeToken = x

/-- A row that is no longer active has the token, before its deadline. -/
def stuck (s : Table) (now : Time) (x : String) : Bool :=
  s.any fun row => resumable x now row && row.status = .disconnecting

theorem replaceable_update {s : Table} {p : TunnelSessionModel → Bool} {f : TunnelSessionModel → TunnelSessionModel}
    (hf : ∀ row t, activeOf t (f row) = true →
      activeOf t row = true ∧ (f row).session.resumeToken = row.session.resumeToken) {t x : String}
    (h : replaceable (update s p f).1 t x) : replaceable s t x := by
  obtain ⟨row, hm, ha, hx⟩ := h
  obtain ⟨old, hold, rfl⟩ := mem_update.1 hm
  split at ha
  · rename_i hp
    rw [if_pos hp] at hx
    obtain ⟨h1, h2⟩ := hf old t ha
    exact ⟨old, hold, h1, h2 ▸ hx⟩
  · rename_i hp
    rw [if_neg hp] at hx
    exact ⟨old, hold, ha, hx⟩

theorem replaces : repo.Replaces (fun _ => True) holds replaceable stuck where
  held := by
    rintro s t x ⟨row, hm, ha, hx⟩
    exact ⟨row, hm, (status_of_activeOf ha).1, hx⟩
  register s now sess hsess := by
    refine ⟨id, fun t x hx h => ?_⟩
    rcases register_store s now sess with he | ⟨new, hnew, he⟩
    · simp only [repo, he] at h
      exact h
    · simp only [repo, he] at h
      obtain ⟨row, hm, ha, hr⟩ := h
      rcases List.mem_append.1 hm with hm | hm
      · exact ⟨row, hm, ha, hr⟩
      · rw [List.mem_singleton] at hm
        subst hm
        exact absurd (hr.symm.trans hnew) hx
  deregister s now t' := by
    refine ⟨id, fun t x h => ?_⟩
    simp only [repo, deregister_store] at h
    exact replaceable_update (fun row t ha => by simp [activeOf] at ha) h
  heartbeat s now t' := by
    refine ⟨id, fun t x h => ?_⟩
    simp only [repo, heartbeat_store] at h
    refine replaceable_update ?_ h
    exact fun row t ha => ⟨ha, rfl⟩
  cleanupExpired s now ttl :=
    ⟨id, fun t x h => replaceable_update (fun row t ha => by simp [activeOf] at ha) h⟩
  setResumable s now t' token deadline := by
    refine ⟨id, fun t x hx h => ?_⟩
    simp only [repo, setResumable_store] at h
    obtain ⟨row, hm, ha, hr⟩ := h
    obtain ⟨old, hold, rfl⟩ := mem_update.1 hm
    split at ha
    · simp [activeOf, stamp] at ha
    · rename_i hp
      rw [if_neg hp] at hr
      refine ⟨⟨old, hold, ha, hr⟩, ?_⟩
      rintro rfl
      exact hp ha
  getResumable s now x sess _ h := by
    simp only [repo, getResumable] at h
    split at h
    · cases h
    · rename_i hx
      split at h
      · rename_i row hfind
        cases h
        have hm := List.mem_of_find?_eq_some hfind
        have hr := List.find?_some hfind
        obtain ⟨htoken, -, hstatus⟩ := resumable_iff.1 hr
        refine ⟨hx, ⟨row, hm, rfl, htoken⟩, ?_⟩
        rcases hstatus with hs | hs
        · exact .inl ⟨row, hm, by simp [activeOf, hs], htoken⟩
        · exact .inr (List.any_eq_true.2 ⟨row, hm, by simp [hr, hs]⟩)
      · cases h

end Table

end TunnelEdge.Store
