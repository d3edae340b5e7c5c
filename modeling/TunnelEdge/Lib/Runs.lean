import Mathlib.Data.List.Induction
/-!
# Runs of a labelled step function

A system is a step function `S → L → Option S`: a label says which party moves
and what its environment answers, and `none` that this cannot happen now.
`Run step ok s₀ ls s` is a run from `s₀` over the labels `ls` all of whose
steps meet the condition `ok`, judged in the state before the step. With
`fun _ _ => True` it is any run, so a theorem about every `Run` holds for
every interleaving of the parties.
-/

namespace GoLib

variable {S L : Type}

/-- Runs from `s₀` whose steps all meet `ok`: the labels in order, and the state reached. -/
inductive Run (step : S → L → Option S) (ok : S → L → Prop) (s₀ : S) : List L → S → Prop
  | nil : Run step ok s₀ [] s₀
  | snoc {ls s l s'} : Run step ok s₀ ls s → ok s l → step s l = some s' → Run step ok s₀ (ls ++ [l]) s'

variable {step : S → L → Option S} {ok ok' : S → L → Prop} {s₀ : S}

theorem Run.inv (I : S → Prop) (h0 : I s₀) (hs : ∀ s l s', I s → ok s l → step s l = some s' → I s')
    {ls s} (h : Run step ok s₀ ls s) : I s := by
  induction h with
  | nil => exact h0
  | snoc _ hok hst ih => exact hs _ _ _ ih hok hst

theorem Run.mono (himp : ∀ s l, ok s l → ok' s l) {ls s} (h : Run step ok s₀ ls s) : Run step ok' s₀ ls s := by
  induction h with
  | nil => exact .nil
  | snoc _ hok hst ih => exact .snoc ih (himp _ _ hok) hst

theorem Run.append {ls ls' : List L} {s s' : S} (h : Run step ok s₀ ls s) (h' : Run step ok s ls' s') :
    Run step ok s₀ (ls ++ ls') s' := by
  induction h' with
  | nil => rwa [List.append_nil]
  | snoc _ hok hst ih => exact List.append_assoc .. ▸ .snoc ih hok hst

/-- A part of the state that moves by a step of its own, or not at all, makes a run of its own. -/
theorem Run.project {T M : Type} {step' : T → M → Option T} {okT : T → M → Prop} (f : S → T)
    (hf : ∀ s l s', ok s l → step s l = some s' →
      f s' = f s ∨ ∃ m, okT (f s) m ∧ step' (f s) m = some (f s'))
    {ls : List L} {s : S} (h : Run step ok s₀ ls s) : ∃ ms, Run step' okT (f s₀) ms (f s) := by
  induction h with
  | nil => exact ⟨[], .nil⟩
  | snoc _ hok hst ih =>
    obtain ⟨ms, hms⟩ := ih
    rcases hf _ _ _ hok hst with he | ⟨m, hm, hs⟩
    · exact ⟨ms, he ▸ hms⟩
    · exact ⟨ms ++ [m], .snoc hms hm hs⟩

/-- A system that can follow every step of another one, label by label, follows its runs. -/
theorem Run.simulate {T : Type} {step' : T → L → Option T} {okT : T → L → Prop} {t₀ : T} (R : S → T → Prop)
    (h0 : R s₀ t₀)
    (hs : ∀ s t l s', R s t → ok s l → step s l = some s' → okT t l ∧ ∃ t', step' t l = some t' ∧ R s' t')
    {ls : List L} {s : S} (h : Run step ok s₀ ls s) : ∃ t, Run step' okT t₀ ls t ∧ R s t := by
  induction h with
  | nil => exact ⟨t₀, .nil, h0⟩
  | snoc _ hok hst ih =>
    obtain ⟨t, ht, hrel⟩ := ih
    obtain ⟨hokT, t', hstep, hrel'⟩ := hs _ _ _ _ hrel hok hst
    exact ⟨t', .snoc ht hokT hstep, hrel'⟩

/-- Two systems that take every label together or not at all follow each other's runs. -/
theorem run_lockstep {T : Type} {step' : T → L → Option T} {okT : T → L → Prop} {t₀ : T} {R : S → T → Prop}
    (h0 : R s₀ t₀) (hok : ∀ s t l, R s t → (ok s l ↔ okT t l))
    (hs : ∀ s t l, R s t → ok s l → (step s l = none ∧ step' t l = none) ∨
      ∃ s' t', step s l = some s' ∧ step' t l = some t' ∧ R s' t') (ls : List L) :
    (∀ s, Run step ok s₀ ls s → ∃ t, Run step' okT t₀ ls t ∧ R s t) ∧
      ∀ t, Run step' okT t₀ ls t → ∃ s, Run step ok s₀ ls s ∧ R s t := by
  refine ⟨fun s h => h.simulate R h0 ?_, fun t h => h.simulate (fun t s => R s t) h0 ?_⟩
  · intro s t l s' hrel hl hst
    refine ⟨(hok s t l hrel).1 hl, ?_⟩
    rcases hs s t l hrel hl with ⟨hnone, -⟩ | ⟨s₁, t', hs₁, ht', hrel'⟩
    · cases hnone.symm.trans hst
    · cases hs₁.symm.trans hst
      exact ⟨t', ht', hrel'⟩
  · intro t s l t' hrel hl hst
    have hl := (hok s t l hrel).2 hl
    refine ⟨hl, ?_⟩
    rcases hs s t l hrel hl with ⟨-, hnone⟩ | ⟨s', t₁, hs', ht₁, hrel'⟩
    · cases hnone.symm.trans hst
    · cases ht₁.symm.trans hst
      exact ⟨s', hs', hrel'⟩

def exec (step : S → L → Option S) : S → List L → Option S
  | s, [] => some s
  | s, l :: ls => (step s l).bind fun s' => exec step s' ls

theorem exec_append (s : S) (ls ls' : List L) :
    exec step s (ls ++ ls') = (exec step s ls).bind fun s' => exec step s' ls' := by
  induction ls generalizing s with
  | nil => rfl
  | cons l ls ih => simp only [List.cons_append, exec, ih, Option.bind_assoc]

theorem run_of_exec {ls : List L} {s : S} (h : exec step s₀ ls = some s) : Run step (fun _ _ => True) s₀ ls s := by
  induction ls using List.reverseRecOn generalizing s with
  | nil => cases h; exact .nil
  | append_singleton ls l ih =>
    rw [exec_append] at h
    obtain ⟨s', hs', hl⟩ := Option.bind_eq_some_iff.1 h
    obtain ⟨s'', hs'', hn⟩ := Option.bind_eq_some_iff.1 hl
    cases hn
    exact .snoc (ih hs') trivial hs''

/-- The step, where the condition `ok` holds. -/
def checked (step : S → L → Option S) (ok : S → L → Bool) (s : S) (l : L) : Option S :=
  if ok s l then step s l else none

theorem run_of_checked {ok : S → L → Bool} {ls : List L} {s : S} (h : exec (checked step ok) s₀ ls = some s) :
    Run step (fun s l => ok s l = true) s₀ ls s := by
  have hr := run_of_exec h
  clear h
  induction hr with
  | nil => exact .nil
  | snoc _ _ hst ih =>
    simp only [checked] at hst
    split at hst
    · exact .snoc ih ‹_› hst
    · cases hst

theorem run_any {P : S → Prop} [DecidablePred P] {ls : List L}
    (h : (exec step s₀ ls).any (fun s => decide (P s)) = true) : ∃ s, Run step (fun _ _ => True) s₀ ls s ∧ P s := by
  obtain ⟨s, hs, hp⟩ := (Option.any_eq_true _ _).1 h
  exact ⟨s, run_of_exec hs, of_decide_eq_true hp⟩

/-- A computed run that passes a test, and one after it that passes another. -/
theorem run_any_then {P Q : S → Prop} [DecidablePred P] [DecidablePred Q] {ls ls' : List L}
    (h : (exec step s₀ ls).any (fun s => decide (P s) && (exec step s ls').any fun s' => decide (Q s')) = true) :
    ∃ s s', Run step (fun _ _ => True) s₀ ls s ∧ P s ∧ Run step (fun _ _ => True) s ls' s' ∧ Q s' := by
  obtain ⟨s, hs, hp⟩ := (Option.any_eq_true _ _).1 h
  rw [Bool.and_eq_true] at hp
  obtain ⟨s', hr, hq⟩ := run_any hp.2
  exact ⟨s, s', run_of_exec hs, of_decide_eq_true hp.1, hr, hq⟩

theorem run_checked_any {ok : S → L → Bool} {P : S → Prop} [DecidablePred P] {ls : List L}
    (h : (exec (checked step ok) s₀ ls).any (fun s => decide (P s)) = true) :
    ∃ s, Run step (fun s l => ok s l = true) s₀ ls s ∧ P s := by
  obtain ⟨s, hs, hp⟩ := (Option.any_eq_true _ _).1 h
  exact ⟨s, run_of_checked hs, of_decide_eq_true hp⟩

/-- A computed run, one step more, and from there a run computed with its condition. -/
theorem run_step_any (step : S → L → Option S) (ok : S → L → Bool) (s₀ : S) (ls : List L) (l : L) (ls' : List L)
    {P : S → S → S → Prop} [∀ s s₁ s₂, Decidable (P s s₁ s₂)]
    (h : (exec step s₀ ls).any (fun s => (step s l).any fun s₁ =>
      (exec (checked step ok) s₁ ls').any fun s₂ => decide (P s s₁ s₂)) = true) :
    ∃ s s₁ s₂, Run step (fun _ _ => True) s₀ ls s ∧ step s l = some s₁ ∧
      Run step (fun s l => ok s l = true) s₁ ls' s₂ ∧ P s s₁ s₂ := by
  obtain ⟨s, hs, h₁⟩ := (Option.any_eq_true _ _).1 h
  obtain ⟨s₁, hs₁, h₂⟩ := (Option.any_eq_true _ _).1 h₁
  obtain ⟨s₂, hs₂, hp⟩ := (Option.any_eq_true _ _).1 h₂
  exact ⟨s, s₁, s₂, run_of_exec hs, hs₁, run_of_checked hs₂, of_decide_eq_true hp⟩

/-! ## Runs with a history -/

section Tracked

variable {H : Type} {note : S → L → S → H → H}

/-- The step with a history beside it, which `note` extends from the state, the label and the state reached. -/
def tracked (step : S → L → Option S) (note : S → L → S → H → H) (s : S × H) (l : L) : Option (S × H) :=
  (step s.1 l).map fun s' => (s', note s.1 l s' s.2)

theorem tracked_some {s s' : S × H} {l : L} (h : tracked step note s l = some s') :
    step s.1 l = some s'.1 ∧ s'.2 = note s.1 l s'.1 s.2 := by
  obtain ⟨s₁, hs, rfl⟩ := Option.map_eq_some_iff.1 h
  exact ⟨hs, rfl⟩

end Tracked

/-! ## Names to compute with -/

theorem ofList_replicate_injective (c : Char) :
    Function.Injective fun n : Nat => String.ofList (List.replicate (n + 1) c) := by
  intro n m h
  have hlen := congrArg String.length h
  simp only [String.length_ofList, List.length_replicate, Nat.add_right_cancel_iff] at hlen
  exact hlen

theorem ofList_replicate_ne (c : Char) (n : Nat) : String.ofList (List.replicate (n + 1) c) ≠ "" := by
  intro h
  have hlen := congrArg String.length h
  rw [String.length_ofList, List.length_replicate] at hlen
  exact Nat.succ_ne_zero n hlen

/-! ## Deterministic runs -/

/-- Every label of the list meets `P` in the state it finds; `next` takes every label. -/
def Along (next : S → L → S) (P : S → L → Prop) : S → List L → Prop
  | _, [] => True
  | s, l :: ls => P s l ∧ Along next P (next s l) ls

instance Along.decidable {next : S → L → S} {P : S → L → Prop} [∀ s l, Decidable (P s l)] :
    (s : S) → (ls : List L) → Decidable (Along next P s ls)
  | _, [] => .isTrue trivial
  | s, l :: ls =>
    have : Decidable (Along next P (next s l) ls) := Along.decidable (next s l) ls
    inferInstanceAs (Decidable (P s l ∧ Along next P (next s l) ls))

theorem along_true {next : S → L → S} (s : S) (ls : List L) : Along next (fun _ _ => True) s ls := by
  induction ls generalizing s with
  | nil => trivial
  | cons l ls ih => exact ⟨trivial, ih (next s l)⟩

/-- A table read at one key is folded from what the labels write under that key. -/
theorem foldl_read {E U : Type} {next : S → L → S} (read : S → E) (touch : L → Option U) (put : E → U → E)
    (h : ∀ s l, read (next s l) = (touch l).elim (read s) (put (read s))) (s : S) (ls : List L) :
    read (ls.foldl next s) = (ls.filterMap touch).foldl put (read s) := by
  induction ls generalizing s with
  | nil => rfl
  | cons l ls ih =>
    rw [List.foldl_cons, ih, h, List.filterMap_cons]
    cases touch l with
    | none => rfl
    | some u => rfl

/-- A condition that entails another wherever `I` holds, and keeps `I`, entails it along a run. -/
theorem along_of_inv {next : S → L → S} {P Q : S → L → Prop} (I : S → Prop)
    (hstep : ∀ s l, I s → P s l → Q s l ∧ I (next s l)) {s : S} {ls : List L} (hs : I s) (h : Along next P s ls) :
    Along next Q s ls := by
  induction ls generalizing s with
  | nil => trivial
  | cons l ls ih =>
    obtain ⟨hq, hi⟩ := hstep s l hs h.1
    exact ⟨hq, ih hi h.2⟩

/-- Two conditions that coincide wherever `I` holds coincide along a run: the
first label that breaks one breaks the other. -/
theorem along_iff {next : S → L → S} {D P Q : S → L → Prop} (I : S → Prop)
    (hiff : ∀ s l, I s → D s l → (P s l ↔ Q s l)) (hnext : ∀ s l, I s → D s l → Q s l → I (next s l)) {s : S}
    {ls : List L} (hs : I s) (hd : Along next D s ls) : Along next P s ls ↔ Along next Q s ls := by
  induction ls generalizing s with
  | nil => exact Iff.rfl
  | cons l ls ih =>
    constructor
    · rintro ⟨hp, hrest⟩
      have hq := (hiff s l hs hd.1).1 hp
      exact ⟨hq, (ih (hnext s l hs hd.1 hq) hd.2).1 hrest⟩
    · rintro ⟨hq, hrest⟩
      exact ⟨(hiff s l hs hd.1).2 hq, (ih (hnext s l hs hd.1 hq) hd.2).2 hrest⟩

/-- A property `P` of the labels so far and the state: where `I` keeps track of
it, it holds after every prefix exactly when every label meets `Q` in the state it finds. -/
theorem prefixes_iff_along {next : S → L → S} {Q : S → L → Prop} (P I : List L → S → Prop)
    (hp : ∀ done s, I done s → P done s)
    (hiff : ∀ done s l, I done s → (P (done ++ [l]) (next s l) ↔ Q s l))
    (hnext : ∀ done s l, I done s → Q s l → I (done ++ [l]) (next s l)) {s : S} (hs : I [] s) (ls : List L) :
    (∀ pre, pre <+: ls → P pre (pre.foldl next s)) ↔ Along next Q s ls := by
  -- the labels already consumed move from `ls` to `done`
  have key : ∀ done s, I done s →
      ((∀ pre, pre <+: ls → P (done ++ pre) (pre.foldl next s)) ↔ Along next Q s ls) := by
    induction ls with
    | nil => exact fun done s hs => by simpa [Along] using hp done s hs
    | cons l ls ih =>
      intro done s hs
      constructor
      · intro h
        have hq : Q s l := (hiff done s l hs).1 (h [l] (by simp))
        refine ⟨hq, (ih _ _ (hnext done s l hs hq)).1 fun pre hpre => ?_⟩
        simpa using h (l :: pre) (List.cons_prefix_cons.2 ⟨rfl, hpre⟩)
      · rintro ⟨hq, hrest⟩ pre hpre
        cases pre with
        | nil => simpa using hp done s hs
        | cons l' pre =>
          obtain ⟨rfl, htail⟩ := List.cons_prefix_cons.1 hpre
          simpa using (ih _ _ (hnext done s l' hs hq)).2 hrest pre htail
  exact key [] s hs

theorem forall_set {α : Type} {P : α → Prop} {calls : List α} (h : ∀ x ∈ calls, P x) {a : α} (ha : P a) (i : Nat) :
    ∀ x ∈ calls.set i a, P x := by
  intro x hx
  rcases List.mem_or_eq_of_mem_set hx with hx | rfl
  · exact h x hx
  · exact ha

end GoLib
