import Mathlib.Algebra.Order.Field.Basic
/-!
# Token buckets

`golang.org/x/time/rate` in exact arithmetic. A limiter starts with `burst` tokens,
gets new ones at a constant rate, never more than `burst`, and each event that it
allows takes one away.

What the number of tokens was does not matter once there has been time for `burst`
new ones: from then on the limiter is as good as a new one.
-/

namespace GoLib

/-- `rate.Limiter`. `limit` is in events per unit of time, and `none` is `rate.Inf`. -/
structure Limiter (K : Type) where
  limit : Option K
  burst : Int
  tokens : K
  last : K

namespace Limiter

variable {K : Type} [Field K] [LinearOrder K]

/-- `rate.NewLimiter` -/
def new (limit : Option K) (burst : Int) : Limiter K := { limit, burst, tokens := burst, last := 0 }

def available (l : Limiter K) (rate now : K) : K := min l.burst (l.tokens + max 0 (now - l.last) * rate)

/-- `Allow`: an event happens now if there is a token for it. -/
def allow (l : Limiter K) (now : K) : Limiter K × Bool :=
  match l.limit with
  | none => (l, true)
  | some rate =>
    if 1 ≤ l.available rate now then ({ l with tokens := l.available rate now - 1, last := now }, true) else (l, false)

def answers (l : Limiter K) : List K → List Bool
  | [] => []
  | now :: times => (l.allow now).2 :: answers (l.allow now).1 times

theorem answers_append (l : Limiter K) (times times' : List K) :
    l.answers (times ++ times') = l.answers times ++ (times.foldl (fun l now => (l.allow now).1) l).answers times' := by
  induction times generalizing l with
  | nil => rfl
  | cons now times ih => simp only [List.cons_append, answers, List.foldl_cons, ih]

/-- A limiter that was last asked at `seen`. Without a limit it is never changed. -/
def Used (limit : Option K) (burst : Int) (seen : K) (l : Limiter K) : Prop :=
  l.limit = limit ∧ l.burst = burst ∧ 0 ≤ l.tokens ∧ (limit = none → l = new none burst) ∧
    (limit ≠ none → l.last ≤ seen)

variable [IsStrictOrderedRing K] {l : Limiter K} {limit : Option K} {rate seen now : K} {burst : Int}

theorem available_new (hrate : 0 ≤ rate) : (new limit burst).available rate now = burst := by
  unfold available new
  refine min_eq_left (le_add_of_nonneg_right ?_)
  exact mul_nonneg (le_max_left _ _) hrate

theorem available_of_idle (hrate : 0 ≤ rate) (htokens : 0 ≤ l.tokens) (hidle : (l.burst : K) ≤ (now - l.last) * rate) :
    l.available rate now = l.burst := by
  unfold available
  refine min_eq_left ?_
  calc (l.burst : K) ≤ (now - l.last) * rate := hidle
    _ ≤ max 0 (now - l.last) * rate := mul_le_mul_of_nonneg_right (le_max_right _ _) hrate
    _ ≤ l.tokens + max 0 (now - l.last) * rate := le_add_of_nonneg_left htokens

theorem allow_of_full (hlimit : l.limit = some rate) (hburst : 1 ≤ l.burst) (hfull : l.available rate now = l.burst) :
    l.allow now = ({ limit := some rate, burst := l.burst, tokens := l.burst - 1, last := now }, true) := by
  have hone : 1 ≤ l.available rate now := by
    rw [hfull]
    exact_mod_cast hburst
  unfold allow
  simp only [hlimit]
  rw [if_pos hone, hfull]

/-- A bucket with time to fill up answers as a new one, and is left in the same state. -/
theorem allow_eq_new (hburst : 1 ≤ burst) (h : l.Used limit burst seen)
    (hidle : ∀ rate, limit = some rate → 0 ≤ rate ∧ (burst : K) ≤ (now - l.last) * rate) :
    l.allow now = (new limit burst).allow now := by
  obtain ⟨hlimit, hb, htokens, hnone, -⟩ := h
  cases limit with
  | none => rw [hnone rfl]
  | some rate =>
    obtain ⟨hrate, hidle⟩ := hidle rate rfl
    subst hb
    rw [allow_of_full hlimit hburst (available_of_idle hrate htokens hidle)]
    exact (allow_of_full (l := new (some rate) l.burst) rfl hburst (available_new hrate)).symm

theorem Used.allow (h : l.Used limit burst seen) (hseen : seen ≤ now) :
    (l.allow now).1.Used limit burst now := by
  obtain ⟨hlimit, hb, htokens, hnone, hlast⟩ := h
  cases limit with
  | none =>
    have hsame : (l.allow now).1 = l := by
      unfold Limiter.allow
      simp only [hlimit]
    rw [hsame]
    exact ⟨hlimit, hb, htokens, hnone, fun h => absurd rfl h⟩
  | some rate =>
    unfold Limiter.allow
    simp only [hlimit]
    split
    · rename_i hone
      exact ⟨rfl, hb, sub_nonneg.2 hone, fun h => absurd h (Option.some_ne_none _), fun _ => le_refl _⟩
    · exact ⟨hlimit, hb, htokens, fun h => absurd h (Option.some_ne_none _), fun h => (hlast h).trans hseen⟩

theorem used_new (hburst : 1 ≤ burst) (hlimit : ∀ rate, limit = some rate → 0 ≤ rate) :
    ((new limit burst).allow now).1.Used limit burst now := by
  have hone : (1 : K) ≤ (burst : K) := by exact_mod_cast hburst
  cases limit with
  | none =>
    refine ⟨rfl, rfl, ?_, fun _ => rfl, fun h => absurd rfl h⟩
    exact zero_le_one.trans hone
  | some rate =>
    rw [allow_of_full (l := new (some rate) burst) rfl hburst (available_new (hlimit rate rfl))]
    exact ⟨rfl, rfl, sub_nonneg.2 hone, fun h => absurd h (Option.some_ne_none _), fun _ => le_refl _⟩

/-! ## What a bucket lets through -/

theorem available_le_add {later : K} (hrate : 0 ≤ rate) (hle : now ≤ later) :
    l.available rate later ≤ l.available rate now + (later - now) * rate := by
  have hgrow : max 0 (later - l.last) ≤ max 0 (now - l.last) + (later - now) := by
    refine max_le ?_ ?_
    · exact add_nonneg (le_max_left _ _) (sub_nonneg.2 hle)
    · rw [← sub_add_sub_cancel' now l.last later]
      exact add_le_add_left (le_max_right _ _) _
  unfold available
  rw [← min_add_add_right]
  refine min_le_min (le_add_of_nonneg_right (mul_nonneg (sub_nonneg.2 hle) hrate)) ?_
  rw [add_assoc, ← add_mul]
  exact add_le_add_right (mul_le_mul_of_nonneg_right hgrow hrate) _

theorem available_allow (hlimit : l.limit = some rate) :
    (if (l.allow now).2 then 1 else 0) + (l.allow now).1.available rate now ≤ l.available rate now := by
  unfold allow
  simp only [hlimit]
  split
  · simp only [available, sub_self, max_self, zero_mul, add_zero, if_true]
    rw [← le_sub_iff_add_le']
    exact min_le_right _ _
  · simp

/-- A bucket with this rate and burst that owes no token. -/
structure Solvent (rate : K) (burst : Int) (l : Limiter K) : Prop where
  limit : l.limit = some rate
  burst : l.burst = burst
  tokens : 0 ≤ l.tokens

theorem solvent_new (hburst : 0 ≤ burst) : (new (some rate) burst).Solvent rate burst :=
  ⟨rfl, rfl, Int.cast_nonneg hburst⟩

theorem Solvent.allow (h : l.Solvent rate burst) (now : K) : (l.allow now).1.Solvent rate burst := by
  obtain ⟨hlimit, hburst, htokens⟩ := h
  unfold Limiter.allow
  simp only [hlimit]
  split
  · exact ⟨rfl, hburst, sub_nonneg.2 ‹_›⟩
  · exact ⟨hlimit, hburst, htokens⟩

theorem Solvent.foldl (h : l.Solvent rate burst) (times : List K) :
    (times.foldl (fun l now => (l.allow now).1) l).Solvent rate burst := by
  induction times generalizing l with
  | nil => exact h
  | cons now times ih => exact ih (h.allow now)

theorem Solvent.available_nonneg (h : l.Solvent rate burst) (hrate : 0 ≤ rate) (hburst : 0 ≤ burst) :
    0 ≤ l.available rate now := by
  refine le_min (by rw [h.burst]; exact_mod_cast hburst) (add_nonneg h.tokens ?_)
  exact mul_nonneg (le_max_left _ _) hrate

/-- The calls between two times are allowed at most as often as there are tokens at
the first of them and new ones until the second. -/
theorem Solvent.count_answers_le (hrate : 0 ≤ rate) (hburst : 0 ≤ burst) {times : List K}
    (hsorted : times.Pairwise (· ≤ ·)) : ∀ {l : Limiter K} {start stop : K}, l.Solvent rate burst → start ≤ stop →
      (∀ t ∈ times, start ≤ t ∧ t ≤ stop) →
      ((l.answers times).count true : K) ≤ l.available rate start + (stop - start) * rate := by
  induction hsorted with
  | nil =>
    intro l start stop hl hle _
    rw [answers, List.count_nil, Nat.cast_zero]
    exact add_nonneg (hl.available_nonneg hrate hburst) (mul_nonneg (sub_nonneg.2 hle) hrate)
  | @cons now times hlater _ ih =>
    intro l start stop hl hle hmem
    obtain ⟨hstart, hstop⟩ := hmem now List.mem_cons_self
    have hrest := ih (hl.allow now) hstop fun t ht => ⟨hlater t ht, (hmem t (List.mem_cons_of_mem _ ht)).2⟩
    have hstep : (if (l.allow now).2 then 1 else 0) + (l.allow now).1.available rate now ≤ l.available rate now :=
      available_allow hl.limit
    have hgrow := available_le_add (l := l) hrate hstart
    have hspan : (now - start) * rate + (stop - now) * rate = (stop - start) * rate := by
      rw [← add_mul, sub_add_sub_cancel']
    rw [answers, List.count_cons, Nat.cast_add, Nat.cast_ite, Nat.cast_one, Nat.cast_zero, add_comm]
    simp only [beq_true]
    calc (if (l.allow now).2 then 1 else 0) + (((l.allow now).1.answers times).count true : K)
      _ ≤ (if (l.allow now).2 then 1 else 0) + ((l.allow now).1.available rate now + (stop - now) * rate) :=
          add_le_add_right hrest _
      _ ≤ l.available rate now + (stop - now) * rate := by
          rw [← add_assoc]
          exact add_le_add_left hstep _
      _ ≤ l.available rate start + (now - start) * rate + (stop - now) * rate := add_le_add_left hgrow _
      _ = l.available rate start + (stop - start) * rate := by rw [add_assoc, hspan]

end Limiter

end GoLib
