import Mathlib.Algebra.Order.Ring.Cast
import TunnelEdge.Auth.RateLimiter
/-!
# A bucket of its own for every key

`IPRateLimiter` keeps its buckets in one map and drops some of them now and then. For
its callers it is a family of token buckets, one for each key, none of which knows of
the others: what a key is answered depends on the calls with that key and on nothing
else. So a peer cannot use up the tokens of another one, and in any stretch of time a
key gets through as often as its burst and its rate say.
-/

open GoLib

namespace TunnelEdge.Auth

def answersTo (key : String) (calls : List (String × Time)) (answers : List Bool) : List Bool :=
  ((calls.zip answers).filter fun c => c.1.1 = key).map (·.2)

def callsOf (key : String) (calls : List (String × Time)) : List ℚ :=
  (calls.filter fun c => c.1 = key).map fun c => (c.2 : ℚ)

theorem answersTo_cons (key : String) (call : String × Time) (calls : List (String × Time)) (a : Bool)
    (as : List Bool) :
    answersTo key (call :: calls) (a :: as) =
      if call.1 = key then a :: answersTo key calls as else answersTo key calls as := by
  by_cases hk : call.1 = key <;> simp [answersTo, hk]

theorem callsOf_cons (key : String) (call : String × Time) (calls : List (String × Time)) :
    callsOf key (call :: calls) = if call.1 = key then (call.2 : ℚ) :: callsOf key calls else callsOf key calls := by
  by_cases hk : call.1 = key <;> simp [callsOf, hk]

namespace IPRateLimiter

theorem bucket_take (l : IPRateLimiter) (key key' : String) (now : Time) :
    (l.take key now).1.bucket key' = if key' = key then ((l.bucket key).allow (now : ℚ)).1 else l.bucket key' := by
  by_cases hk : key' = key <;> simp [bucket, take, hk]

theorem answersTo_take (l : IPRateLimiter) (key : String) (calls : List (String × Time)) :
    answersTo key calls (answers take l calls) = (l.bucket key).answers (callsOf key calls) := by
  induction calls generalizing l with
  | nil => rfl
  | cons call calls ih =>
    rw [answers, answersTo_cons, callsOf_cons, ih, bucket_take]
    by_cases hk : call.1 = key
    · subst hk
      simp only [if_true]
      rfl
    · simp only [hk, Ne.symm hk, if_false]

end IPRateLimiter

variable {rpm : Int} {calls before window : List (String × Time)}

theorem newIPRateLimiter_eq (hrpm : 0 < rpm) (start : Time) :
    newIPRateLimiter rpm rpm start =
      { limiters := ∅, r := every (minute.tdiv rpm), burst := rpm, cleanupInterval := 5 * minute,
        lastCleanup := start } := by
  unfold newIPRateLimiter
  simp only [if_neg (not_le.2 hrpm)]

/-- Pruning changes none of the answers, so they are those of the bucket. -/
theorem answersTo_new (hrpm : 0 < rpm) (start : Time) (htimes : calls.Pairwise fun a b => a.2 ≤ b.2) (key : String) :
    answersTo key calls (answers IPRateLimiter.allow (newIPRateLimiter rpm rpm start) calls) =
      (Limiter.new (every (minute.tdiv rpm)) rpm).answers (callsOf key calls) := by
  rw [newIPRateLimiter_eq hrpm]
  cases calls with
  | nil => rfl
  | cons call calls =>
    have hfirst : ∀ c ∈ call :: calls, call.2 ≤ c.2 := by
      intro c hc
      rcases List.mem_cons.1 hc with rfl | hc
      · exact le_refl _
      · exact (List.pairwise_cons.1 htimes).1 c hc
    have hsim (l : IPRateLimiter) (hr : l.r = every (minute.tdiv rpm)) (hb : l.burst = rpm)
        (hc : l.cleanupInterval = 5 * minute) (hl : l.limiters = ∅) :
        Sim (every (minute.tdiv rpm)) rpm call.2 l l := ⟨hr, hr, hb, hb, hc, fun key => by rw [hl]; rfl⟩
    rw [Sim.answers (refills_every hrpm) htimes call.2 (hsim _ rfl rfl rfl rfl) hfirst]
    exact IPRateLimiter.answersTo_take _ key _

def asked (l : IPRateLimiter) (calls : List (String × Time)) : IPRateLimiter :=
  calls.foldl (fun l call => (l.allow call.1 call.2).1) l

theorem answersTo_append (key : String) (l : IPRateLimiter) (before window : List (String × Time)) :
    answersTo key (before ++ window) (answers IPRateLimiter.allow l (before ++ window)) =
      answersTo key before (answers IPRateLimiter.allow l before) ++
        answersTo key window (answers IPRateLimiter.allow (asked l before) window) := by
  induction before generalizing l with
  | nil => rfl
  | cons call before ih =>
    simp only [List.cons_append, answers, answersTo_cons, ih]
    split <;> rfl

theorem callsOf_append (key : String) (before window : List (String × Time)) :
    callsOf key (before ++ window) = callsOf key before ++ callsOf key window := by
  simp [callsOf]

theorem answersTo_asked (hrpm : 0 < rpm) (start : Time) (htimes : (before ++ window).Pairwise fun a b => a.2 ≤ b.2)
    (key : String) :
    answersTo key window (answers IPRateLimiter.allow (asked (newIPRateLimiter rpm rpm start) before) window) =
      ((callsOf key before).foldl (fun l now => (l.allow now).1)
        (Limiter.new (every (minute.tdiv rpm)) rpm)).answers (callsOf key window) := by
  have hall := answersTo_new hrpm start htimes key
  rw [answersTo_append, callsOf_append, Limiter.answers_append,
    answersTo_new hrpm start (List.pairwise_append.1 htimes).1 key] at hall
  exact List.append_cancel_left hall

theorem answersTo_own {key : String} (h : ∀ c ∈ calls, c.1 = key) (l : IPRateLimiter) :
    answersTo key calls (answers IPRateLimiter.allow l calls) = answers IPRateLimiter.allow l calls := by
  induction calls generalizing l with
  | nil => rfl
  | cons call calls ih =>
    obtain ⟨hk, hrest⟩ := List.forall_mem_cons.1 h
    rw [answers, answersTo_cons, if_pos hk, ih hrest]

/-- A key is answered as if nobody else had called, whatever is pruned in between. -/
theorem keys_do_not_interfere (rpm : Int) (hrpm : 0 < rpm) (start : Time) {calls : List (String × Time)}
    (htimes : calls.Pairwise fun a b => a.2 ≤ b.2) (key : String) :
    answersTo key calls (answers IPRateLimiter.allow (newIPRateLimiter rpm rpm start) calls) =
      answers IPRateLimiter.allow (newIPRateLimiter rpm rpm start) (calls.filter fun c => c.1 = key) := by
  have hown : ∀ c ∈ calls.filter fun c => c.1 = key, c.1 = key := fun c hc =>
    of_decide_eq_true (List.mem_filter.1 hc).2
  rw [← answersTo_own hown, answersTo_new hrpm start htimes, answersTo_new hrpm start (htimes.filter _)]
  simp [callsOf]

def inTurns : List (String × Time) := [("a", 0), ("b", 0), ("a", 1), ("b", 2), ("a", 3)]

/-- The second key is refused only after its own calls. -/
theorem keys_do_not_interfere_busy :
    answersTo "b" inTurns (answers IPRateLimiter.allow (newIPRateLimiter 1 1 0) inTurns) = [true, false] ∧
      answersTo "b" inTurns (answers IPRateLimiter.allow (newIPRateLimiter 1 1 0) inTurns) =
        answers IPRateLimiter.allow (newIPRateLimiter 1 1 0) (inTurns.filter fun c => c.1 = "b") :=
  ⟨by decide +kernel, keys_do_not_interfere 1 (by decide) 0 (by decide) "b"⟩

theorem sorted_callsOf (key : String) (htimes : calls.Pairwise fun a b => a.2 ≤ b.2) :
    (callsOf key calls).Pairwise (· ≤ ·) := by
  refine List.pairwise_map.2 ((htimes.filter _).imp fun h => ?_)
  exact_mod_cast h

theorem every_interval (hrpm : 0 < rpm) (hmax : rpm ≤ minute) :
    every (minute.tdiv rpm) = some (1 / ((minute.tdiv rpm : Duration) : ℚ)) ∧
      (0 : ℚ) ≤ 1 / (minute.tdiv rpm : Duration) := by
  have hinterval : 0 < minute.tdiv rpm := by
    rw [Int.tdiv_eq_ediv_of_nonneg (by decide)]
    exact Int.le_ediv_of_mul_le hrpm (by simpa using hmax)
  exact ⟨if_neg (not_le.2 hinterval), one_div_nonneg.2 (Int.cast_nonneg hinterval.le)⟩

/-- From `start` to `stop` a key gets through at most `rpm` times, and once more for every `minute / rpm`. -/
theorem allowed_in_window (rpm : Int) (hrpm : 0 < rpm) (hmax : rpm ≤ minute) (created : Time)
    {before window : List (String × Time)} (htimes : (before ++ window).Pairwise fun a b => a.2 ≤ b.2)
    {start stop : Time} (hle : start ≤ stop) (hwindow : ∀ c ∈ window, start ≤ c.2 ∧ c.2 ≤ stop) (key : String) :
    ((answersTo key window
      (answers IPRateLimiter.allow (asked (newIPRateLimiter rpm rpm created) before) window)).count true : ℚ) ≤
      rpm + ((stop - start : Duration) : ℚ) / (minute.tdiv rpm : Duration) := by
  obtain ⟨hevery, hrate⟩ := every_interval hrpm hmax
  have hnew : (Limiter.new (every (minute.tdiv rpm)) rpm).Solvent (1 / ((minute.tdiv rpm : Duration) : ℚ)) rpm := by
    rw [hevery]
    exact Limiter.solvent_new hrpm.le
  have hbucket := hnew.foldl (callsOf key before)
  have htimes' : ∀ t ∈ callsOf key window, (start : ℚ) ≤ t ∧ t ≤ (stop : ℚ) := by
    intro t ht
    obtain ⟨c, hc, rfl⟩ := List.mem_map.1 ht
    obtain ⟨hstart, hstop⟩ := hwindow c (List.mem_filter.1 hc).1
    exact ⟨by exact_mod_cast hstart, by exact_mod_cast hstop⟩
  have hcount := Limiter.Solvent.count_answers_le hrate hrpm.le
    (sorted_callsOf key (List.pairwise_append.1 htimes).2.1) hbucket (by exact_mod_cast hle) htimes'
  rw [answersTo_asked hrpm created htimes]
  refine hcount.trans (add_le_add ?_ (le_of_eq ?_))
  · exact (min_le_left _ _).trans (le_of_eq (by rw [hbucket.burst]))
  · rw [mul_one_div, Int.cast_sub]

/-- Two a minute: from the 31st second to the 61st there may be three. -/
def twoAMinute : List (String × Time) :=
  [("a", 31 * second), ("b", 31 * second), ("a", 31 * second), ("a", 32 * second), ("a", 61 * second)]

theorem allowed_in_window_twoAMinute :
    answersTo "a" twoAMinute (answers IPRateLimiter.allow (asked (newIPRateLimiter 2 2 0) [("a", 0)]) twoAMinute) =
        [true, true, false, true] ∧
      ((answersTo "a" twoAMinute
        (answers IPRateLimiter.allow (asked (newIPRateLimiter 2 2 0) [("a", 0)]) twoAMinute)).count true : ℚ) ≤
        (2 : Int) + ((61 * second - 31 * second : Duration) : ℚ) / (minute.tdiv 2 : Duration) :=
  ⟨by decide +kernel, allowed_in_window 2 (by decide) (by decide) 0 (by decide) (by decide) (by decide) "a"⟩

end TunnelEdge.Auth
