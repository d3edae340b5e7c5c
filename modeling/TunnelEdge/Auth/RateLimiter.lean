import Mathlib.Data.Rat.Cast.Order
import TunnelEdge.Domain
import TunnelEdge.Lib.GoMap
import TunnelEdge.Lib.TokenBucket
/-!
# Rate limiter per key

`IPRateLimiter` keeps one token bucket per key and forgets the ones that nobody has
asked for in five minutes. A key that comes back gets a new bucket, which is full.
Nobody can tell, because five minutes are enough to fill any bucket that the callers make.
-/

open GoLib

namespace TunnelEdge.Auth

def minute : Duration := 60 * second

/-- `rate.Every`, in events per nanosecond. -/
def every (interval : Duration) : Option ℚ := if interval ≤ 0 then none else some (1 / interval)

structure RateLimiterEntry where
  limiter : Limiter ℚ
  lastSeen : Time

structure IPRateLimiter where
  limiters : GoMap String RateLimiterEntry
  r : Option ℚ
  burst : Int
  cleanupInterval : Duration
  lastCleanup : Time

def newIPRateLimiter (rpm burst : Int) (now : Time) : IPRateLimiter :=
  let rpm := if rpm ≤ 0 then 60 else rpm
  let burst := if burst ≤ 0 then rpm else burst
  { limiters := ∅, r := every (minute.tdiv rpm), burst, cleanupInterval := 5 * minute, lastCleanup := now }

namespace IPRateLimiter

def maybeCleanup (l : IPRateLimiter) (now : Time) : IPRateLimiter :=
  if now - l.lastCleanup < l.cleanupInterval then l
  else
    let cutoff := now - l.cleanupInterval
    { l with
      limiters := GoMap.filter (fun _ entry => !decide (entry.lastSeen < cutoff)) l.limiters
      lastCleanup := now }

/-- The bucket a limiter has for a key, made on the spot when there is none. -/
def bucket (l : IPRateLimiter) (key : String) : Limiter ℚ :=
  match l.limiters.lookup key with
  | some entry => entry.limiter
  | none => Limiter.new l.r l.burst

/-- `Allow` after its call of `maybeCleanup`. -/
def take (l : IPRateLimiter) (key : String) (now : Time) : IPRateLimiter × Bool :=
  let answer := (l.bucket key).allow (now : ℚ)
  ({ l with limiters := l.limiters.insert key { limiter := answer.1, lastSeen := now } }, answer.2)

def allow (l : IPRateLimiter) (key : String) (now : Time) : IPRateLimiter × Bool := (l.maybeCleanup now).take key now

end IPRateLimiter

/-- The answers to a sequence of calls, by a limiter that works as `ask` says. -/
def answers (ask : IPRateLimiter → String → Time → IPRateLimiter × Bool) :
    IPRateLimiter → List (String × Time) → List Bool
  | _, [] => []
  | l, (key, now) :: calls => (ask l key now).2 :: answers ask (ask l key now).1 calls

/-! ## Five minutes fill a bucket -/

/-- A bucket that is full after five minutes, however many tokens it had. -/
structure Refills (r : Option ℚ) (burst : Int) : Prop where
  one : 1 ≤ burst
  rate : ∀ rate, r = some rate → 0 ≤ rate ∧ (burst : ℚ) ≤ ((5 * minute : Duration) : ℚ) * rate

/-- The division rounds the interval down, so the rate is at least `rpm` a minute. -/
theorem refills_every {rpm : Int} (h : 0 < rpm) : Refills (every (minute.tdiv rpm)) rpm := by
  refine ⟨h, fun rate hrate => ?_⟩
  unfold every at hrate
  split at hrate
  · cases hrate
  · rename_i hpos
    cases hrate
    have hinterval : (0 : ℚ) < (minute.tdiv rpm : Duration) := by exact_mod_cast not_le.1 hpos
    have hround : rpm * minute.tdiv rpm ≤ 5 * minute := by
      have hle : rpm * minute.tdiv rpm ≤ minute := by
        rw [Int.tdiv_eq_ediv_of_nonneg (by decide)]
        exact Int.mul_ediv_self_le (ne_of_gt h)
      exact hle.trans (by decide)
    refine ⟨one_div_nonneg.2 hinterval.le, ?_⟩
    rw [mul_one_div, le_div_iff₀ hinterval]
    exact_mod_cast hround

/-! ## The two limiters side by side -/

/-- What a limiter that prunes has for a key, next to one that does not: the same entry,
or none where the other one has not been asked for five minutes. -/
def Forgot (r : Option ℚ) (burst : Int) (now : Time) : Option RateLimiterEntry → Option RateLimiterEntry → Prop
  | pruned, none => pruned = none
  | pruned, some entry =>
    entry.limiter.Used r burst (entry.lastSeen : ℚ) ∧ entry.lastSeen ≤ now ∧
      (pruned = some entry ∨ pruned = none ∧ entry.lastSeen + 5 * minute ≤ now)

structure Sim (r : Option ℚ) (burst : Int) (now : Time) (pruned full : IPRateLimiter) : Prop where
  r_pruned : pruned.r = r
  r_full : full.r = r
  burst_pruned : pruned.burst = burst
  burst_full : full.burst = burst
  interval : pruned.cleanupInterval = 5 * minute
  forgot : ∀ key, Forgot r burst now (pruned.limiters.lookup key) (full.limiters.lookup key)

variable {r : Option ℚ} {burst : Int} {now later : Time} {pruned full : IPRateLimiter} {key : String}

theorem Forgot.mono {p f : Option RateLimiterEntry} (h : Forgot r burst now p f) (hle : now ≤ later) :
    Forgot r burst later p f := by
  cases f with
  | none => exact h
  | some entry =>
    obtain ⟨hused, hseen, hsame | ⟨hgone, hidle⟩⟩ := h
    · exact ⟨hused, hseen.trans hle, .inl hsame⟩
    · exact ⟨hused, hseen.trans hle, .inr ⟨hgone, hidle.trans hle⟩⟩

theorem Sim.mono (h : Sim r burst now pruned full) (hle : now ≤ later) : Sim r burst later pruned full :=
  { h with forgot := fun key => (h.forgot key).mono hle }

theorem Sim.maybeCleanup (h : Sim r burst now pruned full) : Sim r burst now (pruned.maybeCleanup now) full := by
  unfold IPRateLimiter.maybeCleanup
  split
  · exact h
  · refine { h with forgot := fun key => ?_ }
    have hkey := h.forgot key
    rw [GoMap.lookup_filter, h.interval]
    cases hf : full.limiters.lookup key with
    | none =>
      rw [hf] at hkey
      rw [show pruned.limiters.lookup key = none from hkey]
      rfl
    | some entry =>
      rw [hf] at hkey
      obtain ⟨hused, hseen, hsame | ⟨hgone, hidle⟩⟩ := hkey
      · rw [hsame]
        by_cases hold : entry.lastSeen + 5 * minute < now
        · exact ⟨hused, hseen, .inr ⟨by simp [hold], hold.le⟩⟩
        · exact ⟨hused, hseen, .inl (by simp [not_lt.1 hold])⟩
      · rw [hgone]
        exact ⟨hused, hseen, .inr ⟨rfl, hidle⟩⟩

theorem Sim.bucket (h : Sim r burst now pruned full) (hfill : Refills r burst) (key : String) :
    (pruned.bucket key).allow (now : ℚ) = (full.bucket key).allow (now : ℚ) ∧
      ((full.bucket key).allow (now : ℚ)).1.Used r burst (now : ℚ) := by
  have hkey := h.forgot key
  unfold IPRateLimiter.bucket
  cases hf : full.limiters.lookup key with
  | none =>
    rw [hf] at hkey
    rw [show pruned.limiters.lookup key = none from hkey]
    simp only [h.r_pruned, h.r_full, h.burst_pruned, h.burst_full]
    exact ⟨trivial, Limiter.used_new hfill.one fun rate hr => (hfill.rate rate hr).1⟩
  | some entry =>
    rw [hf] at hkey
    obtain ⟨hused, hseen, hlook⟩ := hkey
    have hnow : (entry.lastSeen : ℚ) ≤ (now : ℚ) := by exact_mod_cast hseen
    refine ⟨?_, hused.allow hnow⟩
    obtain hsame | ⟨hgone, hidle⟩ := hlook
    · rw [hsame]
    · rw [hgone]
      simp only [h.r_pruned, h.burst_pruned]
      refine (Limiter.allow_eq_new hfill.one hused fun rate hr => ?_).symm
      obtain ⟨hrate, hfull⟩ := hfill.rate rate hr
      refine ⟨hrate, hfull.trans (mul_le_mul_of_nonneg_right ?_ hrate)⟩
      have hlast : entry.limiter.last ≤ (entry.lastSeen : ℚ) := hused.2.2.2.2 (by rw [hr]; exact Option.some_ne_none _)
      have htime : ((5 * minute : Duration) : ℚ) ≤ (now : ℚ) - entry.lastSeen := by
        rw [le_sub_iff_add_le, add_comm]
        exact_mod_cast hidle
      exact htime.trans (sub_le_sub_left hlast _)

theorem Sim.take (h : Sim r burst now pruned full) (hfill : Refills r burst) (key : String) :
    Sim r burst now (pruned.take key now).1 (full.take key now).1 ∧
      (pruned.take key now).2 = (full.take key now).2 := by
  obtain ⟨heq, hused⟩ := h.bucket hfill key
  refine ⟨{ h with forgot := fun key' => ?_ }, congrArg (·.2) heq⟩
  change Forgot r burst now ((pruned.limiters.insert key ⟨((pruned.bucket key).allow (now : ℚ)).1, now⟩).lookup key')
    ((full.limiters.insert key ⟨((full.bucket key).allow (now : ℚ)).1, now⟩).lookup key')
  rw [GoMap.lookup_insert_ite, GoMap.lookup_insert_ite, heq]
  split
  · exact ⟨hused, le_refl _, .inl rfl⟩
  · exact h.forgot key'

theorem Sim.answers (hfill : Refills r burst) {calls : List (String × Time)}
    (htimes : calls.Pairwise fun a b => a.2 ≤ b.2) :
    ∀ (now : Time) {pruned full : IPRateLimiter}, Sim r burst now pruned full → (∀ call ∈ calls, now ≤ call.2) →
      answers IPRateLimiter.allow pruned calls = answers IPRateLimiter.take full calls := by
  induction htimes with
  | nil =>
    intro now pruned full _ _
    rfl
  | @cons call calls hlater htimes ih =>
    intro now pruned full h hnow
    have hnow : now ≤ call.2 := hnow call List.mem_cons_self
    obtain ⟨hsim, hans⟩ := (h.mono hnow).maybeCleanup.take hfill call.1
    change (pruned.allow call.1 call.2).2 :: _ = (full.take call.1 call.2).2 :: _
    exact congrArg₂ List.cons hans (ih _ hsim hlater)

/-- Pruning is not observable: the answers are those of a limiter that never cleans up. -/
theorem pruning_unobservable (rpm : Int) (hrpm : 0 < rpm) (start : Time) (calls : List (String × Time))
    (htimes : calls.Pairwise fun a b => a.2 ≤ b.2) :
    answers IPRateLimiter.allow (newIPRateLimiter rpm rpm start) calls =
      answers IPRateLimiter.take (newIPRateLimiter rpm rpm start) calls := by
  have hpos : ¬rpm ≤ 0 := not_le.2 hrpm
  cases calls with
  | nil => rfl
  | cons call calls =>
    refine Sim.answers (refills_every hrpm) htimes call.2 ?_ fun c hc => ?_
    · unfold newIPRateLimiter
      simp only [if_neg hpos]
      exact ⟨rfl, rfl, rfl, rfl, rfl, fun key => rfl⟩
    · obtain rfl | hc := List.mem_cons.1 hc
      · exact le_refl _
      · exact (List.pairwise_cons.1 htimes).1 c hc

/-- A key that spends its one token, is refused, and is forgotten before it comes back. -/
def comesBack : List (String × Time) :=
  [("10.0.0.1", 0), ("10.0.0.1", second), ("10.0.0.2", 10 * minute), ("10.0.0.1", 10 * minute)]

theorem pruning_unobservable_comesBack :
    answers IPRateLimiter.allow (newIPRateLimiter 1 1 0) comesBack = [true, false, true, true] ∧
      answers IPRateLimiter.allow (newIPRateLimiter 1 1 0) comesBack =
        answers IPRateLimiter.take (newIPRateLimiter 1 1 0) comesBack :=
  ⟨by decide +kernel, pruning_unobservable 1 (by decide) 0 comesBack (by decide)⟩

end TunnelEdge.Auth
