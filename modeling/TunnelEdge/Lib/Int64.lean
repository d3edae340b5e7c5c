import Mathlib.Algebra.Group.Int.Defs
import Mathlib.Algebra.Group.Nat.Defs
import Mathlib.Data.Int.Init
import Mathlib.Data.Nat.Log
/-!
# 64-bit arithmetic

Go's `int64` as integers: an operation computes the exact result and wraps it into the
range, so it overflows when the exact result is not in the range. A conversion to
`float64` keeps 53 significant bits and rounds the rest to nearest, ties to even.
-/

namespace GoLib

def InInt64 (x : Int) : Prop := -9223372036854775808 ≤ x ∧ x < 9223372036854775808

instance (x : Int) : Decidable (InInt64 x) := inferInstanceAs (Decidable (_ ∧ _))

/-- The result of an operation whose exact result is `x`. -/
def int64 (x : Int) : Int := (x + 9223372036854775808) % 18446744073709551616 - 9223372036854775808

theorem int64_of_inInt64 {x : Int} (h : InInt64 x) : int64 x = x := by
  unfold InInt64 at h
  unfold int64
  omega

/-- The nearest number with 53 significant bits. -/
def round53 (n : Nat) : Nat :=
  if n < 2 ^ 53 then n
  else
    let e := n.log2 - 52
    let q := n / 2 ^ e
    let r := n % 2 ^ e
    (if 2 * r > 2 ^ e ∨ (2 * r = 2 ^ e ∧ q % 2 = 1) then q + 1 else q) * 2 ^ e

/-- `float64(x)`; the floats of this size are integers. -/
def float64 (x : Int) : Int := if x < 0 then -(round53 x.natAbs : Int) else round53 x.natAbs

theorem round53_of_lt {n : Nat} (h : n < 2 ^ 53) : round53 n = n := if_pos h

theorem le_round53 {n : Nat} (h : 2 ^ 53 ≤ n) : 2 ^ 53 ≤ round53 n := by
  have hn : n ≠ 0 := by
    rintro rfl
    exact absurd h (by decide)
  have hlog : 53 ≤ n.log2 := (Nat.le_log2 hn).2 h
  have hpow : 2 ^ 52 * 2 ^ (n.log2 - 52) = 2 ^ n.log2 := by
    rw [← Nat.pow_add]
    congr 1
    omega
  have hq : 2 ^ 52 ≤ n / 2 ^ (n.log2 - 52) := by
    rw [Nat.le_div_iff_mul_le (Nat.two_pow_pos _), hpow]
    exact Nat.log2_self_le hn
  have hle : 2 ^ 53 ≤ n / 2 ^ (n.log2 - 52) * 2 ^ (n.log2 - 52) :=
    calc 2 ^ 53 ≤ 2 ^ n.log2 := Nat.pow_le_pow_right (by decide) hlog
      _ = 2 ^ 52 * 2 ^ (n.log2 - 52) := hpow.symm
      _ ≤ _ := Nat.mul_le_mul_right _ hq
  unfold round53
  rw [if_neg (Nat.not_lt.2 h)]
  dsimp only
  split
  · exact hle.trans (Nat.mul_le_mul_right _ (Nat.le_succ _))
  · exact hle

theorem min_float64 {x cap : Int} (hx : 0 ≤ x) (hcap : cap ≤ 2 ^ 53) : min (float64 x) cap = min x cap := by
  unfold float64
  rw [if_neg (Int.not_lt.2 hx)]
  by_cases h : x.natAbs < 2 ^ 53
  · rw [round53_of_lt h, Int.natAbs_of_nonneg hx]
  · have hround : 2 ^ 53 ≤ round53 x.natAbs := le_round53 (Nat.not_lt.1 h)
    have hround : (2 ^ 53 : Int) ≤ round53 x.natAbs := by exact_mod_cast hround
    have hbig : (2 ^ 53 : Int) ≤ x := by
      have hnat := Nat.not_lt.1 h
      have hcast : ((2 ^ 53 : Nat) : Int) ≤ x.natAbs := by exact_mod_cast hnat
      rw [Int.natAbs_of_nonneg hx] at hcast
      exact_mod_cast hcast
    rw [min_eq_right (hcap.trans hround), min_eq_right (hcap.trans hbig)]

end GoLib
