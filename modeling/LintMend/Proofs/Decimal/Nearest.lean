import Mathlib.Tactic.Linarith
import Mathlib.Tactic.Ring
import LintMend.Decimal.Fixed

/-!
# Rounding to doubles

Rounding a whole number to a double adds less than one part in `2 ^ 53` to it,
and nothing to a number of 53 bits. So a product of a few digits and a power of
ten has its double, if it stays far enough below the largest one.
-/

namespace LintMend.Decimal

theorem twoTo_pos (n : Nat) : 0 < twoTo n :=
  Nat.pow_pos (by decide)

theorem twoTo_le {low high : Nat} (ordered : low ≤ high) :
    twoTo low ≤ twoTo high :=
  Nat.pow_le_pow_right (by decide) ordered

theorem tenTo_pos (n : Nat) : 0 < tenTo n :=
  Nat.pow_pos (by decide)

theorem tenTo_le {low high : Nat} (ordered : low ≤ high) :
    tenTo low ≤ tenTo high :=
  Nat.pow_le_pow_right (by decide) ordered

theorem roundDiv_bound (numerator : Nat) {denominator : Nat}
    (positive : 0 < denominator) :
    2 * (roundDiv numerator denominator * denominator) ≤
      2 * numerator + denominator := by
  have split := Nat.div_add_mod numerator denominator
  have small := Nat.mod_lt numerator positive
  have whole : numerator / denominator * denominator =
      denominator * (numerator / denominator) :=
    Nat.mul_comm _ _
  unfold roundDiv
  simp only
  split
  next => omega
  next large =>
    rw [Nat.add_mul, Nat.one_mul]
    omega

/-- The distance of the doubles around a number. -/
theorem step_bound {n : Nat} (positive : n ≠ 0) :
    twoTo (n.log2 - 52) = 1 ∨ twoTo (n.log2 - 52) * 2 ^ 52 ≤ n := by
  rcases Nat.lt_or_ge n.log2 53 with small | large
  · left
    rw [Nat.sub_eq_zero_of_le (by omega)]
    rfl
  · right
    have low : 2 ^ n.log2 ≤ n := (Nat.le_log2 positive).mp le_rfl
    calc twoTo (n.log2 - 52) * 2 ^ 52 = 2 ^ (n.log2 - 52 + 52) :=
      (Nat.pow_add 2 _ _).symm
      _ = 2 ^ n.log2 := by rw [Nat.sub_add_cancel (by omega)]
      _ ≤ n := low

theorem nearest_of_lt {n : Nat} (small : n < 2 ^ 53) : nearest n = n := by
  have step : n.log2 - 52 = 0 := by
    rcases Nat.eq_zero_or_pos n with rfl | positive
    · rfl
    · have := (Nat.log2_lt (by omega)).mpr small
      omega
  rw [nearest, step]
  simp [twoTo, roundDiv, Nat.mod_one]

theorem nearest_bound (n : Nat) : nearest n * 2 ^ 53 ≤ n * (2 ^ 53 + 1) := by
  rcases Nat.eq_zero_or_pos n with rfl | positive
  · rw [nearest_of_lt (by decide)]
    simp
  · have rounded := roundDiv_bound n (twoTo_pos (n.log2 - 52))
    have distance := step_bound (by omega : n ≠ 0)
    rw [nearest]
    generalize twoTo (n.log2 - 52) = step at *
    rcases distance with rfl | wide
    · rw [roundDiv] at *
      omega
    · linarith

/-! ## Products -/

variable {digits exponent : Nat}

/-- Rounding both factors adds little to a product. -/
theorem product_bound :
    nearest digits * nearest (tenTo exponent) * 2 ^ 106 ≤
      digits * tenTo exponent * (2 ^ 53 + 1) ^ 2 := by
  have both :=
    Nat.mul_le_mul (nearest_bound digits) (nearest_bound (tenTo exponent))
  calc nearest digits * nearest (tenTo exponent) * 2 ^ 106
      = nearest digits * 2 ^ 53 * (nearest (tenTo exponent) * 2 ^ 53) := by ring
    _ ≤ digits * (2 ^ 53 + 1) * (tenTo exponent * (2 ^ 53 + 1)) := both
    _ = digits * tenTo exponent * (2 ^ 53 + 1) ^ 2 := by ring

theorem product_lt_of_moderate
    (moderate : digits * tenTo exponent ≤ tenTo 308) :
    nearest digits * nearest (tenTo exponent) < doubleLimit := by
  have bound := @product_bound digits exponent
  have scaled := Nat.mul_le_mul_right ((2 ^ 53 + 1) ^ 2) moderate
  have room : tenTo 308 * (2 ^ 53 + 1) ^ 2 < doubleLimit * 2 ^ 106 := by
    decide +kernel
  exact Nat.lt_of_mul_lt_mul_right
    (Nat.lt_of_le_of_lt (bound.trans scaled) room)

/-- The largest values, but for the largest double: their digits are few beside
their powers of ten, and they keep a distance from the limit. -/
theorem product_lt_of_large (few : 292 ≤ exponent)
    (large : digits * tenTo exponent ≤ twoTo 1024 - 3 * twoTo 970) :
    nearest digits * nearest (tenTo exponent) < doubleLimit := by
  rcases Nat.eq_or_lt_of_le few with least | fewer
  · -- two digits more than a double keeps; rounding adds at most one
    have low : digits ≤ 17976931348623156 := by
      have room : twoTo 1024 - 3 * twoTo 970 <
          (17976931348623156 + 1) * tenTo exponent := by
        rw [← least]
        decide +kernel
      exact Nat.le_of_lt_succ
        (Nat.lt_of_mul_lt_mul_right (Nat.lt_of_le_of_lt large room))
    have near : nearest digits ≤ 17976931348623156 + 1 := by
      have := nearest_bound digits
      omega
    have room : (17976931348623156 + 1) * nearest (tenTo exponent) <
        doubleLimit := by
      rw [← least]
      decide +kernel
    exact Nat.lt_of_le_of_lt (Nat.mul_le_mul_right _ near) room
  · have power : tenTo 293 ≤ tenTo exponent := tenTo_le fewer
    have small : digits < 2 ^ 53 := by
      have room : twoTo 1024 - 3 * twoTo 970 < 2 ^ 53 * tenTo 293 := by
        decide +kernel
      generalize tenTo 293 = unit at power room
      exact Nat.lt_of_mul_lt_mul_right (Nat.lt_of_le_of_lt
        ((Nat.mul_le_mul_left digits power).trans large) room)
    rw [nearest_of_lt small]
    have room : (twoTo 1024 - 3 * twoTo 970) * (2 ^ 53 + 1) <
        doubleLimit * 2 ^ 53 := by
      decide +kernel
    refine Nat.lt_of_mul_lt_mul_right (Nat.lt_of_le_of_lt ?_ room)
    calc digits * nearest (tenTo exponent) * 2 ^ 53
        = digits * (nearest (tenTo exponent) * 2 ^ 53) := Nat.mul_assoc _ _ _
      _ ≤ digits * (tenTo exponent * (2 ^ 53 + 1)) :=
        Nat.mul_le_mul_left _ (nearest_bound (tenTo exponent))
      _ = digits * tenTo exponent * (2 ^ 53 + 1) := (Nat.mul_assoc _ _ _).symm
      _ ≤ (twoTo 1024 - 3 * twoTo 970) * (2 ^ 53 + 1) :=
        Nat.mul_le_mul_right _ large

end LintMend.Decimal
