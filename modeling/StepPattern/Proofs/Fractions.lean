/-
# StepPattern.Proofs.Fractions -- random fractions and what they are compared with

A random fraction has 53 bits and is less than 1, so it is a double.  As rounding keeps
the order, no fraction lies between a number and its rounding
(`Twister.fraction_lt_of_lt_nearest`), and a comparison with a rounded number is one
with the number itself, be it rounded once or more often (`Twister.NoneBetween`).
-/
import StepPattern.Proofs.Nearest
import StepPattern.Random.Draw

namespace StepPattern

set_option autoImplicit false

namespace Twister

open Double

/-! ## Fractions -/

/-- A random fraction is less than 1. -/
theorem numerator_lt (g : Twister) : g.numerator.1 < denominator := by
  have high : (g.next.1 >>> 5).toNat < 134217728 := by
    have bits : 2 ^ (UInt32.toNat 5 % 32) = 32 := rfl
    rw [UInt32.toNat_shiftRight, Nat.shiftRight_eq_div_pow, bits]
    have := g.next.1.toNat_lt
    omega
  have low : (g.next.2.next.1 >>> 6).toNat < 67108864 := by
    have bits : 2 ^ (UInt32.toNat 6 % 32) = 64 := rfl
    rw [UInt32.toNat_shiftRight, Nat.shiftRight_eq_div_pow, bits]
    have := g.next.2.next.1.toNat_lt
    omega
  show (g.next.1 >>> 5).toNat * 67108864 + (g.next.2.next.1 >>> 6).toNat < 9007199254740992
  omega

variable {numerator : Nat}

theorem fraction_nonneg (numerator : Nat) : (0 : Rat) ≤ numerator / denominator := by
  positivity

theorem fraction_lt_one (below : numerator < denominator) : (numerator : Rat) / denominator < 1 := by
  have positive : (0 : Rat) < denominator := by norm_num [denominator]
  rw [div_lt_one positive]
  exact_mod_cast below

/-- A random fraction is a double. -/
theorem nearest_fraction (below : numerator < denominator) :
    nearest ((numerator : Rat) / denominator) = numerator / denominator := by
  rcases (fraction_nonneg numerator).eq_or_lt with zero | positive
  · rw [← zero, nearest_zero]
  have bits : (denominator : Rat) = 2 ^ (53 : Int) := by norm_num [denominator]
  have exponent : binaryExponent (numerator / denominator) < 0 := by
    have low := two_zpow_binaryExponent_le positive.ne'
    rw [abs_of_pos positive] at low
    have small := low.trans_lt (fraction_lt_one below)
    rwa [← zpow_zero (2 : Rat), zpow_lt_zpow_iff_right₀ one_lt_two] at small
  have coarse : unitExponent (numerator / denominator) ≤ -53 := by
    unfold unitExponent
    omega
  refine nearest_multiple (m := numerator) ?_ coarse
  rw [bits, zpow_neg, Int.cast_natCast, div_eq_mul_inv]

/-- No random fraction lies between a number and what it is rounded to. -/
theorem fraction_lt_of_lt_nearest {q : Rat} (nonnegative : 0 ≤ q) (below : numerator < denominator)
    (less : (numerator : Rat) / denominator < nearest q) : (numerator : Rat) / denominator < q := by
  by_contra reached
  have rounded := nearest_mono nonnegative (not_lt.1 reached)
  rw [nearest_fraction below] at rounded
  exact absurd less (not_lt.2 rounded)

/-! ## Comparisons -/

/-- A fraction is compared as the rational that it is. -/
theorem isBelow_iff (numerator : Nat) (bound : Rat) :
    isBelow numerator bound = true ↔ (numerator : Rat) / denominator < bound := by
  have scale : (0 : Rat) < denominator := by norm_num [denominator]
  have den : (0 : Rat) < bound.den := by exact_mod_cast bound.den_pos
  rw [isBelow, decide_eq_true_iff, ← Int.cast_lt (R := Rat), div_lt_iff₀ scale]
  push_cast
  conv_rhs => rw [← Rat.num_div_den bound]
  rw [div_mul_eq_mul_div, lt_div_iff₀ den]

/-- A fraction is below a rounded number if it is below its nearest multiple, or if that is too
large. -/
theorem isBelowDouble_round_iff {q : Rat} (nonnegative : 0 ≤ q) (numerator : Nat) :
    isBelowDouble numerator (round q) = true ↔
      overflowBound ≤ nearest q ∨ (numerator : Rat) / denominator < nearest q := by
  rw [round_of_nonneg nonnegative]
  split
  · rename_i large
    exact iff_of_true rfl (.inl large)
  · rename_i fits
    rw [isBelowDouble, isBelow_iff, or_iff_right fits]

/-- What is below a rounded number is below every larger one, rounded. -/
theorem isBelowDouble_round_mono {p q : Rat} (nonnegative : 0 ≤ p) (le : p ≤ q)
    (below : isBelowDouble numerator (round p) = true) :
    isBelowDouble numerator (round q) = true := by
  have rounded := nearest_mono nonnegative le
  rw [isBelowDouble_round_iff nonnegative] at below
  rw [isBelowDouble_round_iff (nonnegative.trans le)]
  rcases below with large | less
  · exact .inl (large.trans rounded)
  · exact .inr (less.trans_le rounded)

theorem isBelow_nonpos {bound : Rat} (nonpositive : bound ≤ 0) (numerator : Nat) :
    isBelow numerator bound = false := by
  rw [← Bool.not_eq_true, isBelow_iff, not_lt]
  exact nonpositive.trans (fraction_nonneg numerator)

/-- No fraction is below a number that is not positive, rounded. -/
theorem isBelowDouble_round_nonpos {q : Rat} (nonpositive : q ≤ 0) (numerator : Nat) :
    isBelowDouble numerator (round q) = false := by
  rcases round_of_nonpos nonpositive with least | zero | ⟨r, small, finite⟩
  · rw [least]
    rfl
  · rw [zero]
    rfl
  · rw [finite]
    exact isBelow_nonpos small numerator

/-! ## Rounded more than once -/

/-- Whether every random fraction below `r`, which is not negative, is also below `q`: none lies between
the two. -/
structure NoneBetween (q r : Rat) : Prop where
  nonneg : 0 ≤ r
  lt : ∀ n < denominator, (n : Rat) / denominator < r → (n : Rat) / denominator < q

namespace NoneBetween

variable {q r : Rat}

theorem refl (nonnegative : 0 ≤ q) : NoneBetween q q where
  nonneg := nonnegative
  lt := fun _ _ less => less

theorem zero (q : Rat) : NoneBetween q 0 where
  nonneg := le_rfl
  lt := fun n _ less => absurd less (not_lt.2 (fraction_nonneg n))

/-- No random fraction lies between a number and its nearest double. -/
theorem nearest (none : NoneBetween q r) : NoneBetween q (Double.nearest r) where
  nonneg := Double.nearest_nonneg none.nonneg
  lt := fun n below less => none.lt n below (fraction_lt_of_lt_nearest none.nonneg below less)

/-- Nor does rounding, as far as the result is finite, come upon one. -/
theorem round (none : NoneBetween q r) : NoneBetween q ((Double.round r).toRat?.getD 0) := by
  rw [Double.round_of_nonneg none.nonneg]
  split
  · exact zero q
  · exact none.nearest

/-- Nor does adding a zero to a double. -/
theorem sum {d e : Double} (none : NoneBetween q r) (finite : d.toRat? = some r)
    (nothing : e.toRat? = some 0) : NoneBetween q ((Double.add d e).toRat?.getD 0) := by
  have rounded := none.round
  cases d with
  | nan | infinite => cases finite
  | negativeZero =>
      cases finite
      cases e with
      | nan | infinite => cases nothing
      | negativeZero => exact zero q
      | finite other =>
          cases nothing
          exact zero q
  | finite p =>
      cases finite
      cases e with
      | nan | infinite => cases nothing
      | negativeZero => exact none
      | finite other =>
          cases nothing
          rwa [Double.add, add_zero]

end NoneBetween

end Twister

end StepPattern
