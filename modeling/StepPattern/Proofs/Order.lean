/-
# StepPattern.Proofs.Order -- numbers are compared as the rationals they stand for

Powers of ten are only brought together where the lengths of two numerators do not
decide.  Either way the order of two points is that of the rationals
(`Point.scaledLt_iff`): a number with more digits before the point is the larger one,
as its first digit alone outweighs the other number (`scaled_lt_of_length_lt`).

So numbers of any two kinds that are finite are compared as rationals
(`Number.lt_eq`).
-/
import Mathlib.Algebra.Order.Field.Rat
import Mathlib.Data.Rat.Floor
import Mathlib.Tactic.Linarith
import Mathlib.Tactic.Positivity
import StepPattern.Number.Basic

namespace StepPattern

set_option autoImplicit false

/-! ## Powers of ten -/

theorem ten_zpow_pos (e : Int) : (0 : Rat) < 10 ^ e :=
  zpow_pos (by decide) e

theorem ten_zpow_le {e f : Int} (le : e ≤ f) : (10 : Rat) ^ e ≤ 10 ^ f :=
  zpow_le_zpow_right₀ (by decide) le

/-- A power of ten split at a lower one. -/
theorem ten_zpow_eq {e f : Int} (le : e ≤ f) :
    (10 : Rat) ^ f = ((10 ^ (f - e).toNat : Nat) : Rat) * 10 ^ e := by
  have difference : f = ((f - e).toNat : Int) + e := by omega
  calc (10 : Rat) ^ f = 10 ^ (((f - e).toNat : Int) + e) := by rw [← difference]
    _ = ((10 ^ (f - e).toNat : Nat) : Rat) * 10 ^ e := by
        rw [zpow_add₀ (by decide), zpow_natCast, Nat.cast_pow, Nat.cast_ofNat]

/-- A positive number of so many digits, times a power of ten, lies between two powers of ten. -/
theorem scaled_bounds {n : Nat} (positive : n ≠ 0) (e : Int) :
    (10 : Rat) ^ (e + (Nat.toDigits 10 n).length - 1) ≤ n * 10 ^ e ∧
      (n : Rat) * 10 ^ e < 10 ^ (e + (Nat.toDigits 10 n).length) := by
  have power := ten_zpow_pos e
  obtain ⟨length, same⟩ : ∃ length, (Nat.toDigits 10 n).length = length + 1 :=
    Nat.exists_eq_succ_of_ne_zero (Nat.ne_of_gt Nat.length_toDigits_pos)
  have high : n < 10 ^ (length + 1) :=
    (Nat.length_toDigits_le_iff (by decide) (Nat.succ_pos length)).1 (Nat.le_of_eq same)
  have low : 10 ^ length ≤ n := by
    rcases Nat.eq_zero_or_pos length with rfl | several
    · exact Nat.pos_of_ne_zero positive
    · by_contra less
      have fewer := (Nat.length_toDigits_le_iff (by decide) several).2 (Nat.lt_of_not_le less)
      omega
  have first : e + ((length + 1 : Nat) : Int) - 1 = e + length := by omega
  have lowRat : (10 : Rat) ^ length ≤ n := by exact_mod_cast low
  have highRat : (n : Rat) < 10 ^ (length + 1) := by exact_mod_cast high
  rw [same, first, zpow_add₀ (by decide), zpow_add₀ (by decide), zpow_natCast, zpow_natCast,
    mul_comm (n : Rat)]
  exact ⟨mul_le_mul_of_nonneg_left lowRat power.le, mul_lt_mul_of_pos_left highRat power⟩

/-- Of two positive numbers the one with fewer digits before the point is less. -/
theorem scaled_lt_of_length_lt {m n : Nat} {e f : Int} (positive : m ≠ 0) (positiveToo : n ≠ 0)
    (shorter : e + (Nat.toDigits 10 m).length < f + (Nat.toDigits 10 n).length) :
    (m : Rat) * 10 ^ e < n * 10 ^ f :=
  calc (m : Rat) * 10 ^ e < 10 ^ (e + (Nat.toDigits 10 m).length) :=
        (scaled_bounds positive e).2
    _ ≤ 10 ^ (f + (Nat.toDigits 10 n).length - 1) := ten_zpow_le (by omega)
    _ ≤ n * 10 ^ f := (scaled_bounds positiveToo f).1

/-! ## Points -/

namespace Point

/-- Where the lengths of two positive numerators differ, they decide. -/
theorem scaled_lt_iff_of_length_ne {m n : Nat} {e f : Int} (positive : m ≠ 0)
    (positiveToo : n ≠ 0)
    (differ : e + (Nat.toDigits 10 m).length ≠ f + (Nat.toDigits 10 n).length) :
    (m : Rat) * 10 ^ e < n * 10 ^ f ↔
      e + (Nat.toDigits 10 m).length < f + (Nat.toDigits 10 n).length := by
  constructor
  · intro less
    by_contra longer
    have reversed := scaled_lt_of_length_lt positiveToo positive (e := f) (f := e) (by omega)
    exact lt_asymm less reversed
  · exact scaled_lt_of_length_lt positive positiveToo

theorem scaled_lt_iff_of_le (a b : Int) {e f : Int} (le : e ≤ f) :
    (a : Rat) * 10 ^ e < b * 10 ^ f ↔ a < b * Nat.pow 10 (f - e).toNat := by
  rw [ten_zpow_eq le, ← mul_assoc, mul_lt_mul_iff_left₀ (ten_zpow_pos e), Nat.pow_eq]
  exact_mod_cast Iff.rfl

theorem scaled_lt_iff_of_ge (a b : Int) {e f : Int} (le : f ≤ e) :
    (a : Rat) * 10 ^ e < b * 10 ^ f ↔ a * Nat.pow 10 (e - f).toNat < b := by
  rw [ten_zpow_eq le, ← mul_assoc, mul_lt_mul_iff_left₀ (ten_zpow_pos f), Nat.pow_eq]
  exact_mod_cast Iff.rfl

theorem scaled_neg_iff (a e : Int) : (a : Rat) * 10 ^ e < 0 ↔ a < 0 := by
  rw [← Int.cast_lt_zero (R := Rat), mul_neg_iff, and_iff_left (ten_zpow_pos e),
    or_iff_right fun wrong => lt_asymm wrong.2 (ten_zpow_pos e)]

theorem scaled_pos_iff (a e : Int) : 0 < (a : Rat) * 10 ^ e ↔ 0 < a := by
  rw [← Int.cast_pos (R := Rat), mul_pos_iff_of_pos_right (ten_zpow_pos e)]

/-- Where the signs differ, or the first number is zero, they decide. -/
theorem scaled_lt_iff_of_sign {a b : Int} (apart : a.sign ≠ b.sign ∨ a = 0) (e f : Int) :
    (a : Rat) * 10 ^ e < b * 10 ^ f ↔ a < b := by
  have left := scaled_neg_iff a e
  have leftPos := scaled_pos_iff a e
  have right := scaled_neg_iff b f
  have rightPos := scaled_pos_iff b f
  rcases lt_trichotomy a 0 with negative | rfl | positive
  · -- The second number is not negative.
    have other : ¬b < 0 := fun negativeToo => by
      rcases apart with differ | zero
      · exact differ ((Int.sign_eq_neg_one_of_neg negative).trans
          (Int.sign_eq_neg_one_of_neg negativeToo).symm)
      · omega
    exact iff_of_true (lt_of_lt_of_le (left.2 negative) (not_lt.1 (mt right.1 other))) (by omega)
  · simpa using rightPos
  · -- The second number is not positive.
    have other : ¬0 < b := fun positiveToo => by
      rcases apart with differ | zero
      · exact differ ((Int.sign_eq_one_of_pos positive).trans
          (Int.sign_eq_one_of_pos positiveToo).symm)
      · omega
    exact iff_of_false
      (not_lt.2 (le_trans (not_lt.1 (mt rightPos.1 other)) (leftPos.2 positive).le)) (by omega)

/-- Where the lengths of two numerators of one sign differ, they decide. -/
theorem scaled_lt_iff_of_length {a b e f : Int} (nonzero : a ≠ 0) (sameSign : a.sign = b.sign)
    (differ : e + (Nat.toDigits 10 a.natAbs).length ≠ f + (Nat.toDigits 10 b.natAbs).length) :
    (a : Rat) * 10 ^ e < b * 10 ^ f ↔
      (e + (Nat.toDigits 10 a.natAbs).length < f + (Nat.toDigits 10 b.natAbs).length ↔ 0 < a) := by
  have nonzeroToo : b ≠ 0 := fun zero => nonzero <| by
    rwa [zero, Int.sign_zero, Int.sign_eq_zero_iff_zero] at sameSign
  have larger := Int.natAbs_ne_zero.2 nonzero
  have largerToo := Int.natAbs_ne_zero.2 nonzeroToo
  rcases lt_or_gt_of_ne nonzero with negative | positive
  · have negativeToo : b < 0 :=
      Int.sign_eq_neg_one_iff_neg.1 (sameSign ▸ Int.sign_eq_neg_one_of_neg negative)
    have first : (a : Rat) = -(a.natAbs : Rat) := by
      rw [Nat.cast_natAbs, abs_of_neg negative, Int.cast_neg, neg_neg]
    have second : (b : Rat) = -(b.natAbs : Rat) := by
      rw [Nat.cast_natAbs, abs_of_neg negativeToo, Int.cast_neg, neg_neg]
    rw [first, second, neg_mul, neg_mul, neg_lt_neg_iff,
      scaled_lt_iff_of_length_ne largerToo larger differ.symm]
    omega
  · have positiveToo : 0 < b :=
      Int.sign_eq_one_iff_pos.1 (sameSign ▸ Int.sign_eq_one_of_pos positive)
    have first : (a : Rat) = a.natAbs := by rw [Nat.cast_natAbs, abs_of_pos positive]
    have second : (b : Rat) = b.natAbs := by rw [Nat.cast_natAbs, abs_of_pos positiveToo]
    rw [first, second, scaled_lt_iff_of_length_ne larger largerToo differ]
    exact (iff_true_right positive).symm

/-- **The order of scaled integers** is that of the rationals. -/
theorem scaledLt_iff (a e b f : Int) :
    scaledLt a e b f = true ↔ (a : Rat) * 10 ^ e < b * 10 ^ f := by
  unfold scaledLt
  split
  · rename_i easy
    rw [decide_eq_true_iff]
    rcases easy with rfl | apart
    · rw [mul_lt_mul_iff_left₀ (ten_zpow_pos e), Int.cast_lt]
    · exact (scaled_lt_iff_of_sign apart e f).symm
  · rename_i same
    obtain ⟨-, sameSign, nonzero⟩ : e ≠ f ∧ a.sign = b.sign ∧ a ≠ 0 := by
      simpa only [not_or, not_not] using same
    simp only
    split
    · rename_i differ
      rw [scaled_lt_iff_of_length nonzero sameSign differ, beq_iff_eq, decide_eq_decide]
    · split
      · rename_i below
        rw [scaled_lt_iff_of_le a b below.le, decide_eq_true_iff]
      · rename_i above
        rw [scaled_lt_iff_of_ge a b (not_lt.1 above), decide_eq_true_iff]

/-- The rational that a point stands for. -/
def Is (x : Point) (q : Rat) : Prop :=
  ∃ numerator denominator scale, x = real numerator denominator scale ∧ denominator ≠ 0 ∧
    q = numerator / denominator * 10 ^ scale

theorem is_ofRat (q : Rat) : (ofRat q).Is q :=
  ⟨q.num, q.den, 0, rfl, q.den_nz, by rw [zpow_zero, mul_one, Rat.num_div_den]⟩

theorem is_ofInt (n : Int) : (ofInt n).Is n :=
  ⟨n, 1, 0, rfl, one_ne_zero, by rw [zpow_zero, mul_one, Nat.cast_one, div_one]⟩

/-- Points are ordered as the rationals that they stand for. -/
theorem Is.lt_iff {x y : Point} {p q : Rat} (first : x.Is p) (second : y.Is q) :
    x.lt y = true ↔ p < q := by
  obtain ⟨a, d, e, rfl, nonzero, rfl⟩ := first
  obtain ⟨b, c, f, rfl, nonzeroToo, rfl⟩ := second
  have positive : (0 : Rat) < d := by exact_mod_cast Nat.pos_of_ne_zero nonzero
  have positiveToo : (0 : Rat) < c := by exact_mod_cast Nat.pos_of_ne_zero nonzeroToo
  rw [lt, scaledLt_iff, div_mul_eq_mul_div, div_mul_eq_mul_div,
    div_lt_div_iff₀ positive positiveToo]
  push_cast
  rw [mul_right_comm, mul_right_comm (b : Rat)]

end Point

/-! ## Numbers -/

namespace Number

theorem point?_is {n : Number} {q : Rat} (finite : n.toRat? = some q) :
    ∃ x, n.point? = some x ∧ x.Is q := by
  cases n with
  | int n =>
      cases finite
      exact ⟨_, rfl, Point.is_ofInt n⟩
  | fraction r =>
      cases finite
      exact ⟨_, rfl, Point.is_ofRat q⟩
  | double d =>
      cases d with
      | nan => cases finite
      | infinite negative => cases finite
      | negativeZero =>
          cases finite
          exact ⟨_, rfl, Point.is_ofRat 0⟩
      | finite r =>
          cases finite
          exact ⟨_, rfl, Point.is_ofRat q⟩
  | decimal d =>
      cases d with
      | nan negative signaling payload => cases finite
      | infinite negative => cases finite
      | finite negative coefficient exponent =>
          cases finite
          exact ⟨_, rfl, _, 1, exponent, rfl, one_ne_zero, by rw [Nat.cast_one, div_one]⟩

/-- **Finite numbers are compared as the rationals that they stand for.** -/
theorem lt_eq {a b : Number} {p q : Rat} (first : a.toRat? = some p)
    (second : b.toRat? = some q) : a.lt b = .ok (decide (p < q)) := by
  obtain ⟨x, here, isFirst⟩ := point?_is first
  obtain ⟨y, there, isSecond⟩ := point?_is second
  have same : x.lt y = decide (p < q) := by
    rw [Bool.eq_iff_iff, decide_eq_true_iff]
    exact isFirst.lt_iff isSecond
  simp only [lt, compare, here, there, same]

theorem le_eq {a b : Number} {p q : Rat} (first : a.toRat? = some p)
    (second : b.toRat? = some q) : a.le b = .ok (decide (p ≤ q)) := by
  obtain ⟨x, here, isFirst⟩ := point?_is first
  obtain ⟨y, there, isSecond⟩ := point?_is second
  have same : x.le y = decide (p ≤ q) := by
    rw [Point.le, Bool.eq_iff_iff, Bool.not_eq_true', ← Bool.not_eq_true, isSecond.lt_iff isFirst,
      not_lt, decide_eq_true_iff]
  simp only [le, compare, here, there, same]

end Number

end StepPattern
