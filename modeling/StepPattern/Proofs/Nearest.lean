/-
# StepPattern.Proofs.Nearest -- rounding keeps the order

A rational is rounded to the nearest multiple of its unit (`Double.nearest`), and a
double is that multiple unless it is too large.  A larger number has no smaller unit.
Where the units are the same, the order is that of rounded integers.  Where they
differ, a power of two lies between the two numbers and neither is rounded beyond it.
So rounding keeps the order (`Double.nearest_mono`), and what has no more bits than a
significand is rounded to itself (`Double.nearest_multiple`).
-/
import StepPattern.Proofs.Order

namespace StepPattern

set_option autoImplicit false

namespace Double

/-! ## Rounding to integers -/

theorem le_roundHalfEven {m : Int} {q : Rat} (le : (m : Rat) ≤ q) : m ≤ roundHalfEven q := by
  have floor : m ≤ q.floor := Rat.le_floor_iff.2 le
  unfold roundHalfEven
  simp only
  split_ifs <;> omega

theorem roundHalfEven_le {m : Int} {q : Rat} (le : q ≤ m) : roundHalfEven q ≤ m := by
  have floor : q.floor ≤ m := by exact_mod_cast (Rat.floor_le q).trans le
  unfold roundHalfEven
  simp only
  rcases Int.lt_or_eq_of_le floor with below | whole
  · split_ifs <;> omega
  · -- Nothing is left above the floor.
    rw [whole, if_pos (by linarith)]

theorem roundHalfEven_intCast (m : Int) : roundHalfEven m = m :=
  le_antisymm (roundHalfEven_le le_rfl) (le_roundHalfEven le_rfl)

theorem roundHalfEven_mono {p q : Rat} (le : p ≤ q) : roundHalfEven p ≤ roundHalfEven q := by
  have floors : p.floor ≤ q.floor := Rat.floor_monotone le
  rcases Int.lt_or_eq_of_le floors with apart | same
  · -- The integer above the one floor is not above the other.
    have above : p ≤ (p.floor + 1 : Int) := (Rat.lt_floor_add_one p).le
    calc roundHalfEven p ≤ p.floor + 1 := roundHalfEven_le above
      _ ≤ q.floor := apart
      _ ≤ roundHalfEven q := le_roundHalfEven (Rat.floor_le q)
  · have gaps : p - p.floor ≤ q - p.floor := by linarith
    unfold roundHalfEven
    simp only [← same]
    split_ifs <;> first | omega | linarith

/-! ## Units -/

theorem two_zpow_pos (e : Int) : (0 : Rat) < 2 ^ e :=
  zpow_pos two_pos e

/-- A number other than zero is at least the power of two of its binary exponent. -/
theorem two_zpow_binaryExponent_le {q : Rat} (nonzero : q ≠ 0) :
    (2 : Rat) ^ binaryExponent q ≤ |q| := by
  have size : q.abs = |q| := by
    rcases le_total 0 q with positive | negative
    · rw [Rat.abs_of_nonneg positive, abs_of_nonneg positive]
    · rw [Rat.abs_of_nonpos negative, abs_of_nonpos negative]
  unfold binaryExponent
  simp only [size]
  split
  · assumption
  · have quotient : |q| = (q.num.natAbs : Rat) / q.den := by
      conv_lhs => rw [← Rat.num_div_den q]
      rw [abs_div, Nat.abs_cast, Nat.cast_natAbs, Int.cast_abs]
    have low : (2 : Rat) ^ q.num.natAbs.log2 ≤ q.num.natAbs := by
      exact_mod_cast Nat.log2_self_le (Int.natAbs_ne_zero.2 (Rat.num_ne_zero.2 nonzero))
    have high : (q.den : Rat) ≤ 2 ^ (q.den.log2 + 1) := by
      exact_mod_cast (Nat.lt_log2_self (n := q.den)).le
    have exponent : (q.num.natAbs.log2 : Int) - q.den.log2 - 1 =
        q.num.natAbs.log2 - ((q.den.log2 + 1 : Nat) : Int) := by omega
    rw [quotient, exponent, zpow_sub₀ two_ne_zero, zpow_natCast, zpow_natCast]
    exact div_le_div₀ (Nat.cast_nonneg _) low (by exact_mod_cast q.den_pos) high

/-- Up to the largest significand, the unit of the last significant bit is no larger than 1. -/
theorem unitExponent_le {q : Rat} (nonzero : q ≠ 0) (small : |q| ≤ 2 ^ 52) :
    unitExponent q ≤ 0 := by
  have low := (two_zpow_binaryExponent_le nonzero).trans small
  rw [← zpow_natCast, zpow_le_zpow_iff_right₀ one_lt_two] at low
  unfold unitExponent
  omega

/-- A number is less than the power of two above its binary exponent. -/
theorem lt_two_zpow_binaryExponent {q : Rat} (positive : 0 < q) :
    q < 2 ^ (binaryExponent q + 1) := by
  have quotient : q = (q.num.natAbs : Rat) / q.den := by
    have numerator : ((q.num.natAbs : Int) : Rat) = q.num := by
      rw [Int.natAbs_of_nonneg (Rat.num_nonneg.2 positive.le)]
    conv_lhs => rw [← Rat.num_div_den q, ← numerator, Int.cast_natCast]
  have high : (q.num.natAbs : Rat) < 2 ^ (q.num.natAbs.log2 + 1) := by
    exact_mod_cast Nat.lt_log2_self
  have low : (2 : Rat) ^ q.den.log2 ≤ q.den := by
    exact_mod_cast Nat.log2_self_le q.den_nz
  have power : (2 : Rat) ^ ((q.num.natAbs.log2 : Int) - q.den.log2 + 1) =
      2 ^ (q.num.natAbs.log2 + 1) / 2 ^ q.den.log2 := by
    rw [sub_add_eq_add_sub, zpow_sub₀ two_ne_zero, zpow_natCast]
    norm_cast
  have guessed : q < 2 ^ ((q.num.natAbs.log2 : Int) - q.den.log2 + 1) := by
    rw [power]
    conv_lhs => rw [quotient]
    exact div_lt_div₀ high low (by positivity) (by positivity)
  unfold binaryExponent
  simp only
  split
  · exact guessed
  · rename_i unreached
    rw [Rat.abs_of_nonneg positive.le, not_le] at unreached
    rwa [sub_add_cancel]

theorem binaryExponent_mono {p q : Rat} (positive : 0 < p) (le : p ≤ q) :
    binaryExponent p ≤ binaryExponent q := by
  have low := two_zpow_binaryExponent_le positive.ne'
  rw [abs_of_pos positive] at low
  have high := lt_two_zpow_binaryExponent (positive.trans_le le)
  have between := (low.trans le).trans_lt high
  rw [zpow_lt_zpow_iff_right₀ one_lt_two] at between
  omega

theorem unitExponent_mono {p q : Rat} (positive : 0 < p) (le : p ≤ q) :
    unitExponent p ≤ unitExponent q :=
  max_le_max_right _ (Int.sub_le_sub_right (binaryExponent_mono positive le) 52)

/-- A number has at most 53 bits before the end of its unit. -/
theorem le_two_zpow_unitExponent {q : Rat} (positive : 0 < q) :
    q ≤ 2 ^ (unitExponent q + 53) := by
  have le : binaryExponent q + 1 ≤ unitExponent q + 53 := by
    unfold unitExponent
    omega
  exact (lt_two_zpow_binaryExponent positive).le.trans (zpow_le_zpow_right₀ one_le_two le)

/-- Where the unit is not the least one, a number has 53 bits before its end. -/
theorem two_zpow_unitExponent_le {q : Rat} (positive : 0 < q) (normal : -1074 < unitExponent q) :
    2 ^ (unitExponent q + 52) ≤ q := by
  have low := two_zpow_binaryExponent_le positive.ne'
  rw [abs_of_pos positive] at low
  have same : unitExponent q + 52 = binaryExponent q := by
    unfold unitExponent at normal ⊢
    omega
  rwa [same]

/-- A number below the end of a significand has no larger unit. -/
theorem unitExponent_le_of_lt {q : Rat} {e : Int} (positive : 0 < q) (least : -1074 ≤ e)
    (less : q < 2 ^ (e + 53)) : unitExponent q ≤ e := by
  have low := two_zpow_binaryExponent_le positive.ne'
  rw [abs_of_pos positive] at low
  have between := low.trans_lt less
  rw [zpow_lt_zpow_iff_right₀ one_lt_two] at between
  unfold unitExponent
  omega

/-! ## The nearest multiple of a unit -/

/-- The multiple of its unit that is nearest to a rational. -/
def nearest (q : Rat) : Rat :=
  roundHalfEven (q / 2 ^ unitExponent q) * 2 ^ unitExponent q

/-- The power of two behind so many bits of a unit, in units. -/
theorem two_zpow_div (e : Int) (bits : Nat) : (2 : Rat) ^ (e + bits) / 2 ^ e = ((2 ^ bits : Int) : Rat) := by
  rw [zpow_add₀ two_ne_zero, mul_div_cancel_left₀ _ (two_zpow_pos e).ne', zpow_natCast]
  norm_cast

/-- A number is not rounded beyond a power of two of its units. -/
theorem nearest_le_two_zpow {q : Rat} (bits : Nat) (le : q ≤ 2 ^ (unitExponent q + bits)) :
    nearest q ≤ 2 ^ (unitExponent q + bits) := by
  have unit := two_zpow_pos (unitExponent q)
  rw [nearest, ← le_div_iff₀ unit, two_zpow_div, Int.cast_le]
  apply roundHalfEven_le
  rw [← two_zpow_div (unitExponent q) bits]
  exact div_le_div_of_nonneg_right le unit.le

theorem two_zpow_le_nearest {q : Rat} (bits : Nat) (le : 2 ^ (unitExponent q + bits) ≤ q) :
    2 ^ (unitExponent q + bits) ≤ nearest q := by
  have unit := two_zpow_pos (unitExponent q)
  rw [nearest, ← div_le_iff₀ unit, two_zpow_div, Int.cast_le]
  apply le_roundHalfEven
  rw [← two_zpow_div (unitExponent q) bits]
  exact div_le_div_of_nonneg_right le unit.le

theorem nearest_nonneg {q : Rat} (nonnegative : 0 ≤ q) : 0 ≤ nearest q := by
  have unit := two_zpow_pos (unitExponent q)
  refine mul_nonneg (Int.cast_nonneg (le_roundHalfEven ?_)) unit.le
  rw [Int.cast_zero]
  exact div_nonneg nonnegative unit.le

theorem nearest_nonpos {q : Rat} (nonpositive : q ≤ 0) : nearest q ≤ 0 := by
  have unit := two_zpow_pos (unitExponent q)
  refine mul_nonpos_of_nonpos_of_nonneg (Int.cast_nonpos.2 (roundHalfEven_le ?_)) unit.le
  rw [Int.cast_zero]
  exact div_nonpos_of_nonpos_of_nonneg nonpositive unit.le

theorem nearest_zero : nearest 0 = 0 :=
  le_antisymm (nearest_nonpos le_rfl) (nearest_nonneg le_rfl)

/-- **Rounding keeps the order** of numbers that are not negative. -/
theorem nearest_mono {p q : Rat} (nonnegative : 0 ≤ p) (le : p ≤ q) : nearest p ≤ nearest q := by
  rcases nonnegative.eq_or_lt with rfl | positive
  · rw [nearest_zero]
    exact nearest_nonneg le
  rcases Int.lt_or_eq_of_le (unitExponent_mono positive le) with finer | same
  · -- The power of two that ends the significand of the one begins that of the other.
    have normal : -1074 < unitExponent q :=
      lt_of_le_of_lt (le_max_right _ _) finer
    have edge : (2 : Rat) ^ (unitExponent p + 53) ≤ 2 ^ (unitExponent q + 52) :=
      zpow_le_zpow_right₀ one_le_two (by omega)
    calc nearest p ≤ 2 ^ (unitExponent p + 53) :=
          nearest_le_two_zpow 53 (le_two_zpow_unitExponent positive)
      _ ≤ 2 ^ (unitExponent q + 52) := edge
      _ ≤ nearest q :=
          two_zpow_le_nearest 52 (two_zpow_unitExponent_le (positive.trans_le le) normal)
  · have unit := two_zpow_pos (unitExponent q)
    rw [nearest, nearest, same]
    refine mul_le_mul_of_nonneg_right (Int.cast_le.2 (roundHalfEven_mono ?_)) unit.le
    exact div_le_div_of_nonneg_right le unit.le

/-- A multiple of a power of two that is no less than its unit is rounded to itself. -/
theorem nearest_multiple {q : Rat} {e m : Int} (multiple : q = m * 2 ^ e)
    (coarse : unitExponent q ≤ e) : nearest q = q := by
  have unit := two_zpow_pos (unitExponent q)
  obtain ⟨bits, rfl⟩ : ∃ bits : Nat, e = unitExponent q + bits :=
    ⟨(e - unitExponent q).toNat, by omega⟩
  have whole : q / 2 ^ unitExponent q = ((m * 2 ^ bits : Int) : Rat) := by
    rw [Int.cast_mul, ← two_zpow_div (unitExponent q) bits, ← mul_div_assoc, ← multiple]
  rw [nearest, whole, roundHalfEven_intCast, ← whole, div_mul_cancel₀ _ unit.ne']

/-- **What is rounded is not changed by rounding again.** -/
theorem nearest_nearest {q : Rat} (nonnegative : 0 ≤ q) : nearest (nearest q) = nearest q := by
  rcases (nearest_nonneg nonnegative).eq_or_lt with zero | positive
  · rw [← zero, nearest_zero]
  have origin : 0 < q := by
    rcases nonnegative.eq_or_lt with rfl | origin
    · rw [nearest_zero] at positive
      exact absurd positive (lt_irrefl 0)
    · exact origin
  have least : -1074 ≤ unitExponent q := le_max_right _ _
  rcases (nearest_le_two_zpow 53 (le_two_zpow_unitExponent origin)).eq_or_lt with edge | inside
  · -- Rounded up to a power of two, the number has only one bit.
    refine nearest_multiple (m := 1) (e := unitExponent q + 53) ?_ ?_
    · rw [Int.cast_one, one_mul]
      exact edge
    · refine unitExponent_le_of_lt positive (by omega) ?_
      rw [edge]
      exact zpow_lt_zpow_right₀ one_lt_two (by push_cast; omega)
  · exact nearest_multiple rfl (unitExponent_le_of_lt positive least inside)

/-- A small integer is its own nearest multiple. -/
theorem nearest_intCast {m : Int} (small : |(m : Rat)| ≤ 2 ^ 52) : nearest m = m := by
  by_cases zero : m = 0
  · rw [zero, Int.cast_zero, nearest_zero]
  · refine nearest_multiple (m := m) (e := 0) ?_ (unitExponent_le (Int.cast_ne_zero.2 zero) small)
    rw [zpow_zero, mul_one]

theorem nearest_one : nearest 1 = 1 := by
  have one := nearest_intCast (m := 1) (by norm_num)
  rwa [Int.cast_one] at one

/-! ## Doubles -/

theorem lt_overflowBound : (2 : Rat) ^ 52 < overflowBound := by
  unfold overflowBound
  exact pow_lt_pow_right₀ one_lt_two (by decide)

/-- A number that is not negative is rounded to its nearest multiple, or is too large. -/
theorem round_of_nonneg {q : Rat} (nonnegative : 0 ≤ q) :
    round q = if overflowBound ≤ nearest q then .infinite false else .finite (nearest q) := by
  have bound : 0 < overflowBound := pow_pos two_pos _
  rcases nonnegative.eq_or_lt with rfl | positive
  · rw [nearest_zero, if_neg (not_le.2 bound)]
    rfl
  · have rounded := nearest_nonneg nonnegative
    simp only [round, if_neg positive.ne']
    rw [← nearest]
    split_ifs with large small zero
    · rfl
    · linarith
    · exact absurd zero.2 (not_lt.2 nonnegative)
    · rfl

/-- A number that is not positive is rounded to no positive one. -/
theorem round_of_nonpos {q : Rat} (nonpositive : q ≤ 0) :
    round q = .infinite true ∨ round q = .negativeZero ∨ ∃ r, r ≤ 0 ∧ round q = .finite r := by
  have bound : 0 < overflowBound := pow_pos two_pos _
  have rounded := nearest_nonpos nonpositive
  unfold round
  split
  · exact .inr (.inr ⟨0, le_rfl, rfl⟩)
  · simp only
    rw [← nearest]
    split_ifs with large small zero
    · linarith
    · exact .inl rfl
    · exact .inr (.inl rfl)
    · exact .inr (.inr ⟨_, rounded, rfl⟩)

end Double

end StepPattern
