/-
# StepPattern.Proofs.Doubles -- which numbers a double can hold

A number is rounded to 53 significant bits, a tie going to the even significand.  It is
too large for a double exactly if the rounding reaches `2 ^ 1024` in size, and the least
size for which it does lies half a unit below that (`Double.round?_eq_none_iff`):
`2 ^ 1024 - 2 ^ 970`, the tie included, as the significand above it is even.
-/
import StepPattern.Proofs.Nearest

namespace StepPattern

set_option autoImplicit false

namespace Double

/-! ## Rounding to integers -/

/-- An even number is reached by rounding from half a unit below it on. -/
theorem le_roundHalfEven_iff {m : Int} (even : m % 2 = 0) (q : Rat) :
    m ≤ roundHalfEven q ↔ (m : Rat) - 1 / 2 ≤ q := by
  have low : (q.floor : Rat) ≤ q := Rat.floor_le q
  have high : q < q.floor + 1 := by exact_mod_cast Rat.lt_floor_add_one q
  have integers : ∀ k : Int, q.floor + k ≤ m → (q.floor : Rat) + k ≤ m := by
    intro k above
    exact_mod_cast above
  unfold roundHalfEven
  simp only
  generalize q.floor = floor at low high integers
  split
  · constructor
    · intro reached
      have : (m : Rat) ≤ floor := Int.cast_le.2 reached
      linarith
    · intro reached
      by_contra beyond
      have := integers 1 (by omega)
      push_cast at this
      linarith
  · split
    · constructor
      · intro reached
        have : (m : Rat) ≤ floor + 1 := by exact_mod_cast reached
        linarith
      · intro reached
        by_contra beyond
        have := integers 2 (by omega)
        push_cast at this
        linarith
    · -- A tie goes to the even neighbour, and `m` is even.
      have tie : q = floor + 1 / 2 := by linarith
      have within : (m : Rat) - 1 / 2 ≤ q ↔ m ≤ floor + 1 := by
        rw [tie, ← Int.cast_le (R := Rat)]
        push_cast
        constructor <;> intro <;> linarith
      rw [within]
      split <;> omega

theorem floor_neg {q : Rat} (broken : (q.floor : Rat) ≠ q) : (-q).floor = -q.floor - 1 := by
  have low : (q.floor : Rat) < q := lt_of_le_of_ne (Rat.floor_le q) broken
  have high : q < q.floor + 1 := by exact_mod_cast Rat.lt_floor_add_one q
  have above : (-q).floor < -q.floor := by
    rw [← Int.cast_lt (R := Rat), Int.cast_neg]
    exact lt_of_le_of_lt (Rat.floor_le (-q)) (neg_lt_neg low)
  have below : -q.floor - 1 ≤ (-q).floor := by
    rw [Rat.le_floor_iff]
    push_cast
    linarith
  omega

/-- Rounding does not depend on the sign. -/
theorem roundHalfEven_neg (q : Rat) : roundHalfEven (-q) = -roundHalfEven q := by
  by_cases whole : (q.floor : Rat) = q
  · rw [← whole, ← Int.cast_neg, roundHalfEven_intCast, roundHalfEven_intCast]
  · have gap : -q - ((-q.floor - 1 : Int) : Rat) = 1 - (q - q.floor) := by
      push_cast
      ring
    unfold roundHalfEven
    simp only [floor_neg whole, gap]
    split_ifs <;> first | omega | linarith

theorem binaryExponent_neg (q : Rat) : binaryExponent (-q) = binaryExponent q := by
  have size : (-q).abs = q.abs := by
    rcases le_total 0 q with positive | negative
    · rw [Rat.abs_of_nonneg positive, Rat.abs_of_nonpos (neg_nonpos.2 positive), neg_neg]
    · rw [Rat.abs_of_nonpos negative, Rat.abs_of_nonneg (neg_nonneg.2 negative)]
  rw [binaryExponent, binaryExponent, Rat.neg_num, Rat.neg_den, Int.natAbs_neg, size]

theorem nearest_neg (q : Rat) : nearest (-q) = -nearest q := by
  rw [nearest, nearest, unitExponent, unitExponent, binaryExponent_neg, neg_div,
    roundHalfEven_neg, Int.cast_neg, neg_mul]

theorem nearest_abs (q : Rat) : nearest |q| = |nearest q| := by
  rcases le_total 0 q with positive | negative
  · rw [abs_of_nonneg positive, abs_of_nonneg (nearest_nonneg positive)]
  · rw [abs_of_nonpos negative, abs_of_nonpos (nearest_nonpos negative), nearest_neg]

/-! ## The bound -/

/-- The least natural number that is too large for a double: half a unit below the bound. -/
def leastTooLarge : Nat := 2 ^ 1024 - 2 ^ 970

/-- How far the least number that is too large lies below the bound. -/
def lastHalf : Rat := 2 ^ (970 : Nat)

theorem cast_pow_sub_pow {low high : Nat} (le : low ≤ high) :
    ((2 ^ high - 2 ^ low : Nat) : Rat) = 2 ^ high - 2 ^ low := by
  rw [Nat.cast_sub (Nat.pow_le_pow_right two_pos le), Nat.cast_pow, Nat.cast_pow, Nat.cast_ofNat]

theorem cast_leastTooLarge : (leastTooLarge : Rat) = overflowBound - lastHalf :=
  cast_pow_sub_pow (by decide)

theorem lastHalf_lt : lastHalf * 2 < overflowBound := by
  rw [lastHalf, overflowBound, ← pow_succ]
  exact pow_lt_pow_right₀ one_lt_two (by decide)

theorem overflowBound_pos : 0 < overflowBound :=
  pow_pos two_pos _

theorem overflowBound_eq_zpow : overflowBound = 2 ^ (1024 : Int) := by
  rw [overflowBound, ← zpow_natCast]
  rfl

/-- In the last binade the bound is reached from half a unit below it on. -/
theorem overflowBound_le_nearest_iff_of_last {q : Rat} (last : unitExponent q = 971) :
    overflowBound ≤ nearest q ↔ leastTooLarge ≤ q := by
  have unit := two_zpow_pos 971
  have bound : overflowBound = ((2 ^ 53 : Int) : Rat) * 2 ^ (971 : Int) := by
    rw [overflowBound_eq_zpow, ← two_zpow_div 971 53, div_mul_cancel₀ _ unit.ne']
    rfl
  have half : lastHalf = 1 / 2 * 2 ^ (971 : Int) := by
    rw [lastHalf, ← zpow_natCast, show (971 : Int) = (970 : Nat) + 1 from rfl,
      zpow_add_one₀ two_ne_zero]
    ring
  rw [nearest, last, bound, mul_le_mul_iff_left₀ unit, Int.cast_le,
    le_roundHalfEven_iff (by decide), le_div_iff₀ unit, sub_mul, ← bound, ← half, cast_leastTooLarge]

theorem overflowBound_le_nearest_iff {q : Rat} (nonnegative : 0 ≤ q) :
    overflowBound ≤ nearest q ↔ leastTooLarge ≤ q := by
  have half := lastHalf_lt
  have bound := overflowBound_pos
  have halfPos : 0 < lastHalf := pow_pos two_pos _
  rcases nonnegative.eq_or_lt with rfl | positive
  · rw [nearest_zero, cast_leastTooLarge]
    exact iff_of_false (not_le.2 bound) (by linarith)
  rcases lt_trichotomy (unitExponent q) 971 with small | last | large
  · -- Twice the power of two above the number is still within the bound.
    have room : (2 : Rat) ^ (unitExponent q + 53) * 2 ≤ overflowBound := by
      rw [overflowBound_eq_zpow, ← zpow_add_one₀ two_ne_zero]
      exact zpow_le_zpow_right₀ one_le_two (by omega)
    have within := le_two_zpow_unitExponent positive
    have rounded : nearest q ≤ 2 ^ (unitExponent q + 53) := nearest_le_two_zpow 53 within
    rw [cast_leastTooLarge]
    exact iff_of_false (by linarith) (by linarith)
  · exact overflowBound_le_nearest_iff_of_last last
  · have beyond : overflowBound ≤ 2 ^ (unitExponent q + 52) := by
      rw [overflowBound_eq_zpow]
      exact zpow_le_zpow_right₀ one_le_two (by omega)
    have reached := two_zpow_unitExponent_le positive (by omega)
    rw [cast_leastTooLarge]
    exact iff_of_true (beyond.trans (two_zpow_le_nearest 52 reached)) (by linarith)

theorem round?_eq_none_iff_nearest (q : Rat) : round? q = none ↔ overflowBound ≤ |nearest q| := by
  have bound := overflowBound_pos
  by_cases zero : q = 0
  · rw [zero, nearest_zero, abs_zero]
    exact iff_of_false (Option.some_ne_none _) (not_le.2 bound)
  · rw [round?, round, if_neg zero, le_abs]
    simp only
    rw [← nearest]
    split_ifs with high low tiny
    · exact iff_of_true rfl (.inl high)
    · exact iff_of_true rfl (.inr (le_neg_of_le_neg low))
    · refine iff_of_false not_false (not_or.2 ⟨high, fun le => low ?_⟩)
      linarith
    · refine iff_of_false not_false (not_or.2 ⟨high, fun le => low ?_⟩)
      linarith

/-- **What a double cannot hold.** -/
theorem round?_eq_none_iff (q : Rat) : round? q = none ↔ (leastTooLarge : Rat) ≤ |q| := by
  rw [round?_eq_none_iff_nearest, ← nearest_abs, overflowBound_le_nearest_iff (abs_nonneg q)]

theorem round?_natCast_eq_none_iff_le (n : Nat) : round? n = none ↔ leastTooLarge ≤ n := by
  rw [round?_eq_none_iff, Nat.abs_cast, Nat.cast_le]

end Double

/-- A number is refused as a double exactly if it is too large. -/
theorem Number.doubleOf_eq_error_iff (q : Rat) (fault : Fault) :
    doubleOf q = .error fault ↔ (Double.leastTooLarge : Rat) ≤ |q| ∧ fault = .tooLarge := by
  rw [← Double.round?_eq_none_iff, doubleOf]
  cases Double.round? q <;> simp [eq_comm]

theorem Number.doubleOf_natCast_eq_error_iff (n : Nat) (fault : Fault) :
    doubleOf n = .error fault ↔ Double.leastTooLarge ≤ n ∧ fault = .tooLarge := by
  rw [doubleOf_eq_error_iff, Nat.abs_cast, Nat.cast_le]

end StepPattern
