/-
# StepPattern.Proofs.Rounding -- rounding passes no integer

Results are rounded, doubles to 53 significant bits and decimals to `precision`
digits.  An integer of less than so many bits or digits is a multiple of the unit
that a number below it is rounded to, so the rounded number does not pass it: what
is at most such an integer still is when it is rounded (`Double.exists_round_eq`,
`Decimal.fit_le`).

So an integer added to a number of any kind gives at most what it gives exactly,
as far as integers can tell (`Number.add_int_le`).  Nor does rounding take a small
decimal beyond the largest exponent: decimals from 0 to 1 have a sum
(`Decimal.exists_add`).
-/
import StepPattern.Proofs.Nearest

namespace StepPattern

set_option autoImplicit false

namespace Double

/-! ## Doubles -/

/-- **Rounding passes no integer**: a positive number that is at most a small integer is rounded to
a number that still is. -/
theorem exists_round_eq {q : Rat} {k : Int} (positive : 0 < q) (le : q ≤ k)
    (small : (k : Rat) ≤ 2 ^ 52) : ∃ y, round q = .finite y ∧ y ≤ k := by
  have near : |(k : Rat)| ≤ 2 ^ 52 := by rwa [abs_of_pos (positive.trans_le le)]
  have rounded := nearest_mono positive.le le
  rw [nearest_intCast near] at rounded
  have fits := rounded.trans_lt (small.trans_lt lt_overflowBound)
  rw [round_of_nonneg positive.le, if_neg (not_le.2 fits)]
  exact ⟨_, rfl, rounded⟩

/-- A small integer is a double. -/
theorem round_intCast {m : Int} (small : |(m : Rat)| ≤ 2 ^ 52) : round m = .finite m := by
  by_cases zero : m = 0
  · subst zero
    rfl
  · have nonzero : (m : Rat) ≠ 0 := Int.cast_ne_zero.2 zero
    have bound := lt_overflowBound
    have within := abs_le.1 small
    simp only [round, if_neg nonzero]
    rw [← nearest, nearest_intCast small, if_neg (by linarith [within.2]),
      if_neg (by linarith [within.1]), if_neg fun negative => nonzero negative.1]

end Double

/-! ## Decimals -/

namespace Decimal

/-- A number of so many digits is not below the power of ten of its first digit. -/
theorem lengthOf_le {n : Nat} (nonzero : n ≠ 0) {e : Int} {size : Nat}
    (small : (n : Rat) * 10 ^ e < 10 ^ size) : e + lengthOf n ≤ size := by
  have low := (scaled_bounds nonzero e).1.trans_lt small
  rw [← zpow_natCast, zpow_lt_zpow_iff_right₀ (by decide)] at low
  unfold lengthOf
  omega

/-- A coefficient without its last digits, rounded, passes no integer either. -/
theorem dropDigits_le {n count : Nat} {m : Int} (nonnegative : 0 ≤ m)
    (le : (n : Rat) ≤ m * 10 ^ count) : (dropDigits n count : Int) ≤ m := by
  have power : (0 : Rat) < 10 ^ count := pow_pos (by decide) count
  unfold dropDigits
  split
  · exact nonnegative
  · have rounded : Double.roundHalfEven ((n : Rat) / (Nat.pow 10 count : Nat)) ≤ m := by
      apply Double.roundHalfEven_le
      rw [Nat.pow_eq, Nat.cast_pow, Nat.cast_ofNat, div_le_iff₀ power]
      exact le
    omega

/-- Digits that are cut off below the point take a number past no integer. -/
theorem dropDigits_scaled_le {n lower : Nat} {e m : Int} (nonnegative : 0 ≤ m) (cut : e ≤ -lower)
    (le : (n : Rat) * 10 ^ e ≤ m) :
    (dropDigits n (-lower - e).toNat : Rat) * 10 ^ (-lower : Int) ≤ m := by
  have power : (0 : Rat) < 10 ^ lower := pow_pos (by decide) lower
  have scale : (10 : Rat) ^ (-lower : Int) = (10 ^ lower)⁻¹ := by
    rw [zpow_neg, zpow_natCast]
  -- In units of the last digit that is kept, the integer is one still.
  have whole : (m : Rat) = m * 10 ^ lower * 10 ^ (-lower - e).toNat * 10 ^ e := by
    have parts := ten_zpow_eq cut
    rw [Nat.cast_pow, Nat.cast_ofNat] at parts
    rw [mul_assoc, ← parts, scale, mul_inv_cancel_right₀ power.ne']
  have dropped : (dropDigits n (-lower - e).toNat : Int) ≤ m * 10 ^ lower := by
    apply dropDigits_le (by positivity)
    apply le_of_mul_le_mul_right _ (ten_zpow_pos e)
    push_cast
    rw [← whole]
    exact le
  rw [scale, ← div_eq_mul_inv, div_le_iff₀ power]
  exact_mod_cast dropped

/-- What fits is not more than an integer if it was not. -/
theorem fit_le {n : Nat} {e m : Int} {d : Decimal} (nonzero : n ≠ 0)
    (le : (n : Rat) * 10 ^ e ≤ m) (small : (m : Rat) < 10 ^ precision)
    (fitted : fit false n e = .ok d) : ∃ y, d.toRat? = some y ∧ y ≤ m := by
  have places := lengthOf_le nonzero (le.trans_lt small)
  have nonnegative : 0 ≤ m := by
    have product := mul_nonneg (Nat.cast_nonneg (α := Rat) n) (ten_zpow_pos e).le
    exact_mod_cast product.trans le
  unfold fit at fitted
  simp only at fitted
  have within : max (e + lengthOf n - precision) minExponent ≤ 0 := by
    unfold minExponent
    omega
  generalize max (e + lengthOf n - precision) minExponent = least at fitted within
  by_cases kept : least ≤ e
  · simp only [if_pos kept] at fitted
    split at fitted
    · cases fitted
    · cases fitted
      exact ⟨_, rfl, le⟩
  · simp only [if_neg kept] at fitted
    split at fitted
    · cases fitted
    · cases fitted
      obtain ⟨lower, rfl⟩ : ∃ lower : Nat, least = -lower := ⟨(-least).toNat, by omega⟩
      exact ⟨_, rfl, dropDigits_scaled_le nonnegative (by omega) le⟩

/-- The sum of scaled integers, where the first one is not too small to matter, is not more than an
integer if the exact sum is not. -/
theorem addScaled_le {a e b f m : Int} {d : Decimal} (order : e ≤ f)
    (matters : f + min (-1) (lengthOf b.natAbs - precision - 2 : Int) ≤ e + lengthOf a.natAbs - 1)
    (positive : 0 < (a : Rat) * 10 ^ e + b * 10 ^ f) (le : (a : Rat) * 10 ^ e + b * 10 ^ f ≤ m)
    (small : (m : Rat) < 10 ^ precision) (added : addScaled a e b f = .ok d) :
    ∃ y, d.toRat? = some y ∧ y ≤ m := by
  have total : ((a + b * Nat.pow 10 (f - e).toNat : Int) : Rat) * 10 ^ e =
      a * 10 ^ e + b * 10 ^ f := by
    rw [ten_zpow_eq order, Nat.pow_eq]
    push_cast
    ring
  unfold addScaled at added
  simp only [if_neg (not_lt.2 matters)] at added
  generalize a + b * (Nat.pow 10 (f - e).toNat : Int) = sum at added total
  have above : 0 < sum := by rwa [← total, Point.scaled_pos_iff] at positive
  obtain ⟨n, rfl⟩ : ∃ n : Nat, sum = n := ⟨sum.toNat, by omega⟩
  rw [decide_eq_false (by omega), Int.natAbs_natCast] at added
  rw [← total, Int.cast_natCast] at le
  exact fit_le (by omega) le small added

/-- What is less than the largest coefficient fits, whatever digits it has to lose. -/
theorem exists_fit {n : Nat} {e m : Int} (negative : Bool) (le : (n : Rat) * 10 ^ e ≤ m)
    (small : (m : Rat) < 10 ^ precision) : ∃ d, fit negative n e = .ok d := by
  have places {n : Nat} {e : Int} (nonzero : n ≠ 0) (le : (n : Rat) * 10 ^ e ≤ m) :
      e + lengthOf n ≤ precision := lengthOf_le nonzero (le.trans_lt small)
  have short {n : Nat} {e : Int} (le : (n : Rat) * 10 ^ e ≤ m) :
      ¬(n ≠ 0 ∧ maxExponent < e + lengthOf n - 1) := by
    rintro ⟨nonzero, beyond⟩
    have := places nonzero le
    unfold maxExponent at beyond
    unfold precision at this
    omega
  unfold fit
  dsimp only
  split
  case isTrue => exact ⟨_, if_neg (short le)⟩
  case isFalse cut =>
    have within : max (e + lengthOf n - precision) minExponent ≤ 0 := by
      by_cases nothing : n = 0
      · have digit : lengthOf n = 1 := nothing ▸ rfl
        rw [digit] at cut ⊢
        unfold precision minExponent at *
        omega
      · have := places nothing le
        unfold minExponent
        omega
    generalize max (e + lengthOf n - precision) minExponent = least at cut within
    obtain ⟨lower, rfl⟩ : ∃ lower : Nat, least = -lower := ⟨(-least).toNat, by omega⟩
    have nonnegative : 0 ≤ m := by
      have product := mul_nonneg (Nat.cast_nonneg (α := Rat) n) (ten_zpow_pos e).le
      exact_mod_cast product.trans le
    exact ⟨_, if_neg (short (dropDigits_scaled_le nonnegative (by omega) le))⟩

/-- Scaled integers from 0 to 1 have a sum. -/
theorem exists_addScaled {a b : Nat} {e f : Int} (order : e ≤ f) (positive : b ≠ 0)
    (first : (a : Rat) * 10 ^ e ≤ 1) (second : (b : Rat) * 10 ^ f ≤ 1) :
    ∃ d, addScaled a e b f = .ok d := by
  have fits {n : Nat} {e : Int} (order : e ≤ f) (le : (n : Rat) * 10 ^ e ≤ 1) :
      ∃ d, fit (((n : Int) + b * Nat.pow 10 (f - e).toNat : Int) < 0)
        ((n : Int) + b * Nat.pow 10 (f - e).toNat).natAbs e = .ok d := by
    have whole : ((n : Int) + b * Nat.pow 10 (f - e).toNat).natAbs =
        n + b * 10 ^ (f - e).toNat := by
      rw [Nat.pow_eq]
      exact_mod_cast Int.natAbs_natCast (n + b * 10 ^ (f - e).toNat)
    have parts := ten_zpow_eq order
    refine exists_fit (m := 2) _ ?_ (by norm_num [precision])
    calc (((n : Int) + b * Nat.pow 10 (f - e).toNat).natAbs : Rat) * 10 ^ e
        = n * 10 ^ e + b * 10 ^ f := by
          rw [whole, parts]
          push_cast
          ring
      _ ≤ (2 : Int) := by
          push_cast
          linarith
  have power : (10 : Rat) ^ f ≤ 1 := by
    have one : (1 : Rat) ≤ b := by exact_mod_cast Nat.one_le_iff_ne_zero.2 positive
    nlinarith [ten_zpow_pos f]
  unfold addScaled
  dsimp only
  split
  case isFalse => exact fits order first
  case isTrue =>
    have digit : (a : Int).sign = ((min a 1 : Nat) : Int) := by
      cases a with
      | zero => rfl
      | succ a => simp
    rw [digit]
    have below : f + min (-1) ((lengthOf (b : Int).natAbs : Int) - precision - 2) ≤ f := by omega
    refine fits below ?_
    have scale := zpow_le_zpow_right₀ (by norm_num : (1 : Rat) ≤ 10) below
    have most : ((min a 1 : Nat) : Rat) ≤ 1 := by exact_mod_cast Nat.min_le_right a 1
    nlinarith [ten_zpow_pos (f + min (-1) ((lengthOf (b : Int).natAbs : Int) - precision - 2))]

/-- A decimal that is not negative has no sign, unless it is zero. -/
theorem signed_eq {negative : Bool} {c : Nat} {e : Int} (nonzero : c ≠ 0)
    (nonnegative : 0 ≤ (Text.signed negative c : Rat) * 10 ^ e) : Text.signed negative c = c := by
  have above := nonneg_of_mul_nonneg_left nonnegative (ten_zpow_pos e)
  cases negative with
  | false => rfl
  | true =>
      have opposite : (0 : Rat) ≤ ((-(c : Int) : Int) : Rat) := above
      have : 0 ≤ -(c : Int) := by exact_mod_cast opposite
      omega

/-- Decimals from 0 to 1 have a sum. -/
theorem exists_add {x y : Decimal} {p q : Rat} (one : x.toRat? = some p) (other : y.toRat? = some q)
    (least : 0 ≤ p) (most : p ≤ 1) (leastToo : 0 ≤ q) (mostToo : q ≤ 1) :
    ∃ sum, x.add y = .ok sum := by
  have size {negative : Bool} {c : Nat} {e : Int}
      (nonnegative : 0 ≤ (Text.signed negative c : Rat) * 10 ^ e)
      (le : (Text.signed negative c : Rat) * 10 ^ e ≤ 1) : (c : Rat) * 10 ^ e ≤ 1 := by
    by_cases nothing : c = 0
    · simp [nothing]
    · rwa [signed_eq nothing nonnegative, Int.cast_natCast] at le
  have fits {n : Nat} {e : Int} (negative : Bool) (le : (n : Rat) * 10 ^ e ≤ 1) :
      ∃ d, fit negative n e = .ok d :=
    exists_fit (m := 1) negative (by exact_mod_cast le) (by norm_num [precision])
  cases x with
  | nan => cases one
  | infinite => cases one
  | finite s c e =>
      cases y with
      | nan => cases other
      | infinite => cases other
      | finite t d f =>
          cases one
          cases other
          have first := size least most
          have second := size leastToo mostToo
          simp only [add, isSignaling, Bool.false_eq_true, or_self, if_false]
          split
          case isTrue => exact fits t second
          case isFalse nonzero =>
            split
            case isTrue => exact fits s first
            case isFalse nonzeroToo =>
              rw [signed_eq nonzero least, signed_eq nonzeroToo leastToo]
              split
              case isTrue order => exact exists_addScaled order nonzeroToo first second
              case isFalse order => exact exists_addScaled (not_le.1 order).le nonzero second first

theorem signed_natAbs (m : Int) : Text.signed (decide (m < 0)) m.natAbs = m := by
  unfold Text.signed
  by_cases negative : m < 0
  · rw [if_pos (decide_eq_true negative)]
    omega
  · rw [if_neg (by simpa using negative)]
    omega

/-- A decimal of at least 1 has digits in front of its point, and no sign. -/
theorem exists_finite_of_one_le {x : Decimal} {q : Rat} (finite : x.toRat? = some q)
    (least : 1 ≤ q) :
    ∃ c e, x = .finite false c e ∧ q = (c : Rat) * 10 ^ e ∧ c ≠ 0 ∧ 0 < e + lengthOf c := by
  cases x with
  | nan negative signaling payload => cases finite
  | infinite negative => cases finite
  | finite negative c e =>
      cases finite
      have above : 0 < Text.signed negative c := by
        rw [← Point.scaled_pos_iff _ e]
        exact zero_lt_one.trans_le least
      obtain ⟨rfl, nonzero⟩ : negative = false ∧ c ≠ 0 := by
        cases negative with
        | false => exact ⟨rfl, by rintro rfl; exact absurd above (lt_irrefl 0)⟩
        | true =>
            have opposite : 0 < -(c : Int) := above
            omega
      have reached := least.trans_lt (scaled_bounds nonzero e).2
      rw [← zpow_zero (10 : Rat), zpow_lt_zpow_iff_right₀ (by decide)] at reached
      exact ⟨c, e, rfl, rfl, nonzero, reached⟩

/-- A decimal of at least 1 plus an integer is not more than an integer if the exact sum is not. -/
theorem add_ofInt_le {x sum : Decimal} {q : Rat} {m k : Int} (finite : x.toRat? = some q)
    (least : 1 ≤ q) (most : q < 10 ^ precision) (positive : 0 < q + m) (le : q + m ≤ k)
    (small : (k : Rat) < 10 ^ precision) (added : x.add (.ofInt m) = .ok sum) :
    ∃ y, sum.toRat? = some y ∧ y ≤ k := by
  obtain ⟨c, e, rfl, rfl, nonzero, whole⟩ := exists_finite_of_one_le finite least
  have first : e + lengthOf c ≤ precision := lengthOf_le nonzero most
  have plain : Text.signed false c = (c : Int) := rfl
  unfold add ofInt at added
  simp only [isSignaling, Bool.false_eq_true, or_self, if_false, nonzero, signed_natAbs, plain]
    at added
  split at added
  · rename_i zero
    obtain rfl : m = 0 := Int.natAbs_eq_zero.1 zero
    exact fit_le nonzero (by simpa using le) small added
  · split at added
    · rename_i order
      apply addScaled_le order _ _ _ small added
      · rw [Int.natAbs_natCast]
        omega
      · simpa using positive
      · simpa using le
    · rename_i order
      apply addScaled_le (Int.le_of_lt (not_le.1 order)) _ _ _ small added
      · have digits : 0 < lengthOf m.natAbs := Nat.length_toDigits_pos
        rw [Int.natAbs_natCast]
        omega
      · simpa [add_comm] using positive
      · simpa [add_comm] using le

end Decimal

/-! ## Numbers -/

/-- **An integer added to a number of any kind** that is at least 1 gives no more than an integer if
the exact sum is no more. -/
theorem Number.add_int_le {n sum : Number} {q : Rat} {m k : Int} (finite : n.toRat? = some q)
    (least : 1 ≤ q) (most : q < 10 ^ Decimal.precision) (near : |(m : Rat)| ≤ 2 ^ 52)
    (positive : 0 < q + m) (le : q + m ≤ k) (small : (k : Rat) ≤ 2 ^ 52)
    (added : n.add (.int m) = .ok sum) : ∃ y, sum.toRat? = some y ∧ y ≤ k := by
  cases n with
  | int n =>
      cases finite
      cases added
      exact ⟨_, rfl, by push_cast; exact le⟩
  | fraction r =>
      cases finite
      cases added
      exact ⟨_, rfl, by rw [add_comm]; exact le⟩
  | double d =>
      obtain rfl : d = .finite q := by
        cases d with
        | nan => cases finite
        | infinite negative => cases finite
        | finite r =>
            cases finite
            rfl
        | negativeZero =>
            cases finite
            exact absurd least (by decide)
      have converted : (Number.int m).toDouble = .ok (.finite m) := by
        rw [toDouble, doubleOf, Double.round?, Double.round_intCast near]
      obtain ⟨y, rounded, within⟩ := Double.exists_round_eq positive le small
      simp only [add, converted, bind, Except.bind] at added
      cases added
      exact ⟨y, by rw [toRat?, Double.add, rounded]; rfl, within⟩
  | decimal d =>
      simp only [add] at added
      cases result : d.add (.ofInt m) with
      | error fault =>
          rw [result] at added
          cases added
      | ok total =>
          rw [result] at added
          cases added
          apply Decimal.add_ofInt_le finite least most positive le _ result
          exact small.trans_lt (by norm_num [Decimal.precision])

end StepPattern
