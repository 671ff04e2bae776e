/-
# StepPattern.Proofs.Numerals -- integers are read as they are written

An integer is written in ASCII digits and read in digits of any script.  The ASCII
digits are the digits that the first zero of the table begins, so what is written
is read back (`numeral_numeral`) as long as it has no more digits than a numeral
may have.
-/
import Mathlib.Data.List.Basic
import StepPattern.Proofs.Yield

namespace StepPattern

set_option autoImplicit false

open Text

namespace Text

/-- An ASCII digit is a decimal digit, and its value is its distance from the zero. -/
theorem digitValue?_of_isDigit {c : Char} (digit : c.isDigit = true) :
    digitValue? c = some (c.toNat - '0'.toNat) := by
  have between : 48 ≤ c.toNat ∧ c.toNat < 48 + 10 := by
    simp only [Char.isDigit, Bool.and_eq_true, decide_eq_true_eq, ge_iff_le,
      UInt32.le_iff_toNat_le] at digit
    exact ⟨digit.1, Nat.lt_succ_of_le digit.2⟩
  have hit : (decide (48 ≤ c.toNat) && decide (c.toNat < 48 + 10)) = true := by
    rw [decide_eq_true between.1, decide_eq_true between.2]
    rfl
  have found : digitZeros.find? (fun first => first ≤ c.toNat && c.toNat < first + 10) = some 48 :=
    List.find?_cons_of_pos hit
  rw [digitValue?, found]
  rfl

theorem isDecimal_of_isDigit {c : Char} (digit : c.isDigit = true) : isDecimal c = true := by
  rw [isDecimal, digitValue?_of_isDigit digit, Option.isSome_some]

/-- ASCII digits have the value that core reads in them. -/
theorem digitsValue_eq_ofDigitChars {t : Text} (digits : ∀ c ∈ t, c.isDigit = true) :
    digitsValue t = Nat.ofDigitChars 10 t 0 := by
  refine List.foldl_ext _ _ _ fun value c member => ?_
  rw [digitValue?_of_isDigit (digits c member), Option.getD_some]

theorem digitsValue_toDigits (n : Nat) : digitsValue (Nat.toDigits 10 n) = n := by
  have digits : ∀ c ∈ Nat.toDigits 10 n, c.isDigit = true := fun c member =>
    Nat.isDigit_of_mem_toDigits (by decide) (by decide) member
  rw [digitsValue_eq_ofDigitChars digits, Nat.ofDigitChars_ten_toDigits]

/-- A number has at most `maxDigits` digits exactly below the bound on what is written. -/
theorem length_toDigits_le_maxDigits_iff {n : Nat} :
    (Nat.toDigits 10 n).length ≤ maxDigits ↔ n < numeralBound := by
  have positive : 0 < maxDigits := by decide
  unfold numeralBound
  rw [Nat.pow_eq]
  -- With the limit in sight the power would be computed.
  generalize maxDigits = limit at positive ⊢
  exact Nat.length_toDigits_le_iff (by decide) positive

theorem numeral?_eq_some {n : Int} (short : (Nat.toDigits 10 n.natAbs).length ≤ maxDigits) :
    numeral? n = some (numeral n) := by
  rw [numeral?, if_pos (length_toDigits_le_maxDigits_iff.1 short)]

/-- What is written of an integer has the shape of a numeral, however long it is. -/
theorem isNumeral_numeral (n : Int) : isNumeral (numeral n) = true := by
  have digits : ∀ n : Nat, isDigits (Nat.toDigits 10 n) = true := by
    intro n
    rw [isDigits, Bool.and_eq_true, Bool.not_eq_true', List.isEmpty_eq_false_iff, List.all_eq_true]
    exact ⟨Nat.toDigits_ne_nil, fun c member => isDecimal_of_isDigit
      (Nat.isDigit_of_mem_toDigits (by decide) (by decide) member)⟩
  cases n with
  | negSucc n => exact digits (n + 1)
  | ofNat n =>
      have unsigned : ∀ c : Char, c.isDigit = false → (Nat.toDigits 10 n).head? ≠ some c := by
        intro c other first
        have digit := Nat.isDigit_of_mem_toDigits (by decide) (by decide)
          (List.mem_of_mem_head? (Option.mem_def.2 first))
        rw [other] at digit
        cases digit
      show isNumeral (Nat.toDigits 10 n) = true
      rw [isNumeral, Grammar.splitSign_of_head (unsigned '-' (by decide)) (unsigned '+' (by decide))]
      exact digits n

end Text

namespace Grammar

theorem digits_toDigits {n : Nat} (short : (Nat.toDigits 10 n).length ≤ maxDigits) :
    Digits (Nat.toDigits 10 n) :=
  ⟨Nat.toDigits_ne_nil, fun _ member => isDecimal_of_isDigit
    (Nat.isDigit_of_mem_toDigits (by decide) (by decide) member), short⟩

/-- **What is written of an integer is a numeral of it.** -/
theorem numeral_numeral {n : Int} (short : (Nat.toDigits 10 n.natAbs).length ≤ maxDigits) :
    Numeral (numeral n) n := by
  cases n with
  | ofNat n =>
      have numeral := Numeral.plain (digits_toDigits (n := n) short)
      rwa [digitsValue_toDigits] at numeral
  | negSucc n =>
      have numeral := Numeral.minus (digits_toDigits (n := n + 1) short)
      rwa [digitsValue_toDigits] at numeral

/-- The decimal digits of a number from one to the largest count are a count. -/
theorem count_toDigits {n : Nat} (positive : 1 ≤ n) (few : n ≤ maxCount) :
    Count (Nat.toDigits 10 n) n := by
  have short : (Nat.toDigits 10 n).length ≤ maxDigits := by
    have bound : n < 10 ^ 4 := Nat.lt_of_le_of_lt few (by decide)
    exact Nat.le_trans ((Nat.length_toDigits_le_iff (by decide) (by decide)).2 bound) (by decide)
  have written := Numeral.plain (digits_toDigits short)
  rw [digitsValue_toDigits] at written
  exact ⟨written, positive, few⟩

end Grammar

end StepPattern
