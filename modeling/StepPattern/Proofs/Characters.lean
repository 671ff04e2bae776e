/-
# StepPattern.Proofs.Characters -- which characters words are made of

Letters, decimal digits and signs are neither whitespace nor brackets nor `*`, and
no letter is a decimal digit.  So identifiers, numerals and rest symbols are
unbroken words, and a word of one class is not taken for one of another.
-/
import StepPattern.Proofs.Brackets
import StepPattern.Settings.Compile

namespace StepPattern.Text

set_option autoImplicit false

open Scanner

/-- The code points of letters. -/
theorem toNat_of_isAlpha {c : Char} (letter : c.isAlpha = true) :
    65 ≤ c.toNat ∧ c.toNat ≤ 90 ∨ 97 ≤ c.toNat ∧ c.toNat ≤ 122 := by
  rcases (Bool.or_eq_true c.isUpper c.isLower).mp letter with upper | lower
  · have between : 'A'.val ≤ c.val ∧ c.val ≤ 'Z'.val := of_decide_eq_true upper
    exact .inl ⟨UInt32.le_iff_toNat_le.1 between.1, UInt32.le_iff_toNat_le.1 between.2⟩
  · obtain ⟨above, below⟩ := (Bool.and_eq_true _ _).mp lower
    have first : 'a'.val ≤ c.val := of_decide_eq_true above
    have last : c.val ≤ 'z'.val := of_decide_eq_true below
    exact .inr ⟨UInt32.le_iff_toNat_le.1 first, UInt32.le_iff_toNat_le.1 last⟩

/-- The code points of decimal digits: ten from a zero on. -/
theorem exists_zero {c : Char} (digit : isDecimal c = true) :
    ∃ first ∈ digitZeros, first ≤ c.toNat ∧ c.toNat < first + 10 := by
  obtain ⟨value, found⟩ := Option.isSome_iff_exists.1 digit
  obtain ⟨first, hit, -⟩ := Option.map_eq_some_iff.1 found
  have between := List.find?_some hit
  simp only [Bool.and_eq_true, decide_eq_true_eq] at between
  exact ⟨first, List.mem_of_find?_eq_some hit, between⟩

/-- A code point outside the ranges of whitespace and off the two brackets ends no word. -/
theorem endsTail_of_ranges {c : Char}
    (ranges : ∀ range ∈ blankRanges, range.2 < c.toNat ∨ c.toNat < range.1)
    (opens : c.toNat ≠ 91) (closes : c.toNat ≠ 93) : endsTail c = false := by
  rw [endsTail_eq_false]
  refine ⟨?_, ?_, ?_⟩
  · rw [isBlank, List.any_eq_false]
    intro range member
    have := ranges range member
    simp only [Bool.and_eq_true, decide_eq_true_eq, not_and]
    omega
  · rintro rfl
    exact opens rfl
  · rintro rfl
    exact closes rfl

/-- A letter is neither whitespace nor a bracket. -/
theorem endsTail_of_isAlpha {c : Char} (letter : c.isAlpha = true) : endsTail c = false := by
  have ranges : ∀ range ∈ blankRanges, range.2 < 65 ∨ 122 < range.1 := by decide
  have between := toNat_of_isAlpha letter
  refine endsTail_of_ranges (fun range member => ?_) (by omega) (by omega)
  have := ranges range member
  omega

/-- A decimal digit of any script is neither whitespace nor a bracket. -/
theorem endsTail_of_isDecimal {c : Char} (digit : isDecimal c = true) : endsTail c = false := by
  have ranges : ∀ first ∈ digitZeros, ∀ range ∈ blankRanges,
      range.2 < first ∨ first + 10 ≤ range.1 := by decide
  have brackets : ∀ first ∈ digitZeros, (91 < first ∨ first + 10 ≤ 91) ∧
      (93 < first ∨ first + 10 ≤ 93) := by decide
  obtain ⟨first, member, between⟩ := exists_zero digit
  have := brackets first member
  refine endsTail_of_ranges (fun range inRanges => ?_) (by omega) (by omega)
  have := ranges first member range inRanges
  omega

/-- An identifier is made of letters and digits. -/
theorem isIdentifier_mem {t : Text} (identifier : isIdentifier t = true) {c : Char}
    (member : c ∈ t) : c.isAlpha = true ∨ isDecimal c = true := by
  simp only [isIdentifier, Bool.and_eq_true, List.all_eq_true] at identifier
  rw [← List.takeWhile_append_dropWhile (p := Char.isAlpha) (l := t), List.mem_append] at member
  rcases member with letter | digit
  · exact .inl (List.all_eq_true.1 List.all_takeWhile c letter)
  · exact .inr (identifier.2 c digit)

theorem unbroken_of_isIdentifier {t : Text} (identifier : isIdentifier t = true) : Unbroken t := by
  intro c member
  rcases isIdentifier_mem identifier member with letter | digit
  · exact endsTail_of_isAlpha letter
  · exact endsTail_of_isDecimal digit

theorem star_notMem_of_isIdentifier {t : Text} (identifier : isIdentifier t = true) : '*' ∉ t := by
  intro member
  rcases isIdentifier_mem identifier member with letter | digit
  · exact absurd letter (by decide)
  · exact absurd digit (by decide)

/-- No letter is a decimal digit. -/
theorem isAlpha_eq_false_of_isDecimal {c : Char} (digit : isDecimal c = true) :
    c.isAlpha = false := by
  have ranges : ∀ first ∈ digitZeros, first + 10 ≤ 65 ∨ 122 < first := by decide
  obtain ⟨first, member, between⟩ := exists_zero digit
  rw [← Bool.not_eq_true]
  intro letter
  have := ranges first member
  have := toNat_of_isAlpha letter
  omega

/-! ## Words of one class -/

theorem Unbroken.dropFinalNewline_eq {t : Text} (unbroken : Unbroken t) :
    dropFinalNewline t = t := by
  have noBreak : t.getLast? ≠ some '\n' := by
    intro last
    have blank : isBlank '\n' = true := by decide
    have plain := unbroken _ (List.mem_of_getLast? last)
    rw [(endsTail_eq_false.1 plain).1] at blank
    cases blank
  rw [dropFinalNewline, if_neg noBreak]

/-- The first letters of a word of letters and then digits. -/
theorem takeWhile_letters {letters digits : Text} (all : letters.all Char.isAlpha = true)
    (decimal : ∀ c ∈ digits, isDecimal c = true) :
    (letters ++ digits).takeWhile Char.isAlpha = letters ∧
      (letters ++ digits).dropWhile Char.isAlpha = digits := by
  rw [List.all_eq_true] at all
  rw [List.takeWhile_append_of_pos all, List.dropWhile_append_of_pos all]
  cases digits with
  | nil => simp
  | cons c digits =>
      have noLetter := isAlpha_eq_false_of_isDecimal (decimal c List.mem_cons_self)
      simp [noLetter]

theorem isIdentifier_append {letters digits : Text} (name : isLetters letters = true)
    (decimal : ∀ c ∈ digits, isDecimal c = true) : isIdentifier (letters ++ digits) = true := by
  rw [isLetters, Bool.and_eq_true] at name
  obtain ⟨taken, dropped⟩ := takeWhile_letters name.2 decimal
  rw [isIdentifier, taken, dropped, name.1, Bool.true_and, List.all_eq_true]
  exact decimal

/-- An identifier is letters and then digits. -/
theorem exists_letters_digits {t : Text} (identifier : isIdentifier t = true) :
    ∃ letters digits, t = letters ++ digits ∧ isLetters letters = true ∧
      ∀ c ∈ digits, isDecimal c = true := by
  simp only [isIdentifier, Bool.and_eq_true, List.all_eq_true] at identifier
  refine ⟨t.takeWhile Char.isAlpha, t.dropWhile Char.isAlpha,
    List.takeWhile_append_dropWhile.symm, ?_, identifier.2⟩
  rw [isLetters, identifier.1, List.all_takeWhile]
  rfl

/-- What may stand for a rest is an unbroken word without `*`. -/
theorem isRestSymbol_iff {t : Text} :
    isRestSymbol t = true ↔ t ≠ [] ∧ Unbroken t ∧ '*' ∉ t := by
  simp only [isRestSymbol, isForbiddenInRest, Bool.and_eq_true, Bool.not_eq_true',
    List.isEmpty_eq_false_iff, List.any_eq_false, Bool.or_eq_true, decide_eq_true_eq, not_or]
  refine and_congr_right fun _ => ?_
  constructor
  · intro allowed
    refine ⟨fun c member => ?_, fun member => (allowed '*' member).2 rfl⟩
    obtain ⟨⟨⟨blank, opens⟩, closes⟩, -⟩ := allowed c member
    exact endsTail_eq_false.2 ⟨Bool.eq_false_iff.2 blank, opens, closes⟩
  · rintro ⟨unbroken, noStar⟩ c member
    obtain ⟨blank, opens, closes⟩ := endsTail_eq_false.1 (unbroken c member)
    exact ⟨⟨⟨Bool.eq_false_iff.1 blank, opens⟩, closes⟩, fun same => noStar (same ▸ member)⟩

end StepPattern.Text
