/-
# StepPattern.Proofs.Agreement -- the scan and the classification agree on brackets

A scan cuts raw tokens out of a text, and the classification looks for the bracket
in each of them again, with rules of its own for names, brackets and counts.  What
the one takes for a token the other never finds misshapen (`classify_agrees`): the
bracket that it finds is the one in which the scan was, and only a count, or a
parameter with too many digits, can be wrong with it.
-/
import StepPattern.Proofs.Classify
import StepPattern.Proofs.RawTokens

namespace StepPattern

set_option autoImplicit false

open Text Scanner

/-- Whether an error finds fault with how brackets are paired, or with what stands directly before
or behind them. -/
def PatternError.isMisshapen : PatternError → Bool
  | strayBracket _ | unfinished _ _ | unmatchedBracket _ | unclosedBracket _ | unexpectedTail _ _
  | nameMalformed _ _ | nameNotText _ | nameInvalid _ => true
  | _ => false

/-- Brackets that are not balanced are misshapen. -/
theorem PatternError.errorClass_ne_unbalanced {error : PatternError}
    (shapely : error.isMisshapen = false) : error.errorClass ≠ .unbalancedBrackets := by
  cases error with
  | unfinished | unclosedBracket => simp [isMisshapen] at shapely
  | _ => simp [errorClass]

namespace Token

variable {restSymbol raw rest : Text} {error : PatternError}

/-! ## Errors of the parts -/

theorem shapely_of_readCount {t : Text} (refused : readCount t raw = .error error) :
    error.isMisshapen = false := by
  unfold readCount at refused
  split at refused
  · cases refused
    rfl
  split at refused
  · cases refused
    rfl
  split at refused
  · cases refused
    rfl
  split at refused
  · cases refused
    rfl
  split at refused
  · cases refused
    rfl
  · cases refused

/-- What belongs to a bracket behind it can only be a bad count. -/
theorem exists_count_of_readTail {tail : Text} (ends : Tail tail rest)
    (refused : readTail tail raw = .error error) :
    ∃ count, tail = '*' :: count ∧ readCount count raw = .error error := by
  cases ends with
  | none => cases refused
  | @count count _ unbroken =>
      rw [readTail] at refused
      exact ⟨count, rfl, map_eq_error_iff.1 refused⟩

/-- `Overlong name error`: a name is letters with too many digits behind them, as the error says. -/
def Overlong (name : Text) (error : PatternError) : Prop :=
  ∃ letters digits, name = letters ++ digits ∧ isLetters letters = true ∧
    (∀ c ∈ digits, isDecimal c = true) ∧ maxDigits < digits.length ∧
      error = .parameterTooLong letters

/-- What belongs to a bracket before it can only have too many digits. -/
theorem overlong_of_readName {name : Text} (named : Named name)
    (refused : readName name raw = .error error) : Overlong name error := by
  rcases named with rfl | identifier
  · cases refused
  · obtain ⟨letters, digits, rfl, isWord, decimal⟩ := exists_letters_digits identifier
    rw [readName_letters_append raw isWord decimal,
      Call.ofText_letters_append isWord decimal] at refused
    split at refused
    · cases refused
    · rename_i someDigits
      cases value : digitsValue? digits with
      | some n =>
          rw [value] at refused
          cases refused
      | none =>
          rw [value] at refused
          cases refused
          refine ⟨letters, digits, rfl, isWord, decimal, Nat.lt_of_not_le fun short => ?_, rfl⟩
          have readable := Grammar.digitsValue?_eq_some_iff.2
            ⟨⟨fun none => someDigits (List.isEmpty_iff.2 none), decimal, short⟩, rfl⟩
          rw [value] at readable
          cases readable

/-! ## Errors of raw tokens -/

/-- A bracket is refused for its count, or else for its name. -/
theorem classify_bracket_error {name inside tail : Text} (named : Named name)
    (balanced : within 0 inside = some 0) (ends : Tail tail rest)
    (refused : classify restSymbol (name ++ '[' :: (inside ++ ']' :: tail)) = .error error) :
    (∃ count, tail = '*' :: count ∧
      readCount count (name ++ '[' :: (inside ++ ']' :: tail)) = .error error) ∨
    Overlong name error := by
  rw [classify_bracket restSymbol tail named balanced] at refused
  rcases bind_eq_error_iff.1 refused with counted | ⟨count, -, called⟩
  · exact .inl (exists_count_of_readTail ends counted)
  · exact .inr (overlong_of_readName named (map_eq_error_iff.1 called))

theorem shapely_of_classifyLiteral (refused : classifyLiteral restSymbol raw = .error error) :
    error.isMisshapen = false := by
  unfold classifyLiteral at refused
  split at refused
  · cases refused
  split at refused
  · cases refused
    rfl
  split at refused
  · cases refused
    rfl
  · cases refused

theorem shapely_of_classifyRepeat {t count : Text} (first : '*' ∉ t)
    (refused : classifyRepeat restSymbol (t ++ '*' :: count) = .error error) :
    error.isMisshapen = false := by
  rw [classifyRepeat_append first] at refused
  generalize t ++ '*' :: count = raw at refused
  split at refused
  · cases refused
    rfl
  rcases bind_eq_error_iff.1 refused with counted | ⟨n, -, refused⟩
  · exact shapely_of_readCount counted
  split at refused
  · cases refused
  split at refused
  · cases refused
    rfl
  split at refused
  · cases refused
    rfl
  · cases refused

/-- No token of a scan is misshapen. -/
theorem shapely_of_classify {position : Nat} (first : Piece.First position (.token raw) rest)
    (refused : classify restSymbol raw = .error error) : error.isMisshapen = false := by
  cases first with
  | word nonempty unbroken =>
      rw [classify_word unbroken] at refused
      split at refused
      · rename_i starred
        obtain ⟨t, count, rfl, noStar⟩ := List.eq_append_cons_of_mem starred
        exact shapely_of_classifyRepeat noStar refused
      · exact shapely_of_classifyLiteral refused
  | bracket named balanced ends =>
      rcases classify_bracket_error named balanced ends refused with ⟨count, -, counted⟩ | overlong
      · exact shapely_of_readCount counted
      · obtain ⟨letters, digits, -, -, -, -, rfl⟩ := overlong
        rfl

/-! ## The bracket of a raw token -/

/-- `Encloses name inside`: a scan that reads `name`, an opening bracket and `inside` is in brackets
from the opening one on, and out of them with one closing bracket more. -/
def Encloses (name inside : Text) : Prop :=
  (∀ p, p <+: name → depthAt p = 0) ∧ (∀ p, p <+: inside → depthAt (name ++ '[' :: p) ≠ 0) ∧
    depthAt (name ++ '[' :: (inside ++ [']'])) = 0

theorem encloses_of_within {name inside : Text} (named : Named name)
    (balanced : within 0 inside = some 0) : Encloses name inside := by
  refine ⟨?_, ?_, ?_⟩
  · rintro p ⟨more, rfl⟩
    have unbroken := (unbroken_append.1 named.unbroken).1
    rw [depthAt_eq, depth_eq_of_within (unbroken.within_eq 0)]
  · rintro p ⟨more, rfl⟩
    rw [within_append] at balanced
    obtain ⟨left, stillOpen, -⟩ := Option.bind_eq_some_iff.1 balanced
    rw [depthAt_eq, Piece.depth_unfinished named stillOpen]
    exact Nat.succ_ne_zero left
  · have ends : Tail [] [] := .none (by simp)
    have whole : Piece.First 0 (.token (name ++ '[' :: (inside ++ [']']))) [] :=
      .bracket named balanced ends
    rw [depthAt_eq, depth_eq_of_within (whole.within_eq 0)]

/-- **The scan and the classification agree on brackets.**  No raw token of any text is refused for
brackets that are not balanced or do not match, for what stands behind its bracket where there is no
`*`, or for a name that is no word.  One with a bracket is refused only for its count or for too many
digits in its name; and what is taken for the inside is what the scan went through in brackets,
which is shorter than the raw token. -/
theorem classify_agrees (restSymbol : Text) {t raw : Text} (member : raw ∈ Piece.rawTokens t) :
    (∀ error, classify restSymbol raw = .error error →
      error.errorClass ≠ .unbalancedBrackets ∧ error.isMisshapen = false) ∧
    ('[' ∈ raw ∨ ']' ∈ raw → ∃ name inside tail,
      raw = name ++ '[' :: (inside ++ ']' :: tail) ∧ Encloses name inside ∧
      (∀ error, classify restSymbol raw = .error error →
        (∃ count, tail = '*' :: count ∧ readCount count raw = .error error) ∨
          Overlong name error) ∧
      ∀ token, classify restSymbol raw = .ok token →
        ∃ call count, token = .bracket call inside [] count ∧ inside.length < raw.length) := by
  obtain ⟨start, after, first⟩ := Piece.exists_first_of_rawToken member
  refine ⟨fun error refused => ?_, fun bracket => ?_⟩
  · have shapely := shapely_of_classify first refused
    exact ⟨PatternError.errorClass_ne_unbalanced shapely, shapely⟩
  · cases first with
    | word nonempty unbroken =>
        rcases bracket with opened | closed
        · exact absurd opened unbroken.open_notMem
        · exact absurd closed unbroken.close_notMem
    | @bracket name inside tail _ named balanced ends =>
        refine ⟨name, inside, tail, rfl, encloses_of_within named balanced, ?refused, ?accepted⟩
        case refused =>
          intro error refused
          exact classify_bracket_error named balanced ends refused
        case accepted =>
          intro token accepted
          obtain ⟨call, count, -, -, rfl⟩ :=
            (classify_bracket_eq_ok_iff named balanced ends).1 accepted
          refine ⟨call, count, rfl, ?_⟩
          simp only [List.length_append, List.length_cons]
          omega

/-- A call behind a stray bracket, with a count that is zero: it is refused, but not for its
brackets. -/
theorem classify_agrees_zero_count :
    "up[1 [2]]*0".toList ∈ Piece.rawTokens "3]up[1 [2]]*0".toList ∧
      (∀ error, classify ['-'] "up[1 [2]]*0".toList = .error error → error.isMisshapen = false) ∧
      ∃ name inside tail, "up[1 [2]]*0".toList = name ++ '[' :: (inside ++ ']' :: tail) ∧
        Encloses name inside := by
  have member : "up[1 [2]]*0".toList ∈ Piece.rawTokens "3]up[1 [2]]*0".toList := by decide +kernel
  obtain ⟨refused, bracket⟩ := classify_agrees ['-'] member
  obtain ⟨name, inside, tail, same, encloses, -⟩ := bracket (.inl (by decide))
  exact ⟨member, fun error bad => (refused error bad).2, name, inside, tail, same, encloses⟩

end Token

end StepPattern
