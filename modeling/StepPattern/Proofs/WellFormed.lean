/-
# StepPattern.Proofs.WellFormed -- parsed trees are well formed

What a raw token was checked for still holds of the token in the tree, at every
level: values are rest symbols or numerals, counts are in range, names are letters,
and the children of a bracket are what its inside parses to one level deeper
(`Token.WellFormed`).  Brackets nest no deeper than the levels that are left.
-/
import StepPattern.Proofs.Classify
import StepPattern.Proofs.RawTokens

namespace StepPattern

set_option autoImplicit false

open Text

namespace Token

/-! ## Well-formed trees -/

theorem integer?_of_numeral {t : Text} {n : Int} (numeral : Grammar.Numeral t n) :
    integer? t = some n := by
  rw [integer?, numeral.unbroken.dropFinalNewline_eq]
  exact Grammar.numeral_iff.1 numeral

/-- Whether a text is the rest symbol, or a numeral that is converted to the integer it writes. -/
def Convertible (restSymbol t : Text) : Prop :=
  t = restSymbol ∨ ∃ n, Grammar.Numeral t n ∧ integer? t = some n

theorem convertible_of_value {restSymbol t : Text} (value : Grammar.Value restSymbol t) :
    Convertible restSymbol t := by
  rcases value with rest | ⟨n, numeral⟩
  · exact .inl rest
  · exact .inr ⟨n, numeral, integer?_of_numeral numeral⟩

mutual

/-- Whether a token that stands at some depth is what a raw token can stand for, with all that it
holds.  The parameter of a call is a natural number by its type. -/
def WellFormed (s : CompileSettings) (depth : Int) : Token → Prop
  | .literal text => Convertible s.restSymbol text
  | .repeated value count => Convertible s.restSymbol value ∧ 1 ≤ count ∧ count ≤ maxCount
  | .bracket call inner children count =>
      (∀ named ∈ call, isLetters named.name = true) ∧
        (∀ copies ∈ count, 1 ≤ copies ∧ copies ≤ maxCount) ∧
        children = (Tree.parse s inner (depth + 1)).tokens ∧ AllWellFormed s (depth + 1) children
termination_by structural token => token

def AllWellFormed (s : CompileSettings) (depth : Int) : List Token → Prop
  | [] => True
  | token :: tokens => WellFormed s depth token ∧ AllWellFormed s depth tokens
termination_by structural tokens => tokens

end

mutual

def nesting : Token → Nat
  | .literal _ | .repeated _ _ => 0
  | .bracket _ _ children _ => nestingAll children + 1
termination_by structural token => token

def nestingAll : List Token → Nat
  | [] => 0
  | token :: tokens => max (nesting token) (nestingAll tokens)
termination_by structural tokens => tokens

end

theorem allWellFormed_iff {s : CompileSettings} {depth : Int} {tokens : List Token} :
    AllWellFormed s depth tokens ↔ ∀ token ∈ tokens, WellFormed s depth token := by
  induction tokens with
  | nil => simp [AllWellFormed]
  | cons token tokens ih => rw [AllWellFormed, ih, List.forall_mem_cons]

theorem nestingAll_le_iff {tokens : List Token} {levels : Nat} :
    nestingAll tokens ≤ levels ↔ ∀ token ∈ tokens, nesting token ≤ levels := by
  induction tokens with
  | nil => simp [nestingAll]
  | cons token tokens ih => rw [nestingAll, Nat.max_le, ih, List.forall_mem_cons]

/-! ## What is parsed is well formed -/

theorem isLetters_of_name {t : Text} {call : Option Call} (names : Grammar.Name t call) :
    ∀ named ∈ call, isLetters named.name = true := by
  cases names with
  | none => exact fun _ member => nomatch member
  | plain name | fused name =>
      rintro named ⟨⟩
      exact name

theorem count_of_times {t : Text} {count : Option Nat} (times : Grammar.Times t count) :
    ∀ copies ∈ count, 1 ≤ copies ∧ copies ≤ maxCount := by
  cases times with
  | none => exact fun _ member => nomatch member
  | count counts =>
      rintro copies ⟨⟩
      exact counts.2

end Token

namespace Tree

open Token

variable {s : CompileSettings}

/-- What a raw token at some depth adds is well formed and within the levels left, if this is so of
the insides of brackets. -/
theorem parseToken_wellFormed {levels : Nat} {depth : Int}
    (left : levels = ((s.depthLimit : Int) - depth).toNat)
    (inside : ∀ inner, depth < s.depthLimit →
      AllWellFormed s (depth + 1) (parse s inner (depth + 1)).tokens ∧
        nestingAll (parse s inner (depth + 1)).tokens + 1 ≤ levels)
    {position : Nat} {raw rest : Text} (first : Piece.First position (.token raw) rest) :
    ∀ token ∈ (parseToken s (descend s levels) raw).tokens,
      WellFormed s depth token ∧ nesting token ≤ levels := by
  cases classified : classify s.restSymbol raw with
  | error error =>
      rw [parseToken, classified]
      exact List.forall_mem_nil _
  | ok token =>
      rw [parseToken, classified]
      cases raw_of_classify s.restSymbol_ok first classified with
      | value value =>
          exact List.forall_mem_singleton.2 ⟨convertible_of_value value, Nat.zero_le _⟩
      | repeated value counts =>
          exact List.forall_mem_singleton.2
            ⟨⟨convertible_of_value value, counts.2⟩, Nat.zero_le _⟩
      | @bracket _ inner _ _ _ names times =>
          cases levels with
          | zero => exact List.forall_mem_nil _
          | succ lower =>
              have below : ((s.depthLimit : Int) - (depth + 1)).toNat = lower := by omega
              have parsed : parseWithin s lower inner = parse s inner (depth + 1) := by
                rw [parse, below]
              obtain ⟨formed, nested⟩ := inside inner (by omega)
              simp only [descend, parsed]
              exact List.forall_mem_singleton.2
                ⟨⟨isLetters_of_name names, count_of_times times, rfl, formed⟩, nested⟩

/-- **Parsed trees are well formed** and nest within the levels left. -/
theorem parse_allWellFormed (s : CompileSettings) (t : Text) (depth : Int) :
    AllWellFormed s depth (parse s t depth).tokens ∧
      nestingAll (parse s t depth).tokens ≤ ((s.depthLimit : Int) - depth).toNat := by
  -- The induction is on the levels left; an inside has one less than its bracket.
  induction left : ((s.depthLimit : Int) - depth).toNat using Nat.strongRecOn
    generalizing depth t with
  | _ levels ih =>
      have inside : ∀ inner, depth < s.depthLimit →
          AllWellFormed s (depth + 1) (parse s inner (depth + 1)).tokens ∧
            nestingAll (parse s inner (depth + 1)).tokens + 1 ≤ levels := by
        intro inner room
        obtain ⟨formed, nested⟩ := ih _ (by omega) inner (depth + 1) rfl
        exact ⟨formed, by omega⟩
      have each : ∀ token ∈ (parse s t depth).tokens,
          WellFormed s depth token ∧ nesting token ≤ levels := by
        intro token member
        rw [parse, left, parseWithin_tokens] at member
        obtain ⟨raw, among, here⟩ := List.mem_flatMap.1 member
        obtain ⟨start, after, first⟩ := Piece.exists_first_of_rawToken among
        exact parseToken_wellFormed left.symm inside first token here
      exact ⟨allWellFormed_iff.2 fun token member => (each token member).1,
        nestingAll_le_iff.2 fun token member => (each token member).2⟩

end Tree

end StepPattern
