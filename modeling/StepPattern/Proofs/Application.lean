/-
# StepPattern.Proofs.Application -- a written call is an application

There are three ways to call a transform: by a name with digits before a bracket, by the
same text handed to `apply`, and by the name handed to `apply` with the number of the
digits for its parameter.  All of them come to one call, since a call with a parameter
depends on nothing but its name and that parameter (`Registry.call_congr`); an absent
parameter is not the same as zero.

A call in a text is applied to what its inside compiles to alone under a limit smaller by
one level, and goes on with the source that this leaves (`compile_call_eq_apply`).
-/
import StepPattern.Proofs.Bracketed
import StepPattern.Proofs.Meaning
import StepPattern.Proofs.Pruning

namespace StepPattern

set_option autoImplicit false

open Text Grammar

/-! ## The ways to hand over a parameter -/

/-- The parameter that digits behind a name write: none if there are no digits. -/
def Text.parameter? (digits : Text) : Option Nat :=
  if digits = [] then none else some (digitsValue digits)

namespace Grammar

/-- Letters and digits within the limit name a call. -/
theorem Name.of_append {letters digits : Text} (name : isLetters letters = true)
    (decimal : ∀ c ∈ digits, isDecimal c = true) (short : digits.length ≤ maxDigits) :
    Name (letters ++ digits) (some ⟨letters, digits.parameter?⟩) := by
  unfold parameter?
  by_cases empty : digits = []
  · subst empty
    rw [if_pos rfl, List.append_nil]
    exact .plain name
  · rw [if_neg empty]
    exact .fused name ⟨empty, decimal, short⟩

end Grammar

theorem Value.orElse_of_ne_none {v : Value} (given : v ≠ .none) (other : Value) :
    v.orElse other = v := by
  cases v with
  | none => exact absurd rfl given
  | _ => rfl

/-! ## Calls in texts -/

/-- **A call written in a text is an application.**  Let a bracket have letters and digits for its
name and any balanced inside.  It compiles to what `apply` makes, by that name, of what the inside
compiles to under a limit smaller by one, unless this passes the step limit, and leaves the same
source.  Digits fused to a name are its parameter, no digits are none, and a parameter that is
handed over wins over them. -/
theorem compile_call_eq_apply (r : Registry) (s : CompileSettings)
    (untouched : s.normalize.truthy = false) {letters digits inside : Text}
    (name : isLetters letters = true) (decimal : ∀ c ∈ digits, isDecimal c = true)
    (short : digits.length ≤ maxDigits) (balanced : Balanced inside) {lower : DepthLimit}
    (deeper : s.depthLimit = lower + 1) (source : Twister) :
    (∃ inner log between,
      compile r (.checked (s.withLimit lower)) (.text inside) (some source) =
        .ok ⟨inner, log, some between⟩ ∧
      let applied := r.apply s.loud (.text (letters ++ digits)) .none inner between
      ∃ log, compile r (.checked s) (.text (letters ++ digits ++ '[' :: (inside ++ [']'])))
          (some source) =
        .ok ⟨if applied.sequence.length ≤ maxSteps then applied.sequence else [], log,
          some applied.source⟩) ∧
    (∀ loud t g, r.apply loud (.text (letters ++ digits)) .none t g =
      r.apply loud (.text letters) (if digits = [] then .none else .int (digitsValue digits)) t g) ∧
    (∀ loud p t g, p ≠ .none → r.apply loud (.text (letters ++ digits)) p t g =
      r.apply loud (.text letters) p t g) := by
  have names : Name (letters ++ digits) (some ⟨letters, digits.parameter?⟩) :=
    .of_append name decimal short
  have written : Call.ofValue (.text (letters ++ digits)) = .ok ⟨letters, digits.parameter?⟩ :=
    names.ofText_eq
  have plain : Call.ofValue (.text letters) = .ok ⟨letters, none⟩ := (Name.plain name).ofText_eq
  refine ⟨?call, ?fused, ?explicit⟩
  case call =>
    obtain ⟨log, inner⟩ := compile_text_eq r (s.withLimit lower) inside source
    obtain ⟨outerLog, outer⟩ :=
      compile_text_eq r s (letters ++ digits ++ '[' :: (inside ++ [']'])) source
    rw [(s.withLimit lower).finished_of_untouched untouched,
      Tree.parse_withLimit_tokens] at inner
    rw [s.finished_of_untouched untouched, Tree.parse_bracket names balanced .none deeper,
      Tree.yield_singleton] at outer
    refine ⟨_, log, _, inner, outerLog, ?_⟩
    rw [outer, r.apply_of_written s.loud written, Token.alone, Token.once, Token.count,
      Option.getD_none, Yield.times_one]
    rfl
  case fused =>
    intro loud t g
    rw [r.apply_of_written loud written, r.apply_of_written loud plain]
    apply r.call_congr
    · rfl
    · unfold parameter?
      split <;> rfl
  case explicit =>
    intro loud p t g given
    rw [r.apply_of_written loud written, r.apply_of_written loud plain]
    apply r.call_congr
    · rfl
    · rw [Value.orElse_of_ne_none given, Value.orElse_of_ne_none given]

/-- A parameter of zero: written in a text, fused to a name, handed over, and overruled. -/
theorem compile_call_eq_apply_zero :
    (∃ inner log between,
      compile .builtin (.checked (CompileSettings.default.withLimit ⟨9, by decide⟩))
          (.text "1 2".toList) (some (.ofSeed 0)) = .ok ⟨inner, log, some between⟩ ∧
      let applied :=
        Registry.builtin.apply false (.text "scale0".toList) .none inner between
      ∃ log, compile .builtin (.checked .default) (.text "scale0[1 2]".toList)
          (some (.ofSeed 0)) =
        .ok ⟨if applied.sequence.length ≤ maxSteps then applied.sequence else [], log,
          some applied.source⟩) ∧
    Registry.builtin.apply false (.text "scale0".toList) .none [.note 1] (.ofSeed 0) =
      Registry.builtin.apply false (.text "scale".toList) (.int 0) [.note 1] (.ofSeed 0) ∧
    Registry.builtin.apply false (.text "scale0".toList) (.int 3) [.note 1] (.ofSeed 0) =
      Registry.builtin.apply false (.text "scale".toList) (.int 3) [.note 1] (.ofSeed 0) := by
  have name : isLetters "scale".toList = true := by decide
  have decimal : ∀ c ∈ ['0'], isDecimal c = true := List.forall_mem_singleton.2 rfl
  have balanced : Balanced "1 2".toList := balanced_iff.2 rfl
  have deeper : CompileSettings.default.depthLimit = (⟨9, by decide⟩ : DepthLimit) + 1 := rfl
  obtain ⟨call, fused, explicit⟩ :=
    compile_call_eq_apply .builtin .default rfl name decimal (by decide) balanced deeper (.ofSeed 0)
  exact ⟨call, fused false [.note 1] (.ofSeed 0),
    explicit false (.int 3) [.note 1] (.ofSeed 0) nofun⟩

end StepPattern
