/-
# StepPattern.Proofs.Concatenation -- texts put together compile to sequences put together

Where a text ends outside all brackets and whitespace follows, the raw tokens of
the whole are those of the two parts, so it parses to the tokens of both, whatever
is wrong in either.

The step limit looks at the length of the whole sequence.  Behind a sequence that
is already there, tokens yield what they yield alone as long as both together keep
to the limit (`yieldFrom_behind`): what is dropped alone is dropped there too, and
nothing else.
-/
import StepPattern.Proofs.Steps

namespace StepPattern

set_option autoImplicit false

open Text

namespace Yield

theorem length_le_add (y piece : Yield) : y.sequence.length ≤ (y.add piece).sequence.length := by
  unfold add
  split
  · exact Nat.le_refl _
  · rw [length_behind]
    exact Nat.le_add_right _ _

/-- One piece is added or dropped behind a sequence as it would be alone. -/
theorem add_behind {before : Sequence} {y piece : Yield}
    (fits : before.length + (y.add piece).sequence.length ≤ maxSteps) :
    (y.behind before).add piece = (y.add piece).behind before := by
  by_cases together : y.sequence.length + piece.sequence.length ≤ maxSteps
  · rw [add_of_le together, length_behind] at fits
    have stillFits : (y.behind before).sequence.length + piece.sequence.length ≤ maxSteps := by
      rw [length_behind]
      omega
    rw [add_of_le together, add_of_le stillFits, behind_behind]
    rfl
  · have tooLong : y.sequence.length + piece.sequence.length > maxSteps := Nat.lt_of_not_le together
    have longer : (y.behind before).sequence.length + piece.sequence.length > maxSteps := by
      rw [length_behind]
      omega
    rw [add, add, if_pos tooLong, if_pos longer]
    rfl

end Yield

namespace Token

theorem length_le_yieldFrom (c : Setting) (y : Yield) (tokens : List Token) :
    y.sequence.length ≤ (yieldFrom c y tokens).sequence.length := by
  induction tokens generalizing y with
  | nil => exact Nat.le_refl _
  | cons token tokens ih => exact Nat.le_trans (y.length_le_add _) (ih _)

/-- **Tokens yield behind a sequence what they yield alone**, if both together fit. -/
theorem yieldFrom_behind (c : Setting) (before : Sequence) (y : Yield) (tokens : List Token)
    (fits : before.length + (yieldFrom c y tokens).sequence.length ≤ maxSteps) :
    yieldFrom c (y.behind before) tokens = (yieldFrom c y tokens).behind before := by
  induction tokens generalizing y with
  | nil => rfl
  | cons token tokens ih =>
      have grown := length_le_yieldFrom c (y.add ((once c y.source token).times token.count)) tokens
      have here : before.length +
          (y.add ((once c y.source token).times token.count)).sequence.length ≤ maxSteps := by
        rw [yieldFrom] at fits
        omega
      rw [yieldFrom, Yield.source_behind, Yield.add_behind here, ih _ fits, yieldFrom]

end Token

namespace Tree

/-- Where the first text ends outside all brackets, two texts with whitespace between them parse to
the tokens of both. -/
theorem parse_append_blank (s : CompileSettings) {x : Text} {w : Char} (outside : depth x = 0)
    (blank : isBlank w = true) (y : Text) (level : Int) :
    (parse s (x ++ w :: y) level).tokens =
      (parse s x level).tokens ++ (parse s y level).tokens := by
  simp only [parse, parseWithin_tokens, Piece.rawTokens_append_blank outside blank,
    List.flatMap_append]

theorem yield_append (s : CompileSettings) (r : Registry) (first second : List Token)
    (source : Twister)
    (fits : (yield s r first source).sequence.length +
      (yield s r second (yield s r first source).source).sequence.length ≤ maxSteps) :
    yield s r (first ++ second) source =
      (yield s r second (yield s r first source).source).behind
        (yield s r first source).sequence := by
  have resumed : (Yield.start (yield s r first source).source).behind
      (yield s r first source).sequence = yield s r first source := by
    rw [Yield.behind, Yield.start, List.append_nil]
  calc yield s r (first ++ second) source
      = Token.yieldFrom (s.setting r) (yield s r first source) second :=
        Token.yieldFrom_append _ _ _ _
    _ = Token.yieldFrom (s.setting r) ((Yield.start (yield s r first source).source).behind
          (yield s r first source).sequence) second := by rw [resumed]
    _ = (yield s r second (yield s r first source).source).behind
          (yield s r first source).sequence := Token.yieldFrom_behind _ _ _ _ fits

end Tree

/-- **Compilation is compositional.**  Let a text end outside all brackets, and whitespace and any
other text follow it: the whole parses to the tokens of both at every depth, and, if the two
sequences fit together, compiles to the one sequence behind the other, the second text drawing from
the source as the first left it. -/
theorem compile_append_blank (s : CompileSettings) {x : Text} {w : Char} (outside : depth x = 0)
    (blank : isBlank w = true) (y : Text) (source : Twister) :
    (∀ level, (Tree.parse s (x ++ w :: y) level).tokens =
      (Tree.parse s x level).tokens ++ (Tree.parse s y level).tokens) ∧
    ∃ (first second : Compiled) (between after : Twister),
      compile Registry.builtin (.checked s) (.text x) (some source) = .ok first ∧
      first.source = some between ∧
      compile Registry.builtin (.checked s) (.text y) (some between) = .ok second ∧
      second.source = some after ∧
      (first.sequence.length + second.sequence.length ≤ maxSteps →
        ∃ log, compile Registry.builtin (.checked s) (.text (x ++ w :: y)) (some source) =
          .ok ⟨first.sequence ++ second.sequence, log, some after⟩) := by
  have parsed := Tree.parse_append_blank s outside blank y
  refine ⟨parsed, ?_⟩
  obtain ⟨firstLog, first⟩ := compile_builtin_eq s x source
  obtain ⟨secondLog, second⟩ := compile_builtin_eq s y
    (Tree.yield s Registry.builtin (Tree.parse s x 0).tokens source).source
  refine ⟨_, _, _, _, first, rfl, second, rfl, fun fits => ?_⟩
  obtain ⟨log, whole⟩ := compile_builtin_eq s (x ++ w :: y) source
  refine ⟨log, whole.trans ?_⟩
  rw [parsed, Tree.yield_append s Registry.builtin _ _ source fits]
  rfl

/-- The first text may end in a stray bracket. -/
theorem compile_append_blank_stray :
    depth ['1', ' ', ']'] = 0 ∧ isBlank ' ' = true ∧
    ∃ log, compile Registry.builtin (.checked .default) (.text (['1', ' ', ']'] ++ ' ' :: ['2']))
      (some (Twister.ofSeed 0)) =
        .ok ⟨[.note 1, .note 2], log, some (Twister.ofSeed 0)⟩ := by
  refine ⟨rfl, rfl, ?_⟩
  have first : Tree.yield .default Registry.builtin
      (Tree.parse .default ['1', ' ', ']'] 0).tokens (Twister.ofSeed 0) =
        ⟨[.note 1], Twister.ofSeed 0⟩ := rfl
  have second : Tree.yield .default Registry.builtin (Tree.parse .default ['2'] 0).tokens
      (Twister.ofSeed 0) = ⟨[.note 2], Twister.ofSeed 0⟩ := rfl
  obtain ⟨firstLog, compiledFirst⟩ :=
    compile_builtin_eq .default ['1', ' ', ']'] (Twister.ofSeed 0)
  obtain ⟨secondLog, compiledSecond⟩ := compile_builtin_eq .default ['2'] (Twister.ofSeed 0)
  rw [first] at compiledFirst
  rw [second] at compiledSecond
  obtain ⟨-, one, two, between, after, compiledOne, left, compiledTwo, done, whole⟩ :=
    compile_append_blank .default (x := ['1', ' ', ']']) (w := ' ') rfl rfl ['2'] (Twister.ofSeed 0)
  obtain rfl := Except.ok.inj (compiledFirst.symm.trans compiledOne)
  obtain rfl := Option.some.inj left
  obtain rfl := Except.ok.inj (compiledSecond.symm.trans compiledTwo)
  obtain rfl := Option.some.inj done
  have fits : 1 + 1 ≤ maxSteps := by decide
  exact whole fits

end StepPattern
