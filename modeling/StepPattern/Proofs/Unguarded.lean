/-
# StepPattern.Proofs.Unguarded -- evaluation needs no guard

An evaluation converts the texts in a tree again, and this time nothing guards it.
In a well-formed tree every conversion succeeds, so the evaluation ends with a
sequence, whatever the registered transforms do, and a compilation never gets to
the record of its own failure.
-/
import StepPattern.Proofs.Steps

namespace StepPattern

set_option autoImplicit false

namespace Tree

open Token

/-- **Parsed trees are well formed, and evaluation cannot fail.**  The tree of any text at any
starting depth is well formed at all levels and nests within the levels left, and with every
registry and source it evaluates to a sequence.  A compilation therefore gives that sequence as it
is, and no record of a failure of its own, if it is not normalized or the transforms are the
built-in ones. -/
theorem parse_wellFormed (s : CompileSettings) (t : Text) :
    (∀ depth : Int, AllWellFormed s depth (parse s t depth).tokens ∧
      (nestingAll (parse s t depth).tokens : Int) ≤ max 0 (s.depthLimit - depth) ∧
      ∀ (r : Registry) (source : Twister), ∃ sequence,
        (evaluate (s.setting r) (parse s t depth).tokens source).result = .ok sequence) ∧
    ∀ (r : Registry) (source : Twister), s.normalize.truthy = false ∨ r = Registry.builtin →
      ∃ sequence, (evaluate (s.setting r) (parse s t 0).tokens source).result = .ok sequence ∧
        compileText r s t source =
          ⟨sequence,
            (parse s t 0).log ++ (evaluate (s.setting r) (parse s t 0).tokens source).log,
            (evaluate (s.setting r) (parse s t 0).tokens source).source⟩ := by
  constructor
  · intro depth
    obtain ⟨formed, nested⟩ := parse_allWellFormed s t depth
    refine ⟨formed, by omega, fun r source => ?_⟩
    obtain ⟨log, evaluated⟩ := evaluate_eq s r formed.readable source
    exact ⟨_, by rw [evaluated]⟩
  · intro r source guarded
    obtain ⟨formed, -⟩ := parse_allWellFormed s t 0
    obtain ⟨log, evaluated⟩ := evaluate_eq s r formed.readable source
    have unchanged : s.finish (yield s r (parse s t 0).tokens source).sequence =
        .ok (yield s r (parse s t 0).tokens source).sequence := by
      rcases guarded with untouched | rfl
      · exact s.finish_of_untouched untouched _
      · exact s.finish_of_allSteps (yield_builtin_allSteps s _ source)
    refine ⟨_, by rw [evaluated], ?_⟩
    simp only [compileText, evaluated, Except.bind, unchanged]

/-- A call of a transform that always fails, on a value and a repeated group. -/
theorem parse_wellFormed_failing_call :
    ∃ (r : Registry) (t : Text),
      r = [("x".toList, { run := fun _ _ g => (.error (.raised "no reason"), g) })] ∧
      t = "x[1 [-]*2]".toList ∧
      ∃ sequence,
        (evaluate (CompileSettings.default.setting r) (parse .default t 0).tokens
          (.ofSeed 0)).result = .ok sequence ∧
        compileText r .default t (.ofSeed 0) =
          ⟨sequence,
            (parse .default t 0).log ++
              (evaluate (CompileSettings.default.setting r) (parse .default t 0).tokens
                (.ofSeed 0)).log,
            (evaluate (CompileSettings.default.setting r) (parse .default t 0).tokens
              (.ofSeed 0)).source⟩ :=
  ⟨_, _, rfl, rfl, (parse_wellFormed .default _).2 _ _ (.inl rfl)⟩

end Tree

end StepPattern
