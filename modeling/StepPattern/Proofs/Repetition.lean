/-
# StepPattern.Proofs.Repetition -- a repetition copies one evaluation

A count stands behind a bracket, behind a value, or is the parameter of `repeat`.
Behind a bracket it has no part in the evaluation: the bracket is evaluated once, with
its draws, and its steps are copied, or none is left if the copies pass the step limit.

A value is repeated in three ways: by a count of its own, by the count of a group around
it, and by `repeat`.  All three give the same steps (`compile_counted`).
-/
import StepPattern.Proofs.Bracketed
import StepPattern.Proofs.Meaning

namespace StepPattern

set_option autoImplicit false

open Text Grammar

/-! ## A bracket with and without a count -/

theorem Yield.start_times (source : Twister) (count : Nat) :
    (Yield.start source).times count = .start source := by
  rw [Yield.times, Yield.start, List.flatten_replicate_nil]

/-- **A bracket gives copies of one yield**: its count has no part in what is copied. -/
theorem Tree.exists_yield_bracket (s : CompileSettings) (r : Registry) {name inside : Text}
    (named : Named name) (balanced : Balanced inside) (source : Twister) :
    ∃ piece : Yield, ∀ {tail count}, Times tail count →
      Tree.yield s r (Tree.parse s (name ++ '[' :: (inside ++ ']' :: tail)) 0).tokens source =
        (piece.times (count.getD 1)).capped := by
  rcases Tree.exists_parse_bracket s named balanced with ⟨call, children, parsed⟩ | nothing
  · refine ⟨Token.once (s.setting r) source (.bracket call inside children none), ?_⟩
    intro tail count times
    rw [parsed times, Tree.yield_singleton]
    rfl
  · refine ⟨.start source, ?_⟩
    intro tail count times
    have short : (Yield.start source).sequence.length ≤ maxSteps := Nat.zero_le _
    rw [nothing times, Yield.start_times, Yield.capped_of_le short]
    rfl

/-! ## The ways to repeat a value -/

namespace Token

variable (c : Setting) (source : Twister) (v : Text)

/-- A value alone in a bracket is its one step. -/
theorem yieldFrom_literal :
    yieldFrom c (.start source) [.literal v] =
      { sequence := [literalValue c.restSymbol v], source } := by
  have one : 1 ≤ maxSteps := by decide
  rw [yieldFrom, yieldFrom, Yield.start_add, once, count, Yield.times_one]
  exact Yield.capped_replicate one _ source

theorem alone_repeated {n : Nat} (few : n ≤ maxSteps) :
    alone c source (.repeated v n) =
      { sequence := List.replicate n (literalValue c.restSymbol v), source } := by
  rw [alone, once, count, Yield.times, List.flatten_replicate_singleton]
  exact Yield.capped_replicate few _ source

theorem alone_group {n : Nat} (few : n ≤ maxSteps) (inner : Text) :
    alone c source (.bracket none inner [.literal v] (some n)) =
      { sequence := List.replicate n (literalValue c.restSymbol v), source } := by
  rw [alone, once, yieldFrom_literal, Setting.called, count, Option.getD_some, Yield.times,
    List.flatten_replicate_singleton]
  exact Yield.capped_replicate few _ source

end Token

/-- `repeat` on a single step gives copies of it, as many as its parameter says. -/
theorem Registry.call_repeat {r : Registry}
    (builtIn : r.find? "repeat".toList = builtin.find? "repeat".toList) (loud : Bool) {n : Nat}
    (few : n ≤ maxCopies) (v : Value) (g : Twister) :
    r.call loud ⟨"repeat".toList, some n⟩ .none [v] g = ⟨List.replicate n v, [], g⟩ := by
  have found : builtin.find? "repeat".toList = some (.requiring Transform.copiesBy) := rfl
  have within : ¬((n : Int) > maxCopies ∨ (([v] : Sequence).length : Int) * n > maxSteps) := by
    have wide : maxCopies ≤ maxSteps := by decide
    rw [List.length_singleton]
    omega
  have copied : Transform.copiesBy (.int n) [v] = .ok (List.replicate n v) := by
    show Transform.copies n [v] = _
    rw [Transform.copies, if_neg within, List.flatMap_singleton, Int.toNat_natCast]
  rw [Registry.call, builtIn, found]
  show Registry.run (.requiring Transform.copiesBy) loud "repeat".toList (.int n) [v] g = _
  simp only [Registry.run, Registry.parameter, Definition.requiring, copied]

theorem Token.alone_repeat {c : Setting}
    (builtIn : c.registry.find? "repeat".toList = Registry.builtin.find? "repeat".toList)
    (source : Twister) (v : Text) {n : Nat} (few : n ≤ maxCopies) (inner : Text) :
    Token.alone c source (.bracket (some ⟨"repeat".toList, some n⟩) inner [.literal v] none) =
      { sequence := List.replicate n (literalValue c.restSymbol v), source } := by
  have short : n ≤ maxSteps := Nat.le_trans few (by decide)
  rw [alone, once, yieldFrom_literal, count, Option.getD_none, Yield.times_one]
  simp only [Setting.called, Registry.call_repeat builtIn c.loud few]
  exact Yield.capped_replicate short _ source

/-! ## Repetitions -/

theorem replicate_literalValue_allSteps (restSymbol v : Text) (n : Nat) :
    AllSteps (List.replicate n (literalValue restSymbol v)) := by
  rw [← List.map_replicate]
  exact allSteps_map_literalValue restSymbol _

/-- A text of one item gives what its token gives alone, where that is made of steps. -/
theorem compile_item (r : Registry) (s : CompileSettings) {token : Token} {t : Text}
    {source after : Twister} {sequence : Sequence}
    (parsed : (Tree.parse s t 0).tokens = [token])
    (gives : token.alone (s.setting r) source = { sequence, source := after })
    (steps : AllSteps sequence) :
    ∃ log, compile r (.checked s) (.text t) (some source) = .ok ⟨sequence, log, some after⟩ := by
  obtain ⟨log, compiled⟩ := compile_text_eq r s t source
  rw [parsed, Tree.yield_singleton, gives, s.finished_eq_self steps] at compiled
  exact ⟨log, compiled⟩

/-- **A repetition copies one evaluation.**  Let a bracket have any name and any balanced inside.
With a count it compiles to copies of what it compiles to without, or to nothing if these pass the
step limit, and it leaves the same source.  A value with a count, a group of the value with the
count, and `repeat` with the count for its parameter all compile to the same steps. -/
theorem compile_counted (r : Registry) (s : CompileSettings) {count : Text} {n : Nat}
    (counts : Count count n) (source : Twister) :
    (s.normalize.truthy = false → ∀ name inside, Named name → Balanced inside →
      ∃ once after log countedLog,
        compile r (.checked s) (.text (name ++ '[' :: (inside ++ [']']))) (some source) =
          .ok ⟨once, log, some after⟩ ∧
        compile r (.checked s) (.text (name ++ '[' :: (inside ++ ']' :: '*' :: count)))
            (some source) =
          .ok ⟨if n * once.length ≤ maxSteps then (List.replicate n once).flatten else [],
            countedLog, some after⟩) ∧
    (1 ≤ s.depthLimit → r.find? "repeat".toList = Registry.builtin.find? "repeat".toList →
      ∀ v digits, Grammar.Value s.restSymbol v → Digits digits → digitsValue digits = n →
        ∃ steps log₁ log₂ log₃, steps = List.replicate n (valueMeaning s.restSymbol v) ∧
          compile r (.checked s) (.text (v ++ '*' :: count)) (some source) =
            .ok ⟨steps, log₁, some source⟩ ∧
          compile r (.checked s) (.text ('[' :: (v ++ ']' :: '*' :: count))) (some source) =
            .ok ⟨steps, log₂, some source⟩ ∧
          compile r (.checked s) (.text ("repeat".toList ++ digits ++ '[' :: (v ++ [']'])))
              (some source) =
            .ok ⟨steps, log₃, some source⟩) := by
  constructor
  · intro untouched name inside named balanced
    obtain ⟨piece, gives⟩ := Tree.exists_yield_bracket s r named balanced source
    obtain ⟨log, compiled⟩ := compile_text_eq r s (name ++ '[' :: (inside ++ [']'])) source
    obtain ⟨countedLog, counted⟩ :=
      compile_text_eq r s (name ++ '[' :: (inside ++ ']' :: '*' :: count)) source
    rw [gives .none, Option.getD_none, Yield.times_one, s.finished_of_untouched untouched]
      at compiled
    rw [gives (.count counts), Option.getD_some, s.finished_of_untouched untouched,
      piece.sequence_capped_times counts.2.1] at counted
    exact ⟨_, _, log, countedLog, compiled, counted⟩
  · intro room builtIn v digits value decimal written
    obtain ⟨lower, deep⟩ : ∃ lower, s.depthLimit = lower + 1 := ⟨s.depthLimit - 1, by omega⟩
    have few : n ≤ maxCopies := counts.2.2
    have short : n ≤ maxSteps := Nat.le_trans few (by decide)
    have steps : AllSteps (List.replicate n (literalValue s.restSymbol v)) :=
      replicate_literalValue_allSteps s.restSymbol v n
    have alone : Pattern s.restSymbol lower [.literal v] v := (Item.value value).pattern
    -- The three texts are items, and each token gives the same steps.
    have counted : Item s.restSymbol (lower + 1) (.repeated v n) (v ++ '*' :: count) :=
      .repeated value counts
    have group : Item s.restSymbol (lower + 1) (.bracket none v [.literal v] (some n))
        ([] ++ '[' :: (v ++ ']' :: '*' :: count)) := .bracket .none alone (.count counts)
    have call : Item s.restSymbol (lower + 1)
        (.bracket (some ⟨"repeat".toList, some n⟩) v [.literal v] none)
        ("repeat".toList ++ digits ++ '[' :: (v ++ [']'])) := by
      rw [← written]
      exact .bracket (.fused (by decide) decimal) alone .none
    obtain ⟨log₁, first⟩ := compile_item r s (Tree.parse_item deep counted)
      (Token.alone_repeated (s.setting r) source v short) steps
    obtain ⟨log₂, second⟩ := compile_item r s (Tree.parse_item deep group)
      (Token.alone_group (s.setting r) source v short v) steps
    obtain ⟨log₃, third⟩ := compile_item r s (Tree.parse_item deep call)
      (Token.alone_repeat builtIn source v few v) steps
    have meant : literalValue (s.setting r).restSymbol v = valueMeaning s.restSymbol v :=
      value.literalValue_eq
    rw [meant] at first second third
    exact ⟨_, log₁, log₂, log₃, rfl, first, second, third⟩

/-- A call that draws, with a flaw inside, and the three ways to repeat a note. -/
theorem compile_counted_drawing_call :
    ∃ once after log countedLog log₁ log₂ log₃,
      compile .builtin (.checked .default) (.text "scramble[1 x 2]".toList) (some (.ofSeed 0)) =
        .ok ⟨once, log, some after⟩ ∧
      compile .builtin (.checked .default) (.text "scramble[1 x 2]*3".toList) (some (.ofSeed 0)) =
        .ok ⟨if 3 * once.length ≤ maxSteps then (List.replicate 3 once).flatten else [],
          countedLog, some after⟩ ∧
      compile .builtin (.checked .default) (.text "-5*3".toList) (some (.ofSeed 0)) =
        .ok ⟨[.note (-5), .note (-5), .note (-5)], log₁, some (.ofSeed 0)⟩ ∧
      compile .builtin (.checked .default) (.text "[-5]*3".toList) (some (.ofSeed 0)) =
        .ok ⟨[.note (-5), .note (-5), .note (-5)], log₂, some (.ofSeed 0)⟩ ∧
      compile .builtin (.checked .default) (.text "repeat3[-5]".toList) (some (.ofSeed 0)) =
        .ok ⟨[.note (-5), .note (-5), .note (-5)], log₃, some (.ofSeed 0)⟩ := by
  have single : ∀ {c : Char}, isDecimal c = true → Digits [c] := fun decimal =>
    ⟨List.cons_ne_nil _ _, List.forall_mem_singleton.2 decimal, (by decide : 1 ≤ maxDigits)⟩
  have three : Digits ['3'] := single rfl
  have counts : Count ['3'] 3 := ⟨.plain three, by decide, by decide⟩
  have value : Grammar.Value CompileSettings.default.restSymbol ['-', '5'] :=
    .inr ⟨_, .minus (single rfl)⟩
  obtain ⟨copies, ways⟩ := compile_counted .builtin .default counts (.ofSeed 0)
  obtain ⟨once, after, log, countedLog, alone, counted⟩ :=
    copies rfl "scramble".toList "1 x 2".toList (.inr (by decide)) (balanced_iff.2 rfl)
  obtain ⟨steps, log₁, log₂, log₃, rfl, first, second, third⟩ :=
    ways (by decide) rfl ['-', '5'] ['3'] value three rfl
  exact ⟨once, after, log, countedLog, log₁, log₂, log₃, alone, counted, first, second, third⟩

end StepPattern
