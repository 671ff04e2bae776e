/-
# StepPattern.Proofs.Registrations -- registered transforms are called by their names

A registration asks for a definition (`Registration.Defines`), and is accepted exactly if
its name is letters up to a final line break (`Registry.enter_eq_ok_iff`).  From then on
the name answers with that definition, in `apply` and before a bracket
(`Registry.Answers`): both read the same letters as the same call.

A final line break is overlooked where a registration is checked and where a name is read,
but not where a name is looked up.  So a transform that is registered with one is never
called: what is looked up is made of letters, whether it comes from `apply` or from the
tokens of a text, and two registries that agree on letters do the same
(`compile_congr`).
-/
import StepPattern.Proofs.Bracketed
import StepPattern.Proofs.Callees
import StepPattern.Proofs.Requests

namespace StepPattern

set_option autoImplicit false

open Text

/-! ## Registrations -/

/-- What a registration hands over. -/
structure Registration where
  name : Text
  run : TransformFunction
  mode : Value
  fallback : Value

/-- Whether a registration asks for a definition: its mode is the word for that of the definition. -/
def Registration.Defines (x : Registration) (d : Definition) : Prop :=
  ∃ word, x.mode = .text word ∧ ParameterMode.ofText? word = some d.mode ∧
    x.run = d.run ∧ x.fallback = d.fallback

namespace Registry

/-- A registry with a registration made, or the reason why it is refused. -/
def enter (r : Registry) (x : Registration) : Except Fault Registry :=
  r.register x.name x.run x.mode x.fallback

/-- A registry after registrations one by one; one that is refused changes nothing. -/
def registerAll (r : Registry) : List Registration → Registry
  | [] => r
  | x :: run =>
      match r.enter x with
      | .ok later => later.registerAll run
      | .error _ => r.registerAll run

theorem enter_eq_ok_iff {r later : Registry} {x : Registration} :
    r.enter x = .ok later ↔
      isLetters (dropFinalNewline x.name) = true ∧
        ∃ d, x.Defines d ∧ later = r.insert x.name d := by
  cases letters : isLetters (dropFinalNewline x.name) with
  | false => simp [enter, register, letters]
  | true =>
      simp only [enter, register, letters, Registration.Defines, true_and, Bool.not_true,
        Bool.false_eq_true, if_false]
      split
      case h_1 mode named =>
        split at named
        case h_1 word same =>
          rw [Except.ok.injEq, same]
          constructor
          · rintro rfl
            exact ⟨_, ⟨word, rfl, named, rfl, rfl⟩, rfl⟩
          · rintro ⟨d, ⟨_, ⟨⟩, other, run, fallback⟩, rfl⟩
            obtain rfl := Option.some.inj (named.symm.trans other)
            rw [run, fallback]
        case h_2 => cases named
      case h_2 unnamed =>
        refine iff_of_false (fun accepted => ?_) ?_
        · cases shown : x.mode.shown <;> rw [shown] at accepted <;> cases accepted
        · rintro ⟨d, ⟨word, same, named, -⟩, -⟩
          rw [same] at unnamed
          exact Option.some_ne_none _ (named.symm.trans unnamed)

/-- A transform without a parameter is registered under any name that is accepted. -/
theorem enter_without_parameter (r : Registry) {x : Registration}
    (letters : isLetters (dropFinalNewline x.name) = true) (mode : x.mode = .text "none".toList) :
    r.enter x = .ok (r.insert x.name ⟨x.run, .none, x.fallback⟩) :=
  enter_eq_ok_iff.2 ⟨letters, _, ⟨_, mode, rfl, rfl, rfl⟩, rfl⟩

/-- Whether every name in a registry is letters, one final line break overlooked. -/
def Lettered (r : Registry) : Prop :=
  ∀ entry ∈ r, isLetters (dropFinalNewline entry.1) = true

theorem lettered_builtin : builtin.Lettered := by
  unfold Lettered
  decide

theorem Lettered.enter {r later : Registry} {x : Registration} (lettered : r.Lettered)
    (accepted : r.enter x = .ok later) : later.Lettered := by
  obtain ⟨name, d, -, rfl⟩ := enter_eq_ok_iff.1 accepted
  intro entry member
  rcases List.mem_cons.1 member with rfl | old
  · exact name
  · exact lettered entry (List.mem_filter.1 old).1

theorem Lettered.registerAll {r : Registry} (lettered : r.Lettered) (run : List Registration) :
    (r.registerAll run).Lettered := by
  induction run generalizing r with
  | nil => exact lettered
  | cons x run ih =>
      rw [Registry.registerAll]
      split
      case h_1 later accepted => exact ih (lettered.enter accepted)
      case h_2 => exact ih lettered

end Registry

/-- `d.Dispatches loud name s g outcome`: a call of the definition by a name, without a parameter,
comes to an outcome.  A required parameter is missed, and otherwise the function is run on the
sequence with the parameter that is used where none is given. -/
inductive Definition.Dispatches (d : Definition) (loud : Bool) (name : Text) (s : Sequence)
    (g : Twister) : Outcome → Prop where
  | missing (mode : d.mode = .required) :
      Dispatches d loud name s g ⟨s, [.diagnostic loud (.parameterMissing name)], g⟩
  | gives {result : Sequence} {later : Twister} (mode : d.mode ≠ .required)
      (ran : d.run s d.fallback g = (.ok result, later)) :
      Dispatches d loud name s g ⟨result, [], later⟩
  | fails {fault : Fault} {later : Twister} (mode : d.mode ≠ .required)
      (ran : d.run s d.fallback g = (.error fault, later)) :
      Dispatches d loud name s g ⟨s, [Registry.faultEntry loud name fault], later⟩

namespace Registry

theorem run_dispatches (d : Definition) (loud : Bool) (name : Text) (s : Sequence) (g : Twister) :
    d.Dispatches loud name s g (run d loud name .none s g) := by
  by_cases mode : d.mode = .required
  · have missed : parameter d name .none = .error (.parameterMissing name) := if_pos mode
    rw [run, missed]
    exact .missing mode
  · have default : parameter d name .none = .ok d.fallback := if_neg mode
    rw [run, default]
    cases ran : d.run s d.fallback g with
    | mk result later =>
        cases result with
        | ok result => simpa only [ran] using .gives mode ran
        | error fault => simpa only [ran] using .fails mode ran

end Registry

/-! ## Names that answer -/

namespace Registry

/-- `r.Answers name d`: a name calls a definition.  Handed to `apply` without a parameter, it runs
the definition on the sequence.  Before a bracket it runs the definition on what is inside, and
what this gives is compiled, behind the log of the inside, if it is within the step limit. -/
structure Answers (r : Registry) (name : Text) (d : Definition) : Prop where
  applied : ∀ loud s g, d.Dispatches loud name s g (r.apply loud (.text name) .none s g)
  compiled : ∀ (s : CompileSettings) (inside : Text) (source : Twister),
    0 < s.depthLimit → Balanced inside →
      let parsed := Tree.parse s inside 1
      let evaluated := Tree.evaluate (s.setting r) parsed.tokens source
      ∃ inner outcome, evaluated.result = .ok inner ∧
        d.Dispatches s.loud name inner evaluated.source outcome ∧
        (outcome.sequence.length ≤ maxSteps → ∃ last,
          compile r (.checked s) (.text (name ++ '[' :: (inside ++ [']']))) (some source) =
            .ok ⟨s.finished outcome.sequence,
              parsed.log ++ (evaluated.log ++ outcome.log) ++ last, some outcome.source⟩ ∧
          ∀ finished, s.finish outcome.sequence = .ok finished → last = [])

theorem answers_of_find? {r : Registry} {name : Text} {d : Definition}
    (letters : isLetters name = true) (found : r.find? name = some d) : r.Answers name d := by
  have names : Grammar.Name name (some ⟨name, none⟩) := .plain letters
  have written : Call.ofValue (.text name) = .ok ⟨name, none⟩ := names.ofText_eq
  have called : ∀ loud s g, r.call loud ⟨name, none⟩ .none s g = run d loud name .none s g := by
    intro loud s g
    rw [call, found]
    rfl
  refine ⟨fun loud s g => ?_, fun s inside source room balanced => ?_⟩
  · rw [r.apply_of_written loud written, called]
    exact run_dispatches d loud name s g
  · intro parsed evaluated
    have readable : Token.AllReadable s.restSymbol parsed.tokens := Tree.parse_readable s inside 1
    obtain ⟨inner, log, between, gives⟩ :
        ∃ inner log between, evaluated = ⟨.ok inner, log, between⟩ := by
      obtain ⟨log, gives⟩ := Tree.evaluate_eq s r readable source
      exact ⟨_, log, _, gives⟩
    rw [gives]
    refine ⟨inner, _, rfl, run_dispatches d s.loud name inner between, fun fits => ?_⟩
    rw [← called] at fits ⊢
    have whole := Tree.parse_call names balanced room
    have alone := Tree.evaluate_call (s.setting r) gives ⟨name, none⟩ inside fits
    obtain ⟨last, compiled, only⟩ := compileText_of_evaluated whole alone
    have nonempty : name ++ '[' :: (inside ++ [']']) ≠ [] := by simp
    refine ⟨last, (compile_of_accepted r rfl _ _).trans ?_, only⟩
    rw [compileChecked_text_some r s nonempty, compiled]
    rfl

end Registry

/-! ## What a registration does -/

/-- A name that is accepted is letters, or letters and a line break. -/
theorem Text.letters_or_line {t : Text} (accepted : isLetters (dropFinalNewline t) = true) :
    isLetters t = true ∨ ∃ letters, t = letters ++ ['\n'] ∧ isLetters letters = true := by
  unfold dropFinalNewline at accepted
  split at accepted
  · rename_i last
    exact .inr ⟨t.dropLast, (List.dropLast_append_getLast? _ last).symm, accepted⟩
  · exact .inl accepted

namespace Registry

/-- Whether no call can tell two registries apart. -/
structure AnswersAlike (r other : Registry) : Prop where
  applied : ∀ loud name param s g, r.apply loud name param s g = other.apply loud name param s g
  compiled : ∀ host given pattern source,
    compile r given pattern source host = compile other given pattern source host

/-- Registries that define words of letters alike cannot be told apart. -/
theorem answersAlike_of_find? {r other : Registry}
    (agree : ∀ name, isLetters name = true → r.find? name = other.find? name) :
    r.AnswersAlike other := by
  constructor
  case applied =>
    intro loud name param s g
    unfold apply
    cases written : Call.ofValue name with
    | error error => rfl
    | ok call =>
        exact call_eq_of_find? (agree _ (Call.isLetters_of_ofValue written)) loud param s g
  case compiled =>
    intro host given pattern source
    refine compile_congr given pattern (fun s t _ _ name called => ?_) source
    exact agree name (Tree.isLetters_of_mem_callees s t 0 name called)

/-- **Registered transforms are called by their names**, if these are letters.  In a registry that
is reached by registrations every name is letters, but for a final line break.  A registration that
is accepted makes its name, if it is letters, answer with the definition that it asks for, and else
makes no difference to any call. -/
theorem registered_answers (run : List Registration) :
    (builtin.registerAll run).Lettered ∧
    ∀ x later, (builtin.registerAll run).enter x = .ok later →
      (isLetters x.name = true → ∃ d, x.Defines d ∧ later.Answers x.name d) ∧
      (isLetters x.name = false →
        (∃ letters, x.name = letters ++ ['\n'] ∧ isLetters letters = true) ∧
        later.AnswersAlike (builtin.registerAll run)) := by
  refine ⟨lettered_builtin.registerAll run, fun x later accepted => ?_⟩
  obtain ⟨named, d, defines, rfl⟩ := enter_eq_ok_iff.1 accepted
  constructor
  · intro letters
    exact ⟨d, defines, answers_of_find? letters (find?_insert_self _ _ _)⟩
  · intro other
    refine ⟨(Text.letters_or_line named).resolve_left (by simp [other]), ?_⟩
    refine answersAlike_of_find? fun name letters => find?_insert_of_ne _ d ?_
    rintro rfl
    rw [letters] at other
    cases other

/-- A function that puts a rest first, under a name of letters and under one with a line break. -/
theorem registered_answers_silence :
    let first : TransformFunction := fun s _ g => (.ok (.rest :: s), g)
    let named (name : Text) : Registration := ⟨name, first, .text "none".toList, .none⟩
    let reached := builtin.registerAll [named "drop2".toList, named "drop".toList]
    (∃ later, reached.enter (named "Ok".toList) = .ok later ∧
      ∀ loud s g, later.apply loud (.text "Ok".toList) .none s g = ⟨.rest :: s, [], g⟩) ∧
    ∃ later, reached.enter (named "Ok\n".toList) = .ok later ∧ later.AnswersAlike reached := by
  intro first named reached
  obtain ⟨-, entered⟩ := registered_answers [named "drop2".toList, named "drop".toList]
  have word : reached.enter (named "Ok".toList) = .ok _ :=
    reached.enter_without_parameter (by decide) rfl
  have line : reached.enter (named "Ok\n".toList) = .ok _ :=
    reached.enter_without_parameter (by decide) rfl
  refine ⟨⟨_, word, ?_⟩, _, line, ?_⟩
  · obtain ⟨d, ⟨_, ⟨⟩, mode, run, fallback⟩, answers⟩ := (entered _ _ word).1 (by decide)
    intro loud s g
    have dispatched := answers.applied loud s g
    generalize Registry.apply _ loud _ _ s g = outcome at dispatched ⊢
    cases dispatched with
    | missing required =>
        rw [required] at mode
        cases mode
    | gives _ ran =>
        rw [← run] at ran
        cases ran
        rfl
    | fails _ ran =>
        rw [← run] at ran
        cases ran
  · exact ((entered _ _ line).2 (by decide)).2

/-- A name with a line break behind it is accepted, although it is not letters, and then unknown. -/
theorem register_line_break :
    ∃ later, builtin.enter ⟨"ok\n".toList, fun s _ g => (.ok (.rest :: s), g),
        .text "none".toList, .none⟩ = .ok later ∧
      (∃ entry ∈ later, isLetters entry.1 = false) ∧
      ∀ loud s g, later.apply loud (.text "ok\n".toList) .none s g =
        ⟨s, [.diagnostic loud (.transformUnknown "ok".toList)], g⟩ := by
  refine ⟨_, enter_without_parameter _ (by decide) rfl, ?_, fun loud s g => rfl⟩
  exact ⟨_, List.mem_cons_self, by decide⟩

end Registry

end StepPattern
