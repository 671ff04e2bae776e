/-
# StepPattern.Proofs.RoundTrip -- written steps compile to themselves

Steps are written as words with a space between neighbours.  Each word is a value
of the grammar, so the whole is a pattern of literals, and compiles to what its
words stand for, without a record in the log.

A note that is written like the rest symbol is read as a rest (`Step.reread`), as
the rest symbol is looked for first.  Nothing else is lost: steps come back as
they were exactly when no note among them is written so.
-/
import StepPattern.Proofs.Language
import StepPattern.Proofs.Numerals
import StepPattern.Proofs.Reports
import StepPattern.Proofs.Requests
import StepPattern.Proofs.Steps

namespace StepPattern

set_option autoImplicit false

open Text

namespace Step

/-- A step as a word, whatever its length. -/
def word (restSymbol : Text) : Step → Text
  | note n => numeral n
  | rest => restSymbol

/-- What is read of a step that was written. -/
def reread (restSymbol : Text) : Step → Step
  | note n => if numeral n = restSymbol then rest else note n
  | rest => rest

/-- Whether a step is a rest or a note that has a numeral. -/
def Short : Step → Prop
  | note n => (Nat.toDigits 10 n.natAbs).length ≤ maxDigits
  | rest => True

theorem toValue_injective {first second : Step} (same : first.toValue = second.toValue) :
    first = second := by
  cases first <;> cases second <;> cases same <;> rfl

theorem reread_eq_self_iff {restSymbol : Text} {steps : List Step} :
    (∀ step ∈ steps, reread restSymbol step = step) ↔
      ∀ n, note n ∈ steps → numeral n ≠ restSymbol := by
  constructor
  · intro kept n member same
    have read := kept (note n) member
    rw [reread, if_pos same] at read
    cases read
  · intro apart step member
    cases step with
    | note n => rw [reread, if_neg (apart n member)]
    | rest => rfl

end Step

/-! ## Writing -/

section Writing

variable {restSymbol : Text} {steps : List Step}

theorem wordsFrom_eq (done : List Text) (short : ∀ step ∈ steps, step.Short) :
    wordsFrom restSymbol done steps =
      .ok (done.reverse ++ steps.map (Step.word restSymbol)) := by
  induction steps generalizing done with
  | nil => rw [wordsFrom, List.map_nil, List.append_nil]
  | cons step steps ih =>
      have written : step.word? restSymbol = some (step.word restSymbol) := by
        cases step with
        | note n => exact numeral?_eq_some (short _ List.mem_cons_self)
        | rest => rfl
      have further := ih (step.word restSymbol :: done)
        fun other member => short other (List.mem_cons_of_mem _ member)
      rw [wordsFrom, written]
      simp only [further, List.reverse_cons, List.append_assoc, List.singleton_append,
        List.map_cons]

theorem stringify_eq {values : List Value} (normal : normalize restSymbol values = .ok steps)
    (short : ∀ step ∈ steps, step.Short) :
    stringify restSymbol values =
      .ok (Text.join [' '] (steps.map (Step.word restSymbol))) := by
  rw [stringify, normal]
  simp only [bind, Except.bind, writeSteps, wordsFrom_eq [] short, List.reverse_nil,
    List.nil_append, Except.map]

end Writing

namespace Grammar

theorem value_word {restSymbol : Text} {step : Step} (short : step.Short) :
    Value restSymbol (step.word restSymbol) := by
  cases step with
  | note n => exact .inr ⟨n, numeral_numeral short⟩
  | rest => exact .inl rfl

/-- Values with a space between neighbours are a pattern of literals. -/
theorem pattern_join {restSymbol : Text} (levels : Nat) {words : List Text}
    (values : ∀ word ∈ words, Value restSymbol word) :
    Pattern restSymbol levels (words.map .literal) (Text.join [' '] words) := by
  have nothing : ∀ c ∈ ([] : Text), isBlank c = true := List.forall_mem_nil _
  induction words with
  | nil => exact .gap nothing
  | cons word words ih =>
      have here : Item restSymbol levels (.literal word) word :=
        .value (values word List.mem_cons_self)
      have further := ih fun other member => values other (List.mem_cons_of_mem _ member)
      -- No gap is before the item; the space behind it is the gap before the next one.
      cases words with
      | nil =>
          have whole := Pattern.item nothing here (.inl rfl) further
          simpa [Text.join, List.intercalate] using whole
      | cons next words =>
          have separated : Separated restSymbol word (' ' :: Text.join [' '] (next :: words)) :=
            .inr (.inl ⟨' ', rfl, by decide⟩)
          have whole := Pattern.item nothing here separated (further.blank_cons (by decide))
          simpa [Text.join, List.intercalate] using whole

end Grammar

/-! ## Reading -/

theorem literalValue_word {restSymbol : Text} {step : Step} (short : step.Short) :
    literalValue restSymbol (step.word restSymbol) = (step.reread restSymbol).toValue := by
  cases step with
  | note n =>
      have read : Token.integer? (numeral n) = some n :=
        Token.integer?_of_numeral (Grammar.numeral_numeral short)
      rw [Step.word, literalValue, Step.reread, read]
      split <;> rfl
  | rest =>
      rw [Step.word, literalValue, if_pos rfl]
      rfl

namespace Token

variable {c : Setting}

theorem once_literal (source : Twister) (word : Text) :
    (once c source (.literal word)).times (Token.literal word).count =
      { sequence := [literalValue c.restSymbol word], source } := by
  rw [once, Token.count, Yield.times_one]

/-- A literal is added behind what is there if there is room for one step. -/
theorem add_literal {y : Yield} (word : Text) (room : y.sequence.length + 1 ≤ maxSteps) :
    y.add ((once c y.source (.literal word)).times (Token.literal word).count) =
      { y with sequence := y.sequence ++ [literalValue c.restSymbol word] } := by
  rw [once_literal]
  exact Yield.add_of_le room

/-- Literals yield what they stand for, behind what is there. -/
theorem yieldFrom_literals (y : Yield) (words : List Text)
    (fits : y.sequence.length + words.length ≤ maxSteps) :
    yieldFrom c y (words.map .literal) =
      { y with sequence := y.sequence ++ words.map (literalValue c.restSymbol) } := by
  induction words generalizing y with
  | nil => rw [List.map_nil, List.map_nil, yieldFrom, List.append_nil]
  | cons word words ih =>
      rw [List.length_cons] at fits
      rw [List.map_cons, yieldFrom, add_literal word (by omega), ih]
      · simp only [List.append_assoc, List.singleton_append, List.map_cons]
      · rw [List.length_append, List.length_singleton]
        omega

/-- Nothing goes wrong in literals that fit. -/
theorem not_fails_literals (y : Yield) {failure : Failure} (words : List Text)
    (fits : y.sequence.length + words.length ≤ maxSteps) :
    ¬Fails c y failure (words.map .literal) := by
  induction words generalizing y with
  | nil => exact id
  | cons word words ih =>
      rw [List.length_cons] at fits
      rw [List.map_cons, Fails, add_literal word (by omega), once_literal]
      rintro (inside | ⟨long, -⟩ | further)
      · exact inside
      · rw [List.length_singleton] at long
        omega
      · refine ih _ ?_ further
        rw [List.length_append, List.length_singleton]
        omega

end Token

/-- Where nothing goes wrong in tokens that yield steps, these steps are what is compiled, and only
the parsing logs anything. -/
theorem compileText_of_not_fails (r : Registry) {s : CompileSettings} {t : Text}
    {tokens : List Token} {log : Log} {sequence : Sequence} {source after : Twister}
    (parsed : Tree.parse s t 0 = { tokens, log })
    (yields : Tree.yield s r tokens source = { sequence, source := after })
    (steps : AllSteps sequence)
    (fine : ∀ failure, ¬Token.Fails (s.setting r) (.start source) failure tokens) :
    compileText r s t source = ⟨sequence, log, after⟩ := by
  have readable := Tree.parse_readable s t 0
  rw [parsed] at readable
  have logged := Tree.mem_evaluate_log s r readable source
  obtain ⟨later, evaluated⟩ := Tree.evaluate_eq s r readable source
  rw [evaluated] at logged
  have silent : later = [] := by
    refine List.eq_nil_iff_forall_not_mem.2 fun entry member => ?_
    obtain ⟨failure, failed, -⟩ := (logged entry).1 member
    exact fine failure failed
  rw [compileText, parsed]
  simp only [evaluated, yields, silent, Except.bind, s.finish_of_allSteps steps, List.append_nil]

/-- **A text of literals compiles to what they stand for**, if they fit. -/
theorem compileText_literals (r : Registry) {s : CompileSettings} {t : Text} {words : List Text}
    {log : Log} (parsed : Tree.parse s t 0 = { tokens := words.map .literal, log })
    (few : words.length ≤ maxSteps) (source : Twister) :
    compileText r s t source = ⟨words.map (literalValue s.restSymbol), log, source⟩ := by
  have fits : (Yield.start source).sequence.length + words.length ≤ maxSteps := by
    rw [Yield.start, List.length_nil, Nat.zero_add]
    exact few
  have yields : Tree.yield s r (words.map .literal) source =
      ⟨words.map (literalValue s.restSymbol), source⟩ := by
    rw [Tree.yield, Token.yieldFrom_literals _ _ fits]
    rfl
  exact compileText_of_not_fails r parsed yields
    (allSteps_map_literalValue s.restSymbol words) fun _ => Token.not_fails_literals _ _ fits

/-! ## The round trip -/

/-- The settings with a rest symbol of their own, and the defaults besides. -/
def CompileSettings.withRest (restSymbol : Text) (allowed : isRestSymbol restSymbol = true) :
    CompileSettings :=
  { CompileSettings.default with restSymbol, restSymbol_ok := allowed }

theorem compileSettings_restSymbol {restSymbol : Text} (allowed : isRestSymbol restSymbol = true)
    (host : Host) :
    (Given.loose (.dict [(.text "rest_symbol".toList, .text restSymbol)])).compileSettings host =
      .ok (.withRest restSymbol allowed) := by
  have nonempty : restSymbol.isEmpty = false :=
    List.isEmpty_eq_false_iff.2 (isRestSymbol_iff.1 allowed).1
  have read : CompileSettings.readRestSymbol (.text restSymbol) = .ok ⟨restSymbol, allowed⟩ := by
    simp only [CompileSettings.readRestSymbol, nonempty, Bool.false_eq_true, if_false, allowed,
      dif_pos]
  have symbol : (CompileSettings.schema host).effective
      [("rest_symbol".toList, .text restSymbol)] "rest_symbol" = .text restSymbol := rfl
  have built : CompileSettings.build host
      ((CompileSettings.schema host).effective [("rest_symbol".toList, .text restSymbol)]) =
        .ok (.withRest restSymbol allowed) := by
    rw [CompileSettings.build, symbol, read]
    rfl
  exact ((CompileSettings.schema host).ofValue_single "rest_symbol" rfl (.text restSymbol)
    host).trans built

variable {restSymbol : Text} {steps : List Step}

/-- Words with a space between neighbours parse to literals. -/
theorem parse_join_words (s : CompileSettings) (short : ∀ step ∈ steps, step.Short) :
    Tree.parse s (Text.join [' '] (steps.map (Step.word s.restSymbol))) 0 =
      { tokens := (steps.map (Step.word s.restSymbol)).map .literal, log := [] } := by
  refine (Tree.parse_eq_iff s _ _).2 (Grammar.pattern_join _ fun word member => ?_)
  obtain ⟨step, among, rfl⟩ := List.mem_map.1 member
  exact Grammar.value_word (short step among)

/-- Written steps compile to what is read of them, without a record. -/
theorem compileText_join_words (r : Registry) (s : CompileSettings)
    (short : ∀ step ∈ steps, step.Short) (few : steps.length ≤ maxSteps) (source : Twister) :
    compileText r s (Text.join [' '] (steps.map (Step.word s.restSymbol))) source =
      ⟨(steps.map (Step.reread s.restSymbol)).map Step.toValue, [], source⟩ := by
  have fits : (steps.map (Step.word s.restSymbol)).length ≤ maxSteps := by
    rw [List.length_map]
    exact few
  have words : (steps.map (Step.word s.restSymbol)).map (literalValue s.restSymbol) =
      (steps.map (Step.reread s.restSymbol)).map Step.toValue := by
    rw [List.map_map, List.map_map]
    exact List.map_congr_left fun step among => literalValue_word (short step among)
  rw [compileText_literals r (parse_join_words s short) fits, words]

theorem map_reread_toValue_eq_iff :
    (steps.map (Step.reread restSymbol)).map Step.toValue = steps.map Step.toValue ↔
      ∀ n, .note n ∈ steps → numeral n ≠ restSymbol := by
  rw [List.map_map, List.map_inj_left, ← Step.reread_eq_self_iff]
  constructor
  · intro same step member
    exact Step.toValue_injective (same step member)
  · intro kept step member
    exact congrArg Step.toValue (kept step member)

/-- A text of written steps is empty only if there are none. -/
theorem join_words_ne_nil (allowed : isRestSymbol restSymbol = true)
    (short : ∀ step ∈ steps, step.Short) (nonempty : steps ≠ []) :
    Text.join [' '] (steps.map (Step.word restSymbol)) ≠ [] := by
  obtain ⟨step, steps, rfl⟩ := List.exists_cons_of_ne_nil nonempty
  have written : step.word restSymbol ≠ [] :=
    (Grammar.value_word (short step List.mem_cons_self)).ne_nil allowed
  cases steps <;> simp [Text.join, List.intercalate, written]

/-- With a seed that gives a source, or a source, written steps are answered by what is read of
them. -/
theorem compileChecked_join_words (r : Registry) (s : CompileSettings) {host : Host}
    (seeded : ∃ start, Twister.ofSeedValue s.seed host = .ok start)
    (short : ∀ step ∈ steps, step.Short) (few : steps.length ≤ maxSteps)
    (source : Option Twister) :
    ∃ log, compileChecked r s (.text (Text.join [' '] (steps.map (Step.word s.restSymbol)))) source
        host = .ok ⟨(steps.map (Step.reread s.restSymbol)).map Step.toValue, log, source⟩ ∧
      (steps ≠ [] → log = []) := by
  by_cases empty : steps = []
  · subst empty
    exact ⟨_, rfl, fun nonempty => absurd rfl nonempty⟩
  · have nonempty := join_words_ne_nil s.restSymbol_ok short empty
    exact ⟨[], compileChecked_of_drawless r nonempty (compileText_join_words r s short few)
      fun _ => seeded, fun _ => rfl⟩

/-- **What is written compiles to itself.**  With any rest symbol, loose values that are few enough
steps, with notes that have numerals, are written as a text that compiles with this rest symbol to
the same steps, but that a note written like the rest symbol becomes a rest.  So the steps come back
exactly if no note among them is written so; and nothing is logged unless there are no steps. -/
theorem compile_stringify (r : Registry) (source : Option Twister) (host : Host)
    (allowed : isRestSymbol restSymbol = true) {values : List Value}
    (normal : normalize restSymbol values = .ok steps) (few : steps.length ≤ maxSteps)
    (short : ∀ n, .note n ∈ steps → (Nat.toDigits 10 n.natAbs).length ≤ maxDigits) :
    ∃ text compiled, stringify restSymbol values = .ok text ∧
      compile r (.loose (.dict [(.text "rest_symbol".toList, .text restSymbol)])) (.text text)
        source host = .ok compiled ∧
      compiled.source = source ∧
      compiled.sequence = (steps.map (Step.reread restSymbol)).map Step.toValue ∧
      (compiled.sequence = steps.map Step.toValue ↔
        ∀ n, .note n ∈ steps → numeral n ≠ restSymbol) ∧
      (steps ≠ [] → compiled.log = []) := by
  have allShort : ∀ step ∈ steps, step.Short := by
    intro step member
    cases step with
    | note n => exact short n member
    | rest => trivial
  have accepted := compileSettings_restSymbol allowed host
  obtain ⟨log, compiled, silent⟩ := compileChecked_join_words r
    (.withRest restSymbol allowed) ⟨host.fresh, rfl⟩ allShort few source
  refine ⟨_, ⟨_, log, source⟩, stringify_eq normal allShort, ?_, rfl, rfl,
    map_reread_toValue_eq_iff, silent⟩
  rw [compile, accepted]
  exact compiled

/-- Values of three kinds where the rest symbol looks like an integer: the note 1 is lost. -/
theorem compile_stringify_numeral_rest :
    ∃ text compiled, stringify ['1'] [.int 1, .text ['2'], .none] = .ok text ∧
      compile Registry.builtin (.loose (.dict [(.text "rest_symbol".toList, .text ['1'])]))
        (.text text) none = .ok compiled ∧
      compiled.source = none ∧
      compiled.sequence =
        ([.note 1, .note 2, .rest].map (Step.reread ['1'])).map Step.toValue ∧
      (compiled.sequence = [.note 1, .note 2, .rest].map Step.toValue ↔
        ∀ n, .note n ∈ [Step.note 1, .note 2, .rest] → numeral n ≠ ['1']) ∧
      ([Step.note 1, .note 2, .rest] ≠ [] → compiled.log = []) := by
  have normal : normalize ['1'] [.int 1, .text ['2'], .none] = .ok [.note 1, .note 2, .rest] := by
    decide
  refine compile_stringify Registry.builtin none .default (by decide) normal (by decide) ?_
  intro n member
  simp only [List.mem_cons, Step.note.injEq, reduceCtorEq, List.not_mem_nil, or_false] at member
  rcases member with rfl | rfl <;> decide

end StepPattern
