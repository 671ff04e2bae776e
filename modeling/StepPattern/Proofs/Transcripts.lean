/-
# StepPattern.Proofs.Transcripts -- the same pattern with another rest symbol

A text is a transcript of another one with another rest symbol where both are patterns
and their trees differ only in how their values are written: each value stands for the
same step, under one symbol and under the other (`Transcript`).

* Written steps are transcripts of themselves, as long as no integer is written like
  one of the symbols (`Transcript.steps`).
* Transcripts in brackets, with a name before and a count behind, are transcripts, and
  so are transcripts with a space between neighbours (`Transcript.bracket`,
  `Transcript.join`).

Trees that differ only so yield the same and stay so when they are pruned, so
transcripts compile to the same sequence and draw alike, whatever the depth limit
(`Transcript.compile_eq`).
-/
import StepPattern.Proofs.Phrases
import StepPattern.Proofs.Pruning

namespace StepPattern

set_option autoImplicit false

open Text

/-- A rest symbol that settings can have. -/
abbrev RestSymbol := { t : Text // isRestSymbol t = true }

def CompileSettings.withRestSymbol (s : CompileSettings) (symbol : RestSymbol) : CompileSettings :=
  { s with restSymbol := symbol, restSymbol_ok := symbol.2 }

def RestSymbol.default : RestSymbol := ⟨defaultRestSymbol, CompileSettings.default.restSymbol_ok⟩

/-! ## Trees -/

namespace Token

variable {one other : Text}

mutual

/-- Whether two tokens differ only in how their values are written: with one rest symbol and with
another, they stand for the same step. -/
inductive Transcribes (one other : Text) : Token → Token → Prop where
  | literal {t u : Text} (same : literalValue one t = literalValue other u) :
      Transcribes one other (.literal t) (.literal u)
  | repeated {t u : Text} {count : Nat} (same : literalValue one t = literalValue other u) :
      Transcribes one other (.repeated t count) (.repeated u count)
  | bracket {call : Option Call} {inner otherInner : Text} {children others : List Token}
      {count : Option Nat} (inside : AllTranscribe one other children others) :
      Transcribes one other (.bracket call inner children count)
        (.bracket call otherInner others count)

/-- Whether two lists of tokens differ only so, token by token. -/
inductive AllTranscribe (one other : Text) : List Token → List Token → Prop where
  | nil : AllTranscribe one other [] []
  | cons {token written : Token} {tokens others : List Token}
      (first : Transcribes one other token written)
      (further : AllTranscribe one other tokens others) :
      AllTranscribe one other (token :: tokens) (written :: others)

end

theorem AllTranscribe.append {first others second further : List Token}
    (here : AllTranscribe one other first others) (there : AllTranscribe one other second further) :
    AllTranscribe one other (first ++ second) (others ++ further) := by
  induction first generalizing others with
  | nil =>
      cases here
      exact there
  | cons token first ih =>
      cases here with
      | cons head tail => exact .cons head (ih tail)

theorem count_transcribed {token written : Token} (transcribes : Transcribes one other token written) :
    token.count = written.count := by
  cases transcribes <;> rfl

variable {c : Setting}

mutual

theorem once_transcribed (same : c.restSymbol = one) (source : Twister) :
    (token written : Token) → Transcribes one other token written →
      once { c with restSymbol := other } source written = once c source token
  | .literal t, .literal u, .literal value | .repeated t _, .repeated u _, .repeated value => by
      rw [once, once, same, value]
  | .bracket call _ children _, .bracket _ _ others _, .bracket inside => by
      rw [once, once, yieldFrom_transcribed same (.start source) children others inside]
      cases call <;> rfl

/-- **Tokens that differ only in how their values are written yield the same.** -/
theorem yieldFrom_transcribed (same : c.restSymbol = one) (y : Yield) :
    (tokens others : List Token) → AllTranscribe one other tokens others →
      yieldFrom { c with restSymbol := other } y others = yieldFrom c y tokens
  | [], [], .nil => rfl
  | token :: tokens, written :: others, .cons first further => by
      rw [yieldFrom, yieldFrom, once_transcribed same y.source token written first,
        count_transcribed first]
      exact yieldFrom_transcribed same _ tokens others further

end

mutual

theorem pruned_transcribed {levels : Nat} :
    (token written : Token) → Transcribes one other token written →
      AllTranscribe one other (pruned levels token).toList (pruned levels written).toList
  | .literal _, .literal _, .literal value => .cons (.literal value) .nil
  | .repeated _ _, .repeated _ _, .repeated value => .cons (.repeated value) .nil
  | .bracket _ _ children _, .bracket _ _ others _, .bracket inside => by
      cases levels with
      | zero => exact .nil
      | succ lower => exact .cons (.bracket (prunedAll_transcribed children others inside)) .nil

/-- What is left of such tokens on fewer levels differs only so. -/
theorem prunedAll_transcribed {levels : Nat} :
    (tokens others : List Token) → AllTranscribe one other tokens others →
      AllTranscribe one other (prunedAll levels tokens) (prunedAll levels others)
  | [], [], .nil => .nil
  | token :: tokens, written :: others, .cons first further => by
      rw [prunedAll, prunedAll]
      exact (pruned_transcribed token written first).append
        (prunedAll_transcribed tokens others further)

end

end Token

/-! ## Texts -/

/-- `Transcript one other levels t u`: two texts are patterns on so many levels of brackets, one with
one rest symbol and one with another, whose trees differ only in how their values are written. -/
def Transcript (one other : Text) (levels : Nat) (t u : Text) : Prop :=
  ∃ tokens others, (∀ more, levels ≤ more → Grammar.Pattern one more tokens t) ∧
    (∀ more, levels ≤ more → Grammar.Pattern other more others u) ∧
    Token.AllTranscribe one other tokens others

/-- Whether no integer is written like a rest symbol. -/
def Unambiguous (restSymbol : Text) : Prop :=
  ∀ n : Int, numeral n ≠ restSymbol

/-- Only digits with an optional sign can be written like an integer. -/
theorem Unambiguous.of_not_isNumeral {restSymbol : Text} (other : isNumeral restSymbol = false) :
    Unambiguous restSymbol := by
  rintro n rfl
  rw [isNumeral_numeral] at other
  cases other

namespace Transcript

variable {one other t u : Text} {levels : Nat}

theorem deeper {more : Nat} (transcript : Transcript one other levels t u) (le : levels ≤ more) :
    Transcript one other more t u := by
  obtain ⟨tokens, others, pattern, written, transcribe⟩ := transcript
  exact ⟨tokens, others, fun most further => pattern most (Nat.le_trans le further),
    fun most further => written most (Nat.le_trans le further), transcribe⟩

theorem nil : Transcript one other levels [] [] :=
  ⟨[], [], fun _ _ => .gap (List.forall_mem_nil _), fun _ _ => .gap (List.forall_mem_nil _), .nil⟩

/-- A step that is written with either symbol is read as the same step. -/
theorem literalValue_eq (clear : Unambiguous one) (alsoClear : Unambiguous other) {step : Step}
    (short : step.Short) :
    literalValue one (step.word one) = literalValue other (step.word other) := by
  rw [literalValue_word short, literalValue_word short]
  cases step with
  | note n => rw [Step.reread, Step.reread, if_neg (clear n), if_neg (alsoClear n)]
  | rest => rfl

/-- **Written steps are transcripts** with any two symbols that no integer is written like. -/
theorem steps (clear : Unambiguous one) (alsoClear : Unambiguous other) {steps : List Step}
    (short : ∀ step ∈ steps, step.Short) :
    Transcript one other 0 (Text.join [' '] (steps.map (Step.word one)))
      (Text.join [' '] (steps.map (Step.word other))) := by
  have values : ∀ symbol : Text, ∀ word ∈ steps.map (Step.word symbol),
      Grammar.Value symbol word := by
    intro symbol word member
    obtain ⟨step, among, rfl⟩ := List.mem_map.1 member
    exact Grammar.value_word (short step among)
  refine ⟨_, _, fun more _ => Grammar.pattern_join more (values one),
    fun more _ => Grammar.pattern_join more (values other), ?_⟩
  clear values
  induction steps with
  | nil => exact .nil
  | cons step steps ih =>
      have here := literalValue_eq clear alsoClear (short step List.mem_cons_self)
      exact .cons (.literal here) (ih fun next member => short next (List.mem_cons_of_mem _ member))

/-- Transcripts in brackets are transcripts one level up. -/
theorem bracket (transcript : Transcript one other levels t u) {name tail : Text}
    {call : Option Call} {count : Option Nat} (named : Grammar.Name name call)
    (times : Grammar.Times tail count) :
    Transcript one other (levels + 1) (name ++ '[' :: (t ++ ']' :: tail))
      (name ++ '[' :: (u ++ ']' :: tail)) := by
  obtain ⟨tokens, others, pattern, written, transcribe⟩ := transcript
  refine ⟨[.bracket call t tokens count], [.bracket call u others count], fun more le => ?_,
    fun more le => ?_, .cons (.bracket transcribe) .nil⟩
  · obtain ⟨lower, rfl⟩ : ∃ lower, more = lower + 1 := ⟨more - 1, by omega⟩
    exact (Grammar.Item.bracket named (pattern lower (by omega)) times).pattern
  · obtain ⟨lower, rfl⟩ : ∃ lower, more = lower + 1 := ⟨more - 1, by omega⟩
    exact (Grammar.Item.bracket named (written lower (by omega)) times).pattern

theorem append {t' u' : Text} (first : Transcript one other levels t u)
    (second : Transcript one other levels t' u') :
    Transcript one other levels (t ++ ' ' :: t') (u ++ ' ' :: u') := by
  obtain ⟨tokens, others, pattern, written, transcribe⟩ := first
  obtain ⟨tokens', others', pattern', written', transcribe'⟩ := second
  exact ⟨tokens ++ tokens', others ++ others', fun more le => (pattern more le).append (pattern' more le),
    fun more le => (written more le).append (written' more le), transcribe.append transcribe'⟩

/-- Transcripts with a space between neighbours are transcripts. -/
theorem join {parts copies : List Text}
    (transcripts : List.Forall₂ (Transcript one other levels) parts copies) :
    Transcript one other levels (Text.join [' '] parts) (Text.join [' '] copies) := by
  induction transcripts with
  | nil => exact nil
  | cons here transcripts ih =>
      cases transcripts with
      | nil => simpa [Text.join, List.intercalate] using here
      | cons next transcripts => simpa [Text.join, List.intercalate] using here.append ih

/-! ## Compilations -/

/-- A text that is a pattern on some levels is parsed to its tokens, pruned to the depth limit. -/
theorem parse_pruned (s : CompileSettings) {tokens : List Token}
    (pattern : ∀ more, levels ≤ more → Grammar.Pattern s.restSymbol more tokens t) :
    (Tree.parse s t 0).tokens = Token.prunedAll s.depthLimit tokens := by
  have deep := Tree.parseWithin_of_pattern (pattern _ (Nat.le_max_left levels s.depthLimit))
  rw [Tree.parse_eq_parseWithin,
    Tree.parseWithin_pruned rfl (Nat.le_max_right levels s.depthLimit) t, deep]

/-- Transcripts yield the same, each under its own symbol. -/
theorem yield_eq {one other : RestSymbol} (transcript : Transcript one other levels t u)
    (s : CompileSettings) (r : Registry) (source : Twister) :
    Tree.yield (s.withRestSymbol other) r (Tree.parse (s.withRestSymbol other) u 0).tokens source =
      Tree.yield (s.withRestSymbol one) r (Tree.parse (s.withRestSymbol one) t 0).tokens source := by
  obtain ⟨tokens, others, pattern, written, transcribe⟩ := transcript
  rw [parse_pruned (s.withRestSymbol one) pattern, parse_pruned (s.withRestSymbol other) written]
  exact Token.yieldFrom_transcribed (c := (s.withRestSymbol one).setting r) rfl _ _ _
    (Token.prunedAll_transcribed tokens others transcribe)

/-- **Transcripts compile to the same sequence**, each under its own symbol and with the same other
settings, and leave the same source. -/
theorem compile_eq {one other : RestSymbol} (transcript : Transcript one other levels t u)
    (s : CompileSettings) (source : Twister) :
    ∃ sequence log copied later,
      compile .builtin (.checked (s.withRestSymbol one)) (.text t) (some source) =
        .ok ⟨sequence, log, some later⟩ ∧
      compile .builtin (.checked (s.withRestSymbol other)) (.text u) (some source) =
        .ok ⟨sequence, copied, some later⟩ := by
  obtain ⟨log, compiled⟩ := compile_text_eq .builtin (s.withRestSymbol one) t source
  obtain ⟨copied, alsoCompiled⟩ := compile_text_eq .builtin (s.withRestSymbol other) u source
  have steps := Tree.yield_builtin_allSteps (s.withRestSymbol one)
    (Tree.parse (s.withRestSymbol one) t 0).tokens source
  rw [transcript.yield_eq s .builtin source, CompileSettings.finished_eq_self _ steps] at alsoCompiled
  rw [CompileSettings.finished_eq_self _ steps] at compiled
  exact ⟨_, log, copied, _, compiled, alsoCompiled⟩

end Transcript

end StepPattern
