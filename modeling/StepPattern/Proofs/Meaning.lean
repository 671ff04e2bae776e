/-
# StepPattern.Proofs.Meaning -- a written tree compiles to what it means

The meaning of a token says what it stands for and nothing of how it is computed:
a value is one step, a repetition is copies of it, a bracket is what its children
mean in order, and a call is what the transform makes of that.  The source goes
from left to right and through the children first, and each token draws once,
however often it is repeated.

A text that a grammar derivation writes out for a tree compiles to the meaning of
the tree, as long as nothing that is built on the way gets too long
(`compile_eq_meaning`).
-/
import StepPattern.Proofs.Language
import StepPattern.Proofs.Yield

namespace StepPattern

set_option autoImplicit false

open Text

/-- The integer that digits with an optional sign write. -/
def Text.signedValue : Text → Int
  | '-' :: digits => -(digitsValue digits : Int)
  | '+' :: digits => digitsValue digits
  | digits => digitsValue digits

/-- What a value means: a rest if it is the rest symbol, else the note of its integer. -/
def valueMeaning (restSymbol t : Text) : Value :=
  if t = restSymbol then .rest else .note t.signedValue

/-- What a bracket means: its inside, or what the transform called on it makes of that. -/
def Setting.applied (c : Setting) : Option Call → Yield → Yield
  | none, inside => inside
  | some call, inside =>
      let outcome :=
        c.registry.apply c.loud (.text call.name) call.fused inside.sequence inside.source
      { sequence := outcome.sequence, source := outcome.source }

namespace Token

mutual

def meaning (c : Setting) (source : Twister) : Token → Yield
  | .literal text => { sequence := [valueMeaning c.restSymbol text], source }
  | .repeated text count =>
      { sequence := List.replicate count (valueMeaning c.restSymbol text), source }
  | .bracket call _ children none => c.applied call (meanings c source children)
  | .bracket call _ children (some count) =>
      (c.applied call (meanings c source children)).times count
termination_by structural token => token

def meanings (c : Setting) (source : Twister) : List Token → Yield
  | [] => .start source
  | token :: tokens =>
      (meanings c (meaning c source token).source tokens).behind (meaning c source token).sequence
termination_by structural tokens => tokens

end

mutual

/-- Whether all that is built inside a token keeps to the step limit. -/
def Fits (c : Setting) (source : Twister) : Token → Prop
  | .literal _ | .repeated _ _ => True
  | .bracket _ _ children _ =>
      AllFit c source children ∧ (meanings c source children).sequence.length ≤ maxSteps
termination_by structural token => token

def AllFit (c : Setting) (source : Twister) : List Token → Prop
  | [] => True
  | token :: tokens => Fits c source token ∧ AllFit c (meaning c source token).source tokens
termination_by structural tokens => tokens

end

end Token

/-! ## Values and calls -/

/-- A transform applied by its name, with the parameter handed over, is the call with that parameter
fused to the name. -/
theorem Registry.apply_fused (r : Registry) (loud : Bool) {letters : Text} (param : Option Nat)
    (name : isLetters letters = true) (s : Sequence) (source : Twister) :
    r.apply loud (.text letters) (Call.fused ⟨letters, param⟩) s source =
      r.call loud ⟨letters, param⟩ .none s source := by
  have written : Call.ofValue (.text letters) = .ok ⟨letters, none⟩ :=
    (Grammar.Name.plain name).ofText_eq
  rw [r.apply_of_written loud written]
  apply r.call_congr
  · rfl
  · cases param <;> rfl

namespace Grammar

theorem Numeral.signedValue_eq {t : Text} {n : Int} (numeral : Numeral t n) :
    t.signedValue = n := by
  cases numeral with
  | plain decimal =>
      have noMinus := decimal.head_ne (c := '-') (by decide)
      have noPlus := decimal.head_ne (c := '+') (by decide)
      unfold signedValue
      split
      · exact absurd rfl noMinus
      · exact absurd rfl noPlus
      · rfl
  | plus decimal | minus decimal => rfl

theorem Value.literalValue_eq {restSymbol t : Text} (value : Value restSymbol t) :
    literalValue restSymbol t = valueMeaning restSymbol t := by
  rcases value with rest | ⟨n, numeral⟩
  · rw [literalValue, valueMeaning, if_pos rest, if_pos rest]
  · rw [literalValue, valueMeaning, Token.integer?_of_numeral numeral, numeral.signedValue_eq]
    rfl

/-- A written call is the transform of its name. -/
theorem Name.called_eq {t : Text} {call : Option Call} (names : Name t call) (c : Setting)
    (y : Yield) : c.called call y = c.applied call y := by
  cases names with
  | none => rfl
  | plain name | fused name =>
      simp only [Setting.called, Setting.applied, Registry.apply_fused _ _ _ name]

end Grammar

/-! ## The yield of a written tree is its meaning -/

namespace Token

open Grammar

/-- Tokens that a derivation writes out yield what they mean, behind whatever is there, as long as
all of it fits. -/
theorem yieldFrom_eq_meanings {restSymbol : Text} {levels : Nat} {tokens : List Token} {t : Text}
    (pattern : Pattern restSymbol levels tokens t) (c : Setting) (same : c.restSymbol = restSymbol)
    (y : Yield) (fits : AllFit c y.source tokens)
    (short : y.sequence.length + (meanings c y.source tokens).sequence.length ≤ maxSteps) :
    yieldFrom c y tokens = (meanings c y.source tokens).behind y.sequence := by
  subst same
  revert y
  -- For an item: what it gives once, repeated; for a pattern: behind any sequence it fits behind.
  refine @Pattern.rec c.restSymbol
    (fun _ token _ _ => ∀ source, Fits c source token →
      (once c source token).times token.count = meaning c source token)
    (fun _ tokens _ _ => ∀ y : Yield, AllFit c y.source tokens →
      y.sequence.length + (meanings c y.source tokens).sequence.length ≤ maxSteps →
      yieldFrom c y tokens = (meanings c y.source tokens).behind y.sequence)
    ?value ?repeated ?bracket ?gap ?item levels tokens t pattern
  case value =>
    intro levels t value source _
    rw [once, meaning, value.literalValue_eq]
    rfl
  case repeated =>
    intro levels n t count value counts source _
    rw [once, meaning, value.literalValue_eq, Yield.times, List.flatten_replicate_singleton,
      Token.count]
  case bracket =>
    intro levels name inside tail call tokens count names pattern times ih source fits
    have short : (Yield.start source).sequence.length +
        (meanings c source tokens).sequence.length ≤ maxSteps := by
      rw [Yield.start, List.length_nil, Nat.zero_add]
      exact fits.2
    have inner : yieldFrom c (.start source) tokens = meanings c source tokens :=
      ih (.start source) fits.1 short
    cases count with
    | none =>
        rw [once, meaning, inner, names.called_eq, Token.count, Option.getD_none, Yield.times_one]
    | some count => rw [once, meaning, inner, names.called_eq, Token.count, Option.getD_some]
  case gap =>
    intro levels gap blank y _ _
    rw [yieldFrom, meanings, Yield.behind, Yield.start, List.append_nil]
  case item =>
    intro levels gap first rest token tokens blank item separated further ihItem ih y fits short
    have here := ihItem y.source fits.1
    rw [meanings, Yield.length_behind, ← Nat.add_assoc] at short
    have added : y.add (meaning c y.source token) = (meaning c y.source token).behind y.sequence :=
      Yield.add_of_le (Nat.le_trans (Nat.le_add_right _ _) short)
    rw [← Yield.length_behind] at short
    have others := ih ((meaning c y.source token).behind y.sequence) fits.2 short
    rw [yieldFrom, here, added, others, meanings, Yield.behind_behind]
    rfl

end Token

/-- **Compiler correctness.**  A text that a derivation writes out for a tree, within the depth
limit, compiles to what the tree means, and leaves the source that its meaning leaves, if the
sequence is not normalized and nothing that is built on the way passes the step limit. -/
theorem compile_eq_meaning (r : Registry) (s : CompileSettings)
    (untouched : s.normalize.truthy = false) {tokens : List Token} {t : Text}
    (written : Grammar.Pattern s.restSymbol s.depthLimit tokens t) (source : Twister)
    (fits : Token.AllFit (s.setting r) source tokens)
    (short : (Token.meanings (s.setting r) source tokens).sequence.length ≤ maxSteps) :
    ∃ log, compile r (.checked s) (.text t) (some source) =
      .ok ⟨(Token.meanings (s.setting r) source tokens).sequence, log,
        some (Token.meanings (s.setting r) source tokens).source⟩ := by
  have parsed : (Tree.parse s t 0).tokens = tokens := by
    rw [(Tree.parse_eq_iff s tokens t).2 written]
  have yields : Tree.yield s r tokens source = Token.meanings (s.setting r) source tokens := by
    have alone : (Yield.start source).sequence.length +
        (Token.meanings (s.setting r) source tokens).sequence.length ≤ maxSteps := by
      rw [Yield.start, List.length_nil, Nat.zero_add]
      exact short
    exact Token.yieldFrom_eq_meanings written (s.setting r) rfl (.start source) fits alone
  obtain ⟨log, compiled⟩ := compile_text_eq r s t source
  refine ⟨log, ?_⟩
  rw [compiled, parsed, yields, CompileSettings.finished, CompileSettings.finish, if_neg]
  rw [untouched]
  exact Bool.false_ne_true

/-- A note, and a call with a parameter and a count on a note and a rest. -/
theorem compile_eq_meaning_repeated_call :
    ∃ log, compile Registry.builtin (.checked .default) (.text "1 invert5[2 -]*2".toList)
      (some (Twister.ofSeed 0)) =
        .ok ⟨[.note 1, .note 8, .rest, .note 8, .rest], log, some (Twister.ofSeed 0)⟩ := by
  have parsed : Tree.parse .default "1 invert5[2 -]*2".toList 0 =
      { tokens := [.literal ['1'], .bracket (some ⟨"invert".toList, some 5⟩) "2 -".toList
          [.literal ['2'], .literal ['-']] (some 2)]
        log := [] } := rfl
  have written := (Tree.parse_eq_iff .default _ _).1 parsed
  exact compile_eq_meaning Registry.builtin .default rfl written (Twister.ofSeed 0)
    ⟨trivial, ⟨⟨trivial, trivial, trivial⟩, by decide⟩, trivial⟩ (by decide)

end StepPattern
