/-
# StepPattern.Proofs.Yield -- what a compilation gives, apart from its log

The log never decides anything: what tokens give and what they draw can be said
without it.  `Token.once` is what one token gives before its count, and
`Token.yieldFrom` goes through tokens in order and leaves out what would get too
long.  An evaluation of readable tokens never fails and gives just this
(`evaluateFrom_eq`); parsed tokens are readable (`parse_readable`); so a
compilation of any text gives what its tokens yield (`compile_text_eq`).
-/
import StepPattern.Compilation
import StepPattern.Proofs.WellFormed

namespace StepPattern

set_option autoImplicit false

/-- A sequence, and the source after it. -/
structure Yield where
  sequence : Sequence
  source : Twister

namespace Yield

def start (source : Twister) : Yield :=
  { sequence := [], source }

def times (y : Yield) (count : Nat) : Yield :=
  { y with sequence := (List.replicate count y.sequence).flatten }

/-- A yield with a sequence before it. -/
def behind (before : Sequence) (y : Yield) : Yield :=
  { y with sequence := before ++ y.sequence }

/-- A piece behind what is there, or what is there if that would get too long. -/
def add (y piece : Yield) : Yield :=
  if y.sequence.length + piece.sequence.length > maxSteps then { y with source := piece.source }
  else piece.behind y.sequence

@[simp]
theorem length_times (y : Yield) (count : Nat) :
    (y.times count).sequence.length = y.sequence.length * count := by
  simp [times, Nat.mul_comm]

@[simp]
theorem length_behind (before : Sequence) (y : Yield) :
    (y.behind before).sequence.length = before.length + y.sequence.length :=
  List.length_append

@[simp]
theorem source_behind (before : Sequence) (y : Yield) : (y.behind before).source = y.source := rfl

theorem behind_behind (first second : Sequence) (y : Yield) :
    (y.behind second).behind first = y.behind (first ++ second) := by
  rw [behind, behind, behind, List.append_assoc]

theorem add_of_le {y piece : Yield}
    (fits : y.sequence.length + piece.sequence.length ≤ maxSteps) :
    y.add piece = piece.behind y.sequence := by
  rw [add, if_neg (Nat.not_lt.2 fits)]

theorem times_one (y : Yield) : y.times 1 = y := by
  rw [times, List.replicate_one, List.flatten_singleton]

/-- The yield as the state of an evaluation with some log. -/
def progress (y : Yield) (log : Log) : Progress :=
  { sequence := y.sequence.toArray, log, source := y.source }

/-- An evaluation adds the steps of a token as a yield does. -/
theorem progress_add (y piece : Yield) (count : Nat) (log : Log) (loud : Bool) (name : String) :
    ∃ later, Progress.add { y.progress log with source := piece.source } loud name piece.sequence
      count = (y.add (piece.times count)).progress later := by
  unfold Progress.add add
  simp only [length_times, progress, List.size_toArray]
  split
  · exact ⟨_, rfl⟩
  · refine ⟨log, ?_⟩
    simp [times, behind]

end Yield

/-- What a literal stands for: a rest if it is the rest symbol, else the note of its integer. -/
def literalValue (restSymbol t : Text) : Value :=
  if t = restSymbol then .rest else .note ((Token.integer? t).getD 0)

/-- A call on a yield, if there is one. -/
def Setting.called (c : Setting) : Option Call → Yield → Yield
  | none, y => y
  | some call, y =>
      let applied := c.registry.call c.loud call .none y.sequence y.source
      { sequence := applied.sequence, source := applied.source }

namespace Token

mutual

/-- What one token gives before its count. -/
def once (c : Setting) (source : Twister) : Token → Yield
  | .literal text | .repeated text _ => { sequence := [literalValue c.restSymbol text], source }
  | .bracket call _ children _ => c.called call (yieldFrom c (.start source) children)
termination_by structural token => token

/-- What tokens give one after the other, behind what is there. -/
def yieldFrom (c : Setting) (y : Yield) : List Token → Yield
  | [] => y
  | token :: tokens => yieldFrom c (y.add ((once c y.source token).times token.count)) tokens
termination_by structural tokens => tokens

end

theorem yieldFrom_append (c : Setting) (y : Yield) (first second : List Token) :
    yieldFrom c y (first ++ second) = yieldFrom c (yieldFrom c y first) second := by
  induction first generalizing y with
  | nil => rfl
  | cons token first ih => exact ih _

/-! ## Without the texts of brackets -/

mutual

/-- A token without the texts that its brackets came from. -/
def bare : Token → Token
  | .literal text => .literal text
  | .repeated value count => .repeated value count
  | .bracket call _ children count => .bracket call [] (bareAll children) count
termination_by structural token => token

def bareAll : List Token → List Token
  | [] => []
  | token :: tokens => bare token :: bareAll tokens
termination_by structural tokens => tokens

end

theorem bareAll_append (first second : List Token) :
    bareAll (first ++ second) = bareAll first ++ bareAll second := by
  induction first with
  | nil => rfl
  | cons token first ih => rw [List.cons_append, bareAll, ih, bareAll, List.cons_append]

theorem count_bare (token : Token) : token.bare.count = token.count := by
  cases token <;> rfl

mutual

theorem once_bare (c : Setting) (source : Twister) :
    (token : Token) → once c source token.bare = once c source token
  | .literal text | .repeated text _ => rfl
  | .bracket call _ children _ => by
      rw [bare, once, once, yieldFrom_bareAll c _ children]

/-- The texts that brackets came from have no part in what tokens yield. -/
theorem yieldFrom_bareAll (c : Setting) (y : Yield) :
    (tokens : List Token) → yieldFrom c y (bareAll tokens) = yieldFrom c y tokens
  | [] => rfl
  | token :: tokens => by
      rw [bareAll, yieldFrom, yieldFrom, once_bare c y.source token, count_bare,
        yieldFrom_bareAll c _ tokens]

end

/-! ## Readable tokens -/

mutual

/-- Whether every value in a token can be read: it is the rest symbol or an integer. -/
def Readable (restSymbol : Text) : Token → Prop
  | .literal text | .repeated text _ => text = restSymbol ∨ (integer? text).isSome
  | .bracket _ _ children _ => AllReadable restSymbol children
termination_by structural token => token

def AllReadable (restSymbol : Text) : List Token → Prop
  | [] => True
  | token :: tokens => Readable restSymbol token ∧ AllReadable restSymbol tokens
termination_by structural tokens => tokens

end

theorem literalStep_eq {restSymbol t : Text} (readable : t = restSymbol ∨ (integer? t).isSome) :
    literalStep restSymbol t = .ok (literalValue restSymbol t) := by
  unfold literalStep literalValue
  split
  · rfl
  · rename_i other
    obtain ⟨n, written⟩ := Option.isSome_iff_exists.1 (readable.resolve_left other)
    rw [written]
    rfl

/-! ## Evaluation gives the yield -/

mutual

theorem steps_eq (c : Setting) (log : Log) (source : Twister) :
    (token : Token) → (readable : Readable c.restSymbol token) →
      ∃ later, steps c log source token =
        (.ok (once c source token).sequence, later, (once c source token).source)
  | .literal text, readable | .repeated text _, readable => by
      refine ⟨log, ?_⟩
      rw [steps, literalStep_eq readable]
      rfl
  | .bracket call _ children _, readable => by
      obtain ⟨later, inside⟩ := evaluateFrom_eq c (.start source) log children readable
      have begun : (Yield.start source).progress log = Progress.start log source := rfl
      rw [begun] at inside
      rw [steps, inside, once]
      cases call with
      | none => exact ⟨later, rfl⟩
      | some call => exact ⟨_, rfl⟩

/-- **Readable tokens are evaluated to their yield**, without a fault. -/
theorem evaluateFrom_eq (c : Setting) (y : Yield) (log : Log) :
    (tokens : List Token) → (readable : AllReadable c.restSymbol tokens) →
      ∃ later, evaluateFrom c (y.progress log) tokens =
        (.ok (), (yieldFrom c y tokens).progress later)
  | [], _ => ⟨log, rfl⟩
  | token :: tokens, readable => by
      obtain ⟨read, here⟩ := steps_eq c log y.source token readable.1
      obtain ⟨added, progress⟩ := y.progress_add (once c y.source token) token.count read c.loud
        token.formName
      obtain ⟨later, further⟩ := evaluateFrom_eq c
        (y.add ((once c y.source token).times token.count)) added tokens readable.2
      refine ⟨later, ?_⟩
      rw [evaluateFrom]
      simp only [Yield.progress] at here progress further ⊢
      simp only [here, progress, further, yieldFrom]

end

/-! ## Parsed tokens are readable -/

theorem Convertible.readable {restSymbol t : Text} (convertible : Convertible restSymbol t) :
    t = restSymbol ∨ (integer? t).isSome := by
  rcases convertible with rest | ⟨n, -, read⟩
  · exact .inl rest
  · exact .inr (Option.isSome_of_eq_some read)

mutual

theorem WellFormed.readable {s : CompileSettings} {depth : Int} :
    {token : Token} → WellFormed s depth token → Readable s.restSymbol token
  | .literal _, formed => Convertible.readable formed
  | .repeated _ _, formed => formed.1.readable
  | .bracket _ _ _ _, formed => AllWellFormed.readable formed.2.2.2

/-- Well-formed tokens can be read. -/
theorem AllWellFormed.readable {s : CompileSettings} {depth : Int} :
    {tokens : List Token} → AllWellFormed s depth tokens → AllReadable s.restSymbol tokens
  | [], _ => trivial
  | _ :: _, formed => ⟨WellFormed.readable formed.1, AllWellFormed.readable formed.2⟩

end

end Token

namespace Tree

open Token

/-- Every value in parsed tokens can be read. -/
theorem parse_readable (s : CompileSettings) (t : Text) (depth : Int) :
    AllReadable s.restSymbol (parse s t depth).tokens :=
  (parse_allWellFormed s t depth).1.readable

def yield (s : CompileSettings) (r : Registry) (tokens : List Token) (source : Twister) : Yield :=
  yieldFrom (s.setting r) (.start source) tokens

theorem evaluate_eq (s : CompileSettings) (r : Registry) {tokens : List Token}
    (readable : AllReadable s.restSymbol tokens) (source : Twister) :
    ∃ log, evaluate (s.setting r) tokens source =
      ⟨.ok (yield s r tokens source).sequence, log, (yield s r tokens source).source⟩ := by
  obtain ⟨later, evaluated⟩ := evaluateFrom_eq (s.setting r) (.start source) [] tokens readable
  refine ⟨later.reverse, ?_⟩
  have begun : (Yield.start source).progress [] = Progress.start [] source := rfl
  rw [begun] at evaluated
  rw [evaluate, evaluated, yield, Yield.progress]

end Tree

/-- A sequence with the last touch that the settings ask for, or nothing if that fails. -/
def CompileSettings.finished (s : CompileSettings) (sequence : Sequence) : Sequence :=
  match s.finish sequence with
  | .ok finished => finished
  | .error _ => []

/-- A text whose tokens are evaluated is compiled: the log of its parts comes first, and a record
behind it only if the last touch fails. -/
theorem compileText_of_evaluated {r : Registry} {s : CompileSettings} {t : Text}
    {parsed : Parsed} {source after : Twister} {sequence : Sequence} {log : Log}
    (parses : Tree.parse s t 0 = parsed)
    (evaluated : Tree.evaluate (s.setting r) parsed.tokens source = ⟨.ok sequence, log, after⟩) :
    ∃ last, compileText r s t source =
        ⟨s.finished sequence, parsed.log ++ log ++ last, after⟩ ∧
      ∀ finished, s.finish sequence = .ok finished → last = [] := by
  simp only [compileText, parses, evaluated, Except.bind, CompileSettings.finished]
  cases s.finish sequence with
  | ok finished => exact ⟨[], by rw [List.append_nil], fun _ _ => rfl⟩
  | error fault => exact ⟨_, rfl, fun _ touched => by cases touched⟩

theorem compileText_eq (r : Registry) (s : CompileSettings) (t : Text) (source : Twister) :
    ∃ log, compileText r s t source =
      ⟨s.finished (Tree.yield s r (Tree.parse s t 0).tokens source).sequence, log,
        (Tree.yield s r (Tree.parse s t 0).tokens source).source⟩ := by
  have readable : Token.AllReadable s.restSymbol (Tree.parse s t 0).tokens :=
    Tree.parse_readable s t 0
  obtain ⟨log, evaluated⟩ := Tree.evaluate_eq s r readable source
  obtain ⟨last, compiled, -⟩ := compileText_of_evaluated rfl evaluated
  exact ⟨_, compiled⟩

/-- **What a compilation gives**: what its tokens yield, with the last touch. -/
theorem compile_text_eq (r : Registry) (s : CompileSettings) (t : Text) (source : Twister) :
    ∃ log, compile r (.checked s) (.text t) (some source) =
      .ok ⟨s.finished (Tree.yield s r (Tree.parse s t 0).tokens source).sequence, log,
        some (Tree.yield s r (Tree.parse s t 0).tokens source).source⟩ := by
  cases t with
  | nil =>
      have nothing : (Tree.parse s [] 0).tokens = [] := by
        rw [Tree.parse, Tree.parseWithin_tokens]
        rfl
      have untouched : s.finished [] = [] := by
        unfold CompileSettings.finished
        by_cases asked : s.normalize.truthy = true
        · rw [CompileSettings.finish, if_pos asked]
          rfl
        · rw [CompileSettings.finish, if_neg asked]
      rw [nothing]
      have refused : compile r (.checked s) (.text []) (some source) =
          .ok (.refused s.loud (.patternUnusable (Text.quote [])) (some source)) := rfl
      refine ⟨[.diagnostic s.loud (.patternUnusable (Text.quote []))], ?_⟩
      rw [refused, Tree.yield, Token.yieldFrom, Yield.start, untouched]
      rfl
  | cons c t =>
      obtain ⟨log, compiled⟩ := compileText_eq r s (c :: t) source
      have outcome : compile r (.checked s) (.text (c :: t)) (some source) =
          .ok ⟨(compileText r s (c :: t) source).sequence, (compileText r s (c :: t) source).log,
            some (compileText r s (c :: t) source).source⟩ := rfl
      exact ⟨log, by rw [outcome, compiled]⟩

end StepPattern
