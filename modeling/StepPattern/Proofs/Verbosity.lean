/-
# StepPattern.Proofs.Verbosity -- the verbosity sets levels and nothing else

Nothing in a compilation asks how loud it is but the records of the log.  So a
compilation at another loudness is the same compilation, with its diagnostics at the
other level (`LogEntry.atLoudness`): this is shown for a call, for a token and for
tokens one after the other, for a raw token and for a text at every level, and put
together for a request (`compileChecked_withVerbose`).

The law holds for the settings themselves in the place of the other ones.  So all
diagnostics of a compilation are at the one level that its settings ask for, and two
logs can be compared record by record (`LogEntry.Alike`).
-/
import Mathlib.Data.List.Forall2
import StepPattern.Proofs.RawTokens
import StepPattern.Proofs.Reports
import StepPattern.Proofs.Requests

namespace StepPattern

set_option autoImplicit false

namespace LogEntry

/-- A record as it is in a log of some loudness: only diagnostics have a level of their own choice. -/
def atLoudness (loud : Bool) : LogEntry → LogEntry
  | diagnostic _ error => diagnostic loud error
  | entry => entry

/-- `Alike loud otherLoud first second`: two records are the same but for the levels of diagnostics,
which are as two logs ask for. -/
inductive Alike (loud otherLoud : Bool) : LogEntry → LogEntry → Prop where
  | diagnostic (error : PatternError) :
      Alike loud otherLoud (diagnostic loud error) (diagnostic otherLoud error)
  | failure (fault : Fault) (message : String) :
      Alike loud otherLoud (failure fault message) (failure fault message)
  | notice (message : String) : Alike loud otherLoud (notice message) (notice message)

theorem alike_atLoudness (loud otherLoud : Bool) (entry : LogEntry) :
    Alike loud otherLoud (entry.atLoudness loud) (entry.atLoudness otherLoud) := by
  cases entry with
  | diagnostic _ error => exact .diagnostic error
  | failure fault message => exact .failure fault message
  | notice message => exact .notice message

end LogEntry

/-- A log with its diagnostics at the level of some loudness. -/
def Log.atLoudness (loud : Bool) (log : Log) : Log :=
  log.map (LogEntry.atLoudness loud)

namespace Log

variable (loud : Bool)

@[simp]
theorem atLoudness_nil : atLoudness loud [] = [] := rfl

@[simp]
theorem atLoudness_diagnostic (was : Bool) (error : PatternError) (log : Log) :
    atLoudness loud (.diagnostic was error :: log) =
      .diagnostic loud error :: atLoudness loud log := rfl

@[simp]
theorem atLoudness_append (log more : Log) :
    atLoudness loud (log ++ more) = atLoudness loud log ++ atLoudness loud more :=
  List.map_append

@[simp]
theorem atLoudness_reverse (log : Log) :
    atLoudness loud log.reverse = (atLoudness loud log).reverse :=
  List.map_reverse

/-- A log that is at some loudness is, record by record, like itself at any other. -/
theorem forall₂_alike {log : Log} (own : log.atLoudness loud = log) (otherLoud : Bool) :
    List.Forall₂ (LogEntry.Alike loud otherLoud) log (log.atLoudness otherLoud) := by
  have both : List.Forall₂ (LogEntry.Alike loud otherLoud) (log.atLoudness loud)
      (log.atLoudness otherLoud) := by
    simp only [atLoudness, List.forall₂_map_left_iff, List.forall₂_map_right_iff,
      List.forall₂_same]
    exact fun entry _ => entry.alike_atLoudness loud otherLoud
  rwa [own] at both

end Log

/-! ## Evaluation -/

def Setting.withLoud (c : Setting) (loud : Bool) : Setting :=
  { c with loud }

def Progress.atLoudness (loud : Bool) (p : Progress) : Progress :=
  { p with log := p.log.atLoudness loud }

namespace Registry

theorem run_loud (d : Definition) (loud was : Bool) (name : Text) (given : Value) (s : Sequence)
    (g : Twister) :
    run d loud name given s g =
      { run d was name given s g with log := (run d was name given s g).log.atLoudness loud } := by
  unfold run
  split
  · rfl
  · split
    · rfl
    · rename_i fault later _
      cases fault <;> rfl

/-- A call logs the same at any loudness, but for the level. -/
theorem call_loud (r : Registry) (loud was : Bool) (call : Call) (param : Value) (s : Sequence)
    (g : Twister) :
    r.call loud call param s g =
      { r.call was call param s g with
        log := (r.call was call param s g).log.atLoudness loud } := by
  unfold Registry.call
  split
  · rfl
  · exact run_loud _ loud was call.name _ s g

end Registry

theorem Progress.add_loud (p : Progress) (loud was : Bool) (token : String) (piece : Sequence)
    (count : Nat) :
    (p.atLoudness loud).add loud token piece count =
      (p.add was token piece count).atLoudness loud := by
  by_cases long : p.sequence.size + piece.length * count > maxSteps <;>
    simp [add, atLoudness, long]

namespace Token

variable (c : Setting) (loud : Bool)

mutual

theorem steps_loud (log : Log) (source : Twister) : (token : Token) →
    steps (c.withLoud loud) (log.atLoudness loud) source token =
      ((steps c log source token).1, (steps c log source token).2.1.atLoudness loud,
        (steps c log source token).2.2)
  | .literal _ | .repeated _ _ => rfl
  | .bracket call _ children _ => by
      have inside := evaluateFrom_loud (.start log source) children
      have begun : (Progress.start log source).atLoudness loud =
          .start (log.atLoudness loud) source := rfl
      rw [begun] at inside
      rw [steps, inside, steps]
      rcases evaluateFrom c (.start log source) children with ⟨fault | ⟨⟩, reached⟩
      · rfl
      · cases call with
        | none => rfl
        | some call =>
            have called := c.registry.call_loud loud c.loud call .none reached.sequence.toList
              reached.source
            simp only [Setting.withLoud, Progress.atLoudness] at called ⊢
            simp only [called, Log.atLoudness_append, Log.atLoudness_reverse]

/-- **Tokens are evaluated alike at any loudness**, but for the levels in the log. -/
theorem evaluateFrom_loud (p : Progress) : (tokens : List Token) →
    evaluateFrom (c.withLoud loud) (p.atLoudness loud) tokens =
      ((evaluateFrom c p tokens).1, (evaluateFrom c p tokens).2.atLoudness loud)
  | [] => rfl
  | token :: tokens => by
      have here := steps_loud p.log p.source token
      have further := fun q => evaluateFrom_loud q tokens
      rw [evaluateFrom, evaluateFrom]
      simp only [Progress.atLoudness] at here further ⊢
      rw [here]
      rcases steps c p.log p.source token with ⟨fault | piece, log, source⟩
      · rfl
      · have added := Progress.add_loud { p with log, source } loud c.loud token.formName piece
          token.count
        simp only [Progress.atLoudness, Setting.withLoud] at added further ⊢
        simp only [added, further]

end

end Token

/-! ## Parsing -/

def CompileSettings.withVerbose (s : CompileSettings) (verbose : Value) : CompileSettings :=
  { s with verbose }

def Parsed.atLoudness (loud : Bool) (parsed : Parsed) : Parsed :=
  { parsed with log := parsed.log.atLoudness loud }

namespace Tree

variable (s : CompileSettings) (verbose : Value)

/-- A raw token is parsed alike at any loudness if the insides of brackets are. -/
theorem parseToken_withVerbose (levels : Nat)
    (inside : ∀ lower, lower + 1 = levels → ∀ inner,
      parseWithin (s.withVerbose verbose) lower inner =
        (parseWithin s lower inner).atLoudness verbose.truthy) (raw : Text) :
    parseToken (s.withVerbose verbose) (descend (s.withVerbose verbose) levels) raw =
      (parseToken s (descend s levels) raw).atLoudness verbose.truthy := by
  have sameSymbol : (s.withVerbose verbose).restSymbol = s.restSymbol := rfl
  rw [parseToken, parseToken, sameSymbol]
  cases Token.classify s.restSymbol raw with
  | error error => rfl
  | ok token =>
      cases token with
      | literal text | repeated value count => rfl
      | bracket call inner children count =>
          cases levels with
          | zero => rfl
          | succ lower =>
              simp only [descend, inside lower rfl inner]
              rfl

theorem atLoudness_concat (loud : Bool) (parts : List Parsed) :
    Parsed.concat (parts.map (Parsed.atLoudness loud)) = (Parsed.concat parts).atLoudness loud := by
  simp [Parsed.concat, Parsed.atLoudness, Log.atLoudness, List.flatMap_map, List.map_flatMap]

/-- **A text is parsed alike at any loudness**, but for the levels in the log. -/
theorem parseWithin_withVerbose (levels : Nat) (t : Text) :
    parseWithin (s.withVerbose verbose) levels t =
      (parseWithin s levels t).atLoudness verbose.truthy := by
  induction levels using Nat.strongRecOn generalizing t with
  | _ levels ih =>
      have each := parseToken_withVerbose s verbose levels
        fun lower below inner => ih lower (by omega) inner
      have scanned : (Piece.errors (Piece.ofText t)).map
          (LogEntry.diagnostic (s.withVerbose verbose).loud) =
            Log.atLoudness verbose.truthy ((Piece.errors (Piece.ofText t)).map (.diagnostic s.loud)) := by
        rw [Log.atLoudness, List.map_map]
        rfl
      have bodies : (Piece.tokens (Piece.ofText t)).map (parseToken (s.withVerbose verbose)
          (descend (s.withVerbose verbose) levels)) =
            ((Piece.tokens (Piece.ofText t)).map (parseToken s (descend s levels))).map
              (Parsed.atLoudness verbose.truthy) := by
        rw [List.map_map]
        exact List.map_congr_left fun raw _ => each raw
      rw [parseWithin_eq, parseWithin_eq, parseLevel, parseLevel, bodies, scanned,
        atLoudness_concat]
      simp only [Parsed.atLoudness, Log.atLoudness_append]

theorem parse_withVerbose (t : Text) (depth : Int) :
    parse (s.withVerbose verbose) t depth = (parse s t depth).atLoudness verbose.truthy :=
  parseWithin_withVerbose s verbose _ t

theorem evaluate_withVerbose (r : Registry) (tokens : List Token) (source : Twister) :
    evaluate ((s.withVerbose verbose).setting r) tokens source =
      { evaluate (s.setting r) tokens source with
        log := (evaluate (s.setting r) tokens source).log.atLoudness verbose.truthy } := by
  have evaluated := Token.evaluateFrom_loud (s.setting r) verbose.truthy (.start [] source) tokens
  have begun : (Progress.start [] source).atLoudness verbose.truthy = .start [] source := rfl
  have same : (s.withVerbose verbose).setting r = (s.setting r).withLoud verbose.truthy := rfl
  rw [begun] at evaluated
  rw [evaluate, evaluate, same, evaluated]
  rcases Token.evaluateFrom (s.setting r) (.start [] source) tokens with ⟨fault | ⟨⟩, reached⟩ <;>
    simp only [Progress.atLoudness, Log.atLoudness_reverse]

end Tree

/-! ## Compilations -/

def Compiled.atLoudness (loud : Bool) (compiled : Compiled) : Compiled :=
  { compiled with log := compiled.log.atLoudness loud }

theorem compileText_withVerbose (r : Registry) (s : CompileSettings) (verbose : Value) (t : Text)
    (source : Twister) :
    compileText r (s.withVerbose verbose) t source =
      { compileText r s t source with
        log := (compileText r s t source).log.atLoudness verbose.truthy } := by
  have finish : (s.withVerbose verbose).finish = s.finish := rfl
  simp only [compileText, Tree.parse_withVerbose, Parsed.atLoudness, Tree.evaluate_withVerbose,
    finish]
  cases (Tree.evaluate (s.setting r) (Tree.parse s t 0).tokens source).result.bind s.finish with
  | ok sequence => simp only [Log.atLoudness_append]
  | error fault =>
      simp only [Log.atLoudness_append]
      rfl

/-- A request is answered alike at any loudness, but for the levels in the log. -/
theorem compileChecked_withVerbose (r : Registry) (s : CompileSettings) (verbose pattern : Value)
    (source : Option Twister) (host : Host) :
    compileChecked r (s.withVerbose verbose) pattern source host =
      (compileChecked r s pattern source host).map (Compiled.atLoudness verbose.truthy) := by
  by_cases usable : pattern.IsPattern
  · obtain ⟨t, nonempty, rfl⟩ := usable.exists_text
    cases source with
    | some source =>
        rw [compileChecked_text_some r _ nonempty, compileChecked_text_some r _ nonempty,
          compileText_withVerbose]
        rfl
    | none =>
        have seed : (s.withVerbose verbose).seed = s.seed := rfl
        rw [compileChecked_text_none r _ nonempty, compileChecked_text_none r _ nonempty, seed]
        cases Twister.ofSeedValue s.seed host with
        | error fault => rfl
        | ok start =>
            simp only [Except.map, compileText_withVerbose]
            rfl
  · rw [compileChecked_of_not_isPattern r _ usable, compileChecked_of_not_isPattern r _ usable]
    cases pattern.shown host.room <;> rfl

/-- **The verbosity sets levels and nothing else.**  Let two requests have settings that are accepted
and differ in their verbosity alone, with the same pattern, registry and source.  Where one gets no
answer the other gets none for the same reason.  Otherwise both give the same sequence and leave the
same source, and their logs have the same records in the same order; only the diagnostics are at
warning level where the verbosity counts as true, and at debug level where it does not. -/
theorem compile_verbose (r : Registry) (host : Host) {given other : Given CompileSettings}
    {s s' : CompileSettings} (accepted : given.compileSettings host = .ok s)
    (alsoAccepted : other.compileSettings host = .ok s') (alike : s' = { s with verbose := s'.verbose })
    (pattern : Value) (source : Option Twister) :
    (∀ fault, compile r given pattern source host = .error fault ↔
      compile r other pattern source host = .error fault) ∧
    ∀ compiled, compile r given pattern source host = .ok compiled →
      ∃ log, compile r other pattern source host = .ok { compiled with log } ∧
        List.Forall₂ (LogEntry.Alike s.verbose.truthy s'.verbose.truthy) compiled.log log := by
  have otherwise : compile r other pattern source host =
      (compileChecked r s pattern source host).map (Compiled.atLoudness s'.verbose.truthy) := by
    have sameButVerbose : s' = s.withVerbose s'.verbose := alike
    rw [← compileChecked_withVerbose, ← sameButVerbose, compile_of_accepted r alsoAccepted]
  -- The same law for the settings themselves: their own diagnostics are at their own level.
  have own : compileChecked r s pattern source host =
      (compileChecked r s pattern source host).map (Compiled.atLoudness s.verbose.truthy) :=
    compileChecked_withVerbose r s s.verbose pattern source host
  rw [compile_of_accepted r accepted, otherwise]
  cases answer : compileChecked r s pattern source host with
  | error fault => exact ⟨fun _ => Iff.rfl, nofun⟩
  | ok compiled =>
      rw [answer] at own
      have leveled : compiled.log.atLoudness s.verbose.truthy = compiled.log :=
        (congrArg Compiled.log (Except.ok.inj own)).symm
      refine ⟨fun fault => iff_of_false nofun nofun, ?_⟩
      rintro _ ⟨⟩
      exact ⟨_, rfl, Log.forall₂_alike _ leveled _⟩

/-- A word that is nothing, with a mapping that asks for warnings and with no settings. -/
theorem compile_verbose_unknown_word :
    ∃ compiled log,
      compile Registry.builtin (.loose (.dict [(.text "verbose".toList, .bool true)]))
        (.text ['x']) (some (Twister.ofSeed 0)) = .ok compiled ∧
      .diagnostic true (.tokenUnknown ['x']) ∈ compiled.log ∧
      compile Registry.builtin (.loose .none) (.text ['x']) (some (Twister.ofSeed 0)) =
        .ok { compiled with log } ∧
      List.Forall₂ (LogEntry.Alike true false) compiled.log log := by
  have accepted : (Given.loose (.dict [(.text "verbose".toList, .bool true)])).compileSettings =
      .ok (CompileSettings.default.withVerbose (.bool true)) :=
    CompileSettings.schema.ofValue_single "verbose" rfl (.bool true)
  obtain ⟨compiled, answered, logged⟩ : ∃ compiled,
      compile Registry.builtin (.loose (.dict [(.text "verbose".toList, .bool true)]))
        (.text ['x']) (some (Twister.ofSeed 0)) = .ok compiled ∧
      .diagnostic true (.tokenUnknown ['x']) ∈ compiled.log := by
    rw [compile_of_accepted _ accepted]
    exact ⟨_, compileChecked_text_some _ _ (List.cons_ne_nil _ _) _,
      (mem_compileText_log _ _ _ _ _).2 (.inl (List.mem_singleton_self _))⟩
  have defaults : (Given.loose .none).compileSettings = .ok CompileSettings.default := rfl
  obtain ⟨log, quietly, alike⟩ := (compile_verbose Registry.builtin .default accepted defaults rfl
    (.text ['x']) (some (Twister.ofSeed 0))).2 compiled answered
  exact ⟨compiled, log, answered, logged, quietly, alike⟩

end StepPattern
