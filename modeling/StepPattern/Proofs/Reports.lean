/-
# StepPattern.Proofs.Reports -- what is logged is what goes wrong

What goes wrong in a compilation can be said without a log:

* a text has a flaw (`Tree.Flawed`) where its scan finds an error, where one of its
  raw tokens is refused, where a bracket lies at the depth limit, and where what
  stands inside a bracket has one;
* a call is refused (`Registry.Refuses`) where its name is unknown, where it lacks a
  parameter that it needs, and where the transform fails;
* tokens fail (`Token.Fails`) where a call in them is refused, and where one of them
  would take the sequence past the step limit.

Parsing logs the flaws of the text (`mem_parse_log`), evaluation the failures of the
tokens (`mem_evaluateFrom_log`), and a compilation nothing besides but the failure of
its last touch (`mem_compileText_log`): no flaw and no failure goes without a record,
and every record is of one.
-/
import StepPattern.Proofs.Yield

namespace StepPattern

set_option autoImplicit false

/-- Something that goes wrong while tokens are evaluated and is got over. -/
inductive Failure where
  /-- A recoverable error. -/
  | recovered (error : PatternError)
  /-- A fault of another kind in the transform of a name. -/
  | caught (name : Text) (fault : Fault)
  deriving DecidableEq, Repr

namespace Failure

/-- The failure that a fault in the transform of a name is. -/
def ofFault (name : Text) : Fault → Failure
  | .pattern error => recovered error
  | fault => caught name fault

def entry (loud : Bool) : Failure → LogEntry
  | recovered error => .diagnostic loud error
  | caught name fault =>
      .failure fault
        ("Transformation " ++ name.string ++ " failed, passing its input through")

theorem entry_ofFault (loud : Bool) (name : Text) (fault : Fault) :
    (ofFault name fault).entry loud = Registry.faultEntry loud name fault := by
  cases fault <;> rfl

end Failure

/-! ## Flaws of a text -/

namespace Tree

/-- `Flawed s levels t error`: where so many more levels of brackets are allowed, an error spoils a
part of a text. -/
inductive Flawed (s : CompileSettings) : Nat → Text → PatternError → Prop where
  /-- The scan meets a closing bracket that closes nothing, or a token that is not finished. -/
  | scanned {levels : Nat} {t : Text} {error : PatternError}
      (found : error ∈ Piece.errors (Piece.ofText t)) : Flawed s levels t error
  /-- A raw token is no token. -/
  | refused {levels : Nat} {t raw : Text} {error : PatternError} (among : raw ∈ Piece.rawTokens t)
      (bad : Token.classify s.restSymbol raw = .error error) : Flawed s levels t error
  /-- A bracket lies at the depth limit. -/
  | tooDeep {t raw inner : Text} {call : Option Call} {children : List Token} {count : Option Nat}
      (among : raw ∈ Piece.rawTokens t)
      (bracket : Token.classify s.restSymbol raw = .ok (.bracket call inner children count)) :
      Flawed s 0 t (.tooDeep s.depthLimit raw)
  /-- The inside of a bracket is flawed. -/
  | inside {levels : Nat} {t raw inner : Text} {call : Option Call} {children : List Token}
      {count : Option Nat} {error : PatternError} (among : raw ∈ Piece.rawTokens t)
      (bracket : Token.classify s.restSymbol raw = .ok (.bracket call inner children count))
      (flaw : Flawed s levels inner error) : Flawed s (levels + 1) t error

theorem mem_parseWithin_log_iff (s : CompileSettings) (levels : Nat) (t : Text)
    (entry : LogEntry) :
    entry ∈ (parseWithin s levels t).log ↔
      (∃ error ∈ Piece.errors (Piece.ofText t), entry = .diagnostic s.loud error) ∨
        ∃ raw ∈ Piece.rawTokens t, entry ∈ (parseToken s (descend s levels) raw).log := by
  rw [parseWithin_eq, parseLevel]
  simp only [Parsed.concat, List.flatMap_map, List.mem_append, List.mem_map, List.mem_flatMap,
    Piece.rawTokens, eq_comm]

/-- What a raw token adds to the log is a flaw of the text that it stands in, if this is so of the
insides of brackets. -/
theorem flawed_of_mem_parseToken_log {s : CompileSettings} {levels : Nat} {t raw : Text}
    {entry : LogEntry} (inside : ∀ {lower inner}, lower + 1 = levels →
      entry ∈ (parseWithin s lower inner).log →
        ∃ error, Flawed s lower inner error ∧ entry = .diagnostic s.loud error)
    (among : raw ∈ Piece.rawTokens t) (logged : entry ∈ (parseToken s (descend s levels) raw).log) :
    ∃ error, Flawed s levels t error ∧ entry = .diagnostic s.loud error := by
  cases classified : Token.classify s.restSymbol raw with
  | error error =>
      rw [parseToken, classified] at logged
      exact ⟨error, .refused among classified, List.mem_singleton.1 logged⟩
  | ok token =>
      rw [parseToken, classified] at logged
      cases token with
      | literal | repeated => cases logged
      | bracket call inner children count =>
          cases levels with
          | zero => exact ⟨_, .tooDeep among classified, List.mem_singleton.1 logged⟩
          | succ lower =>
              obtain ⟨error, flaw, same⟩ := inside rfl logged
              exact ⟨error, .inside among classified flaw, same⟩

/-- **Parsing logs the flaws of a text** and nothing else. -/
theorem mem_parseWithin_log (s : CompileSettings) (levels : Nat) (t : Text) (entry : LogEntry) :
    entry ∈ (parseWithin s levels t).log ↔
      ∃ error, Flawed s levels t error ∧ entry = .diagnostic s.loud error := by
  constructor
  · intro logged
    induction levels using Nat.strongRecOn generalizing t with
    | _ levels ih =>
        rw [mem_parseWithin_log_iff] at logged
        rcases logged with ⟨error, found, same⟩ | ⟨raw, among, logged⟩
        · exact ⟨error, .scanned found, same⟩
        · exact flawed_of_mem_parseToken_log (fun below => ih _ (by omega) _) among logged
  · rintro ⟨error, flaw, rfl⟩
    induction flaw with
    | scanned found => exact (mem_parseWithin_log_iff _ _ _ _).2 (.inl ⟨_, found, rfl⟩)
    | @refused levels t raw error among bad =>
        refine (mem_parseWithin_log_iff _ _ _ _).2 (.inr ⟨raw, among, ?_⟩)
        rw [parseToken, bad]
        exact List.mem_singleton_self _
    | @tooDeep t raw inner call children count among bracket =>
        refine (mem_parseWithin_log_iff _ _ _ _).2 (.inr ⟨raw, among, ?_⟩)
        rw [parseToken, bracket]
        exact List.mem_singleton_self _
    | @inside levels t raw inner call children count error among bracket flaw ih =>
        refine (mem_parseWithin_log_iff _ _ _ _).2 (.inr ⟨raw, among, ?_⟩)
        rw [parseToken, bracket]
        exact ih

theorem mem_parse_log (s : CompileSettings) (t : Text) (entry : LogEntry) :
    entry ∈ (parse s t 0).log ↔
      ∃ error, Flawed s s.depthLimit t error ∧ entry = .diagnostic s.loud error := by
  rw [parse_eq_parseWithin]
  exact mem_parseWithin_log s _ t entry

end Tree

/-! ## Calls that are refused -/

namespace Registry

/-- `Refuses r call s g failure`: a call on a sequence with a source fails, and passes the sequence
on as it is. -/
inductive Refuses (r : Registry) (call : Call) (s : Sequence) (g : Twister) : Failure → Prop where
  /-- Nothing has the name. -/
  | unknown (absent : r.find? call.name = none) :
      Refuses r call s g (.recovered (.transformUnknown call.name))
  /-- The parameter is absent and has to be there. -/
  | missing {d : Definition} {error : PatternError} (found : r.find? call.name = some d)
      (lacking : parameter d call.name call.fused = .error error) :
      Refuses r call s g (.recovered error)
  /-- The transform fails. -/
  | failed {d : Definition} {param : Value} {fault : Fault} (found : r.find? call.name = some d)
      (given : parameter d call.name call.fused = .ok param)
      (ran : (d.run s param g).1 = .error fault) :
      Refuses r call s g (.ofFault call.name fault)

/-- A call logs why it is refused, and nothing else. -/
theorem mem_call_log (r : Registry) (loud : Bool) (call : Call) (s : Sequence) (g : Twister)
    (entry : LogEntry) :
    entry ∈ (r.call loud call .none s g).log ↔
      ∃ failure, Refuses r call s g failure ∧ entry = failure.entry loud := by
  have unexplained : Value.none.orElse call.fused = call.fused := rfl
  constructor
  · intro logged
    rw [Registry.call, unexplained] at logged
    split at logged
    · rename_i absent
      exact ⟨_, .unknown absent, List.mem_singleton.1 logged⟩
    · rename_i d found
      unfold run at logged
      split at logged
      · rename_i error lacking
        exact ⟨_, .missing found lacking, List.mem_singleton.1 logged⟩
      · rename_i param given
        split at logged
        · cases logged
        · rename_i fault after ran
          refine ⟨_, .failed found given (by rw [ran]), ?_⟩
          rw [Failure.entry_ofFault]
          exact List.mem_singleton.1 logged
  · rintro ⟨failure, refused, rfl⟩
    rw [Registry.call, unexplained]
    cases refused with
    | unknown absent =>
        rw [absent]
        exact List.mem_singleton_self _
    | missing found lacking =>
        simp only [found, run, lacking]
        exact List.mem_singleton_self _
    | @failed d param fault found given ran =>
        cases outcome : d.run s param g with
        | mk result after =>
            rw [outcome] at ran
            cases ran
            simp only [found, run, given, outcome, Failure.entry_ofFault]
            exact List.mem_singleton_self _

end Registry

/-! ## Tokens that fail -/

namespace Yield

/-- A piece is added to a log only where it would get too long. -/
theorem mem_progress_add_log (y piece : Yield) (count : Nat) (log : Log) (loud : Bool)
    (name : String) (entry : LogEntry) :
    entry ∈ (Progress.add { y.progress log with source := piece.source } loud name piece.sequence
        count).log ↔
      entry ∈ log ∨ maxSteps < y.sequence.length + (piece.times count).sequence.length ∧
        entry = .diagnostic loud (.tooManySteps maxSteps name) := by
  rw [length_times, Progress.add]
  simp only [progress, List.size_toArray, gt_iff_lt]
  split
  · rename_i long
    simp only [List.mem_cons, long, true_and, or_comm]
  · rename_i fits
    simp only [fits, false_and, or_false]

end Yield

namespace Token

mutual

/-- `OnceFails c source failure token`: something goes wrong in one token, inside its bracket or in
the call on it. -/
def OnceFails (c : Setting) (source : Twister) (failure : Failure) : Token → Prop
  | .literal _ | .repeated _ _ => False
  | .bracket call _ children _ =>
      Fails c (.start source) failure children ∨
        ∃ named ∈ call, c.registry.Refuses named
          (yieldFrom c (.start source) children).sequence
          (yieldFrom c (.start source) children).source failure
termination_by structural token => token

/-- `Fails c y failure tokens`: something goes wrong in tokens behind what is there, in one of them
or because it would get too long. -/
def Fails (c : Setting) (y : Yield) (failure : Failure) : List Token → Prop
  | [] => False
  | token :: tokens =>
      OnceFails c y.source failure token ∨
        (maxSteps < y.sequence.length + ((once c y.source token).times token.count).sequence.length ∧
          failure = .recovered (.tooManySteps maxSteps token.formName)) ∨
        Fails c (y.add ((once c y.source token).times token.count)) failure tokens
termination_by structural tokens => tokens

end

mutual

theorem mem_steps_log (c : Setting) (log : Log) (source : Twister) (entry : LogEntry) :
    (token : Token) → (readable : Readable c.restSymbol token) →
      (entry ∈ (steps c log source token).2.1 ↔
        entry ∈ log ∨ ∃ failure, OnceFails c source failure token ∧ entry = failure.entry c.loud)
  | .literal _, _ | .repeated _ _, _ => by
      simp only [steps, OnceFails, false_and, exists_false, or_false]
  | .bracket call _ children _, readable => by
      have logged := mem_evaluateFrom_log c (.start source) log entry children readable
      obtain ⟨later, inside⟩ := evaluateFrom_eq c (.start source) log children readable
      have begun : (Yield.start source).progress log = Progress.start log source := rfl
      rw [begun] at inside logged
      rw [inside] at logged
      rw [steps, inside]
      cases call with
      | none => simpa only [OnceFails, Option.mem_def, reduceCtorEq, false_and, exists_false,
          or_false] using logged
      | some call =>
          have called := Registry.mem_call_log c.registry c.loud call
            (yieldFrom c (.start source) children).sequence
            (yieldFrom c (.start source) children).source entry
          simp only [Yield.progress] at logged ⊢
          simp only [List.mem_append, List.mem_reverse, called, logged, OnceFails, Option.mem_some,
            exists_eq_left', or_and_right, exists_or]
          rw [or_comm, or_assoc]

/-- **Evaluating readable tokens logs what goes wrong in them**, and nothing else. -/
theorem mem_evaluateFrom_log (c : Setting) (y : Yield) (log : Log) (entry : LogEntry) :
    (tokens : List Token) → (readable : AllReadable c.restSymbol tokens) →
      (entry ∈ (evaluateFrom c (y.progress log) tokens).2.log ↔
        entry ∈ log ∨ ∃ failure, Fails c y failure tokens ∧ entry = failure.entry c.loud)
  | [], _ => by
      simp only [evaluateFrom, Yield.progress, Fails, false_and, exists_false, or_false]
  | token :: tokens, readable => by
      obtain ⟨read, here⟩ := steps_eq c log y.source token readable.1
      have stepped := mem_steps_log c log y.source entry token readable.1
      rw [here] at stepped
      obtain ⟨added, progress⟩ := y.progress_add (once c y.source token) token.count read c.loud
        token.formName
      have adding := y.mem_progress_add_log (once c y.source token) token.count read c.loud
        token.formName entry
      rw [progress] at adding
      have further := mem_evaluateFrom_log c (y.add ((once c y.source token).times token.count))
        added entry tokens readable.2
      -- The state after the token is that of its yield; the records come one after the other.
      rw [evaluateFrom]
      simp only [Yield.progress] at here progress adding further ⊢
      simp only [here, progress, further, adding, stepped, Fails, or_and_right, exists_or,
        or_assoc, and_assoc, exists_and_left, exists_eq_left, Failure.entry]

end

end Token

/-! ## The log of a compilation -/

namespace Tree

theorem mem_evaluate_log (s : CompileSettings) (r : Registry) {tokens : List Token}
    (readable : Token.AllReadable s.restSymbol tokens) (source : Twister) (entry : LogEntry) :
    entry ∈ (evaluate (s.setting r) tokens source).log ↔
      ∃ failure, Token.Fails (s.setting r) (.start source) failure tokens ∧
        entry = failure.entry s.loud := by
  have logged := Token.mem_evaluateFrom_log (s.setting r) (.start source) [] entry tokens readable
  obtain ⟨later, evaluated⟩ := Token.evaluateFrom_eq (s.setting r) (.start source) [] tokens readable
  have begun : (Yield.start source).progress [] = Progress.start [] source := rfl
  rw [begun] at evaluated logged
  rw [evaluated] at logged
  rw [evaluate, evaluated]
  simp only [Yield.progress, List.not_mem_nil, false_or] at logged
  rw [List.mem_reverse]
  exact logged

end Tree

/-- **A compilation logs what goes wrong in it**: what its parsing logs, the failures of its tokens
and the failure of its last touch, and nothing else. -/
theorem mem_compileText_log (r : Registry) (s : CompileSettings) (t : Text) (source : Twister)
    (entry : LogEntry) :
    entry ∈ (compileText r s t source).log ↔
      entry ∈ (Tree.parse s t 0).log ∨
      (∃ failure, Token.Fails (s.setting r) (.start source) failure (Tree.parse s t 0).tokens ∧
        entry = failure.entry s.loud) ∨
      ∃ fault, s.finish (Tree.yield s r (Tree.parse s t 0).tokens source).sequence = .error fault ∧
        entry = failedCompilation t fault := by
  have readable : Token.AllReadable s.restSymbol (Tree.parse s t 0).tokens :=
    Tree.parse_readable s t 0
  have failures := Tree.mem_evaluate_log s r readable source entry
  obtain ⟨log, evaluated⟩ := Tree.evaluate_eq s r readable source
  rw [evaluated] at failures
  simp only [compileText, evaluated, Except.bind]
  cases s.finish (Tree.yield s r (Tree.parse s t 0).tokens source).sequence with
  | ok finished =>
      simp only [List.mem_append, failures, reduceCtorEq, false_and, exists_false, or_false]
  | error fault =>
      simp only [List.mem_append, failures, List.mem_singleton, Except.error.injEq,
        exists_eq_left', or_assoc]

end StepPattern
