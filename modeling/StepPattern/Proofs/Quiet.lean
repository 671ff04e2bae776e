/-
# StepPattern.Proofs.Quiet -- how loud a compilation is

A call in a pattern hands over a natural number, the fallback of the transform or
nothing.  On these the built-in transforms fail with recoverable errors only, with
one exception: `sparse` makes a probability of its parameter, and a number that is
too large for a double is a fault of another kind, which is logged as an error
(`refuses_builtin`).

So a compilation that is not asked to warn logs a quiet diagnostic for everything
that goes wrong, unless `sparse` is called with such a number somewhere in the
pattern.
-/
import StepPattern.Proofs.Doubles
import StepPattern.Proofs.Language
import StepPattern.Proofs.Numerals
import StepPattern.Proofs.Reports
import StepPattern.Proofs.Requests
import StepPattern.Proofs.Steps

namespace StepPattern

set_option autoImplicit false

open Text

/-! ## The faults of the built-in transforms -/

namespace Definition

/-- Whether a transform fails with recoverable errors only, when it is called with a natural number
or without a parameter. -/
def Recovers (d : Definition) : Prop :=
  ∀ (call : Call) (param : Value) (s : Sequence) (g : Twister) (fault : Fault),
    Registry.parameter d call.name call.fused = .ok param → (d.run s param g).1 = .error fault →
      ∃ error, fault = .pattern error

theorem recovers_plain (f : Sequence → Sequence) : (plain f).Recovers :=
  fun _ _ _ _ _ _ ran => nomatch ran

theorem recovers_requiring {f : Value → Sequence → Except Fault Sequence}
    (recovers : ∀ (n : Int) (s : Sequence) (fault : Fault), f (.int n) s = .error fault →
      ∃ error, fault = .pattern error) : (requiring f).Recovers := by
  intro call param s g fault given ran
  rcases call with ⟨name, _ | n⟩
  · cases given
  · cases given
    exact recovers n s fault ran

theorem recovers_defaulting {fallback : Int}
    {f : Value → Sequence → Twister → Except Fault Sequence × Twister}
    (recovers : ∀ (n : Int) (s : Sequence) (g : Twister) (fault : Fault),
      (f (.int n) s g).1 = .error fault → ∃ error, fault = .pattern error) :
    (defaulting fallback f).Recovers := by
  intro call param s g fault given ran
  rcases call with ⟨name, _ | n⟩ <;> cases given <;> exact recovers _ s g fault ran

end Definition

namespace Transform

theorem valuewise_int_recovers {f : Int → Sequence → Sequence}
    {compute : Number → Int → Except Fault Number} (n : Int) (s : Sequence) (fault : Fault)
    (ran : valuewise f compute (.int n) s = .error fault) : ∃ error, fault = .pattern error :=
  nomatch ran

theorem rotateBy_int_recovers (n : Int) (s : Sequence) (g : Twister) (fault : Fault)
    (ran : (rotateBy (.int n) s, g).1 = .error fault) : ∃ error, fault = .pattern error := by
  change Except.ok (rotate n s) = .error fault at ran
  cases ran

theorem copiesBy_int_recovers (n : Int) (s : Sequence) (fault : Fault)
    (ran : copiesBy (.int n) s = .error fault) : ∃ error, fault = .pattern error := by
  change copies n s = .error fault at ran
  unfold copies at ran
  split at ran
  · cases ran
    exact ⟨_, rfl⟩
  · cases ran

theorem quantizeBy_int_recovers (n : Int) (s : Sequence) (fault : Fault)
    (ran : quantizeBy (.int n) s = .error fault) : ∃ error, fault = .pattern error := by
  change quantize n s = .error fault at ran
  unfold quantize at ran
  split at ran
  · cases ran
    exact ⟨_, rfl⟩
  · cases ran

theorem probability_int (n : Int) :
    probability (.int n) = (Number.doubleOf n).map (·.divNat 100) := by
  rw [probability]
  cases computed : Number.doubleOf (n : Rat) <;>
    simp [Value.number, Value.number?, Number.toDouble, computed, Except.map, bind, Except.bind,
      pure, Except.pure]

/-- `sparse` fails on a natural number exactly if that is too large for a double. -/
theorem sparse_natCast_eq_error_iff (n : Nat) (s : Sequence) (g : Twister) (fault : Fault) :
    (sparse (.int n) s g).1 = .error fault ↔ Double.leastTooLarge ≤ n ∧ fault = .tooLarge := by
  rw [← Number.doubleOf_natCast_eq_error_iff, sparse, probability_int, Int.cast_natCast]
  cases Number.doubleOf n <;> simp [Except.map]

end Transform

/-- Whether a call is one of `sparse` with a number that is too large for a double. -/
def Call.Overflows (call : Call) : Prop :=
  call.name = "sparse".toList ∧ ∃ n ∈ call.param, Double.leastTooLarge ≤ n

namespace Failure

/-- What goes wrong in such a call. -/
def overflow : Failure :=
  .caught "sparse".toList .tooLarge

/-- `Explained calls failure`: a failure is a recoverable error, or one of the calls overflows. -/
def Explained (calls : List Call) (failure : Failure) : Prop :=
  (∃ error, failure = recovered error) ∨ (∃ call ∈ calls, call.Overflows) ∧ failure = overflow

theorem Explained.mono {calls more : List Call} {failure : Failure}
    (explained : Explained calls failure) (among : ∀ call ∈ calls, call ∈ more) :
    Explained more failure := by
  rcases explained with recovered | ⟨⟨call, member, overflows⟩, same⟩
  · exact .inl recovered
  · exact .inr ⟨⟨call, among call member, overflows⟩, same⟩

end Failure

namespace Registry

/-- The built-in transforms but for `sparse` fail with recoverable errors only. -/
theorem builtin_recovers :
    ∀ entry ∈ builtin, entry.1 ≠ "sparse".toList → entry.2.Recovers := by
  unfold builtin
  simp only [List.forall_mem_cons]
  refine ⟨?scramble, fun _ => Definition.recovers_requiring Transform.valuewise_int_recovers,
    fun _ => Definition.recovers_requiring Transform.valuewise_int_recovers,
    fun _ => Definition.recovers_requiring Transform.valuewise_int_recovers,
    fun _ => Definition.recovers_plain _,
    fun _ => Definition.recovers_requiring Transform.copiesBy_int_recovers,
    fun _ => Definition.recovers_requiring Transform.quantizeBy_int_recovers,
    fun _ => Definition.recovers_plain _,
    fun _ => Definition.recovers_defaulting Transform.rotateBy_int_recovers,
    fun other => absurd rfl other, fun _ => Definition.recovers_plain _, ?none⟩
  case scramble =>
    intro _ call param s g fault given ran
    cases ran
  case none =>
    exact List.forall_mem_nil _

theorem find?_builtin_sparse :
    builtin.find? "sparse".toList = some (.defaulting 50 Transform.sparse) := rfl

/-- **How a call of a built-in transform fails**: with a recoverable error, or because `sparse` was
called with a number that is too large for a double. -/
theorem refuses_builtin {call : Call} {s : Sequence} {g : Twister} {failure : Failure}
    (refused : Refuses builtin call s g failure) : failure.Explained [call] := by
  cases refused with
  | unknown | missing => exact .inl ⟨_, rfl⟩
  | @failed d param fault found given ran =>
      by_cases sparse : call.name = "sparse".toList
      · rcases call with ⟨name, given?⟩
        cases sparse
        cases find?_builtin_sparse.symm.trans found
        cases given? with
        | none =>
            cases given
            have small : ¬Double.leastTooLarge ≤ 50 := by decide +kernel
            exact absurd ((Transform.sparse_natCast_eq_error_iff 50 s g fault).1 ran).1 small
        | some n =>
            cases given
            obtain ⟨large, rfl⟩ := (Transform.sparse_natCast_eq_error_iff n s g fault).1 ran
            exact .inr ⟨⟨_, List.mem_singleton_self _, rfl, n, rfl, large⟩, rfl⟩
      · obtain ⟨entry, among, rfl⟩ := Option.map_eq_some_iff.1 found
        have named : entry.1 = call.name := by simpa using List.find?_some among
        obtain ⟨error, rfl⟩ := builtin_recovers entry (List.mem_of_find?_eq_some among)
          (named ▸ sparse) call param s g fault given ran
        exact .inl ⟨error, rfl⟩

theorem refuses_of_overflows {call : Call} (overflows : call.Overflows) (s : Sequence)
    (g : Twister) : Refuses builtin call s g .overflow := by
  rcases call with ⟨name, param⟩
  obtain ⟨rfl, n, rfl, large⟩ := overflows
  have ran : ((Definition.defaulting 50 Transform.sparse).run s (.int n) g).1 = .error .tooLarge :=
    (Transform.sparse_natCast_eq_error_iff n s g .tooLarge).2 ⟨large, rfl⟩
  exact .failed find?_builtin_sparse rfl ran

end Registry

/-! ## Failures of tokens -/

namespace Token

mutual

def calls : Token → List Call
  | .literal _ | .repeated _ _ => []
  | .bracket call _ children _ => call.toList ++ allCalls children
termination_by structural token => token

def allCalls : List Token → List Call
  | [] => []
  | token :: tokens => calls token ++ allCalls tokens
termination_by structural tokens => tokens

end

mutual

theorem explained_of_onceFails {c : Setting} (builtIn : c.registry = .builtin) (source : Twister)
    (failure : Failure) : (token : Token) → OnceFails c source failure token →
      failure.Explained (calls token)
  | .bracket call _ children _, fails => by
      rw [OnceFails] at fails
      rcases fails with inside | ⟨named, called, refused⟩
      · have explained := explained_of_fails builtIn (.start source) failure children inside
        exact explained.mono fun _ => List.mem_append_right _
      · rw [builtIn] at refused
        refine (Registry.refuses_builtin refused).mono (List.forall_mem_singleton.2 ?_)
        exact List.mem_append_left _ (Option.mem_toList.2 called)

/-- **What goes wrong in tokens is a recoverable error**, unless a call in them overflows. -/
theorem explained_of_fails {c : Setting} (builtIn : c.registry = .builtin) (y : Yield)
    (failure : Failure) : (tokens : List Token) → Fails c y failure tokens →
      failure.Explained (allCalls tokens)
  | token :: tokens, fails => by
      rw [Fails] at fails
      rcases fails with once | ⟨-, tooLong⟩ | further
      · have explained := explained_of_onceFails builtIn y.source failure token once
        exact explained.mono fun _ => List.mem_append_left _
      · exact .inl ⟨_, tooLong⟩
      · have explained := explained_of_fails builtIn _ failure tokens further
        exact explained.mono fun _ => List.mem_append_right _

end

mutual

theorem onceFails_of_overflows {c : Setting} (builtIn : c.registry = .builtin) (source : Twister) :
    (token : Token) → (∃ call ∈ calls token, call.Overflows) → OnceFails c source .overflow token
  | .literal _, ⟨_, among, _⟩ | .repeated _ _, ⟨_, among, _⟩ => nomatch among
  | .bracket call _ children _, ⟨deeper, among, overflows⟩ => by
      rw [OnceFails]
      rcases List.mem_append.1 among with here | inside
      · refine .inr ⟨deeper, Option.mem_toList.1 here, ?_⟩
        rw [builtIn]
        exact Registry.refuses_of_overflows overflows _ _
      · exact .inl (fails_of_overflows builtIn (.start source) children ⟨deeper, inside, overflows⟩)

/-- A call that overflows goes wrong wherever it stands. -/
theorem fails_of_overflows {c : Setting} (builtIn : c.registry = .builtin) (y : Yield) :
    (tokens : List Token) → (∃ call ∈ allCalls tokens, call.Overflows) →
      Fails c y .overflow tokens
  | [], ⟨_, among, _⟩ => nomatch among
  | token :: tokens, ⟨call, among, overflows⟩ => by
      rw [Fails]
      rcases List.mem_append.1 among with here | further
      · exact .inl (onceFails_of_overflows builtIn y.source token ⟨call, here, overflows⟩)
      · exact .inr (.inr (fails_of_overflows builtIn _ tokens ⟨call, further, overflows⟩))

end

end Token

/-! ## The log of a compilation -/

/-- With the built-in transforms a compilation logs the flaws of its text, the recoverable errors of
its tokens, and the calls that overflow. -/
theorem mem_compileText_builtin_log (s : CompileSettings) (t : Text) (source : Twister)
    (entry : LogEntry) :
    entry ∈ (compileText .builtin s t source).log ↔
      (∃ error, (Tree.Flawed s s.depthLimit t error ∨
          Token.Fails (s.setting .builtin) (.start source) (.recovered error)
            (Tree.parse s t 0).tokens) ∧ entry = .diagnostic s.loud error) ∨
        (∃ call ∈ Token.allCalls (Tree.parse s t 0).tokens, call.Overflows) ∧
          entry = Failure.overflow.entry s.loud := by
  have steps := Tree.yield_builtin_allSteps s (Tree.parse s t 0).tokens source
  rw [mem_compileText_log, Tree.mem_parse_log, s.finish_of_allSteps steps]
  constructor
  · rintro (⟨error, flaw, same⟩ | ⟨failure, fails, same⟩ | ⟨fault, unfinished, -⟩)
    · exact .inl ⟨error, .inl flaw, same⟩
    · rcases Token.explained_of_fails rfl _ _ _ fails with ⟨error, rfl⟩ | ⟨overflows, rfl⟩
      · exact .inl ⟨error, .inr fails, same⟩
      · exact .inr ⟨overflows, same⟩
    · cases unfinished
  · rintro (⟨error, flaw | fails, same⟩ | ⟨overflows, same⟩)
    · exact .inl ⟨error, flaw, same⟩
    · exact .inr (.inl ⟨_, fails, same⟩)
    · exact .inr (.inl ⟨_, Token.fails_of_overflows rfl _ _ overflows, same⟩)

theorem Tree.not_flawed_nil (s : CompileSettings) (error : PatternError) :
    ¬Flawed s s.depthLimit [] error := by
  intro flaw
  have logged := (mem_parse_log s [] (.diagnostic s.loud error)).2 ⟨error, flaw, rfl⟩
  rw [parse_nil] at logged
  cases logged

/-- **How quiet a compilation is.**  With the built-in transforms and settings that do not ask for
warnings, every flaw of the text and every recoverable error of its tokens is logged as a quiet
diagnostic, and nothing else is logged but the failure of calls that overflow.  So all is quiet
exactly if `sparse` is never called with a number that is too large for a double. -/
theorem compile_quiet_unless_overflow (s : CompileSettings) (quiet : s.loud = false) (t : Text)
    (source : Twister) :
    ∃ compiled, compile .builtin (.checked s) (.text t) (some source) = .ok compiled ∧
      (∀ error, Tree.Flawed s s.depthLimit t error ∨
          Token.Fails (s.setting .builtin) (.start source) (.recovered error)
            (Tree.parse s t 0).tokens → .diagnostic false error ∈ compiled.log) ∧
      (∀ entry ∈ compiled.log, (∃ error, entry = .diagnostic false error) ∨
        entry = Failure.overflow.entry false) ∧
      ((∀ entry ∈ compiled.log, entry.level = .debug) ↔
        ∀ call ∈ Token.allCalls (Tree.parse s t 0).tokens, ¬call.Overflows) := by
  by_cases nonempty : t = []
  · subst nonempty
    refine ⟨.refused false (.patternUnusable (Text.quote [])) (some source), ?_, ?_, ?_, ?_⟩
    · rw [← quiet]
      rfl
    · rintro error (flaw | fails)
      · exact absurd flaw (Tree.not_flawed_nil s error)
      · rw [Tree.parse_nil] at fails
        exact fails.elim
    · exact List.forall_mem_singleton.2 (.inl ⟨_, rfl⟩)
    · rw [Tree.parse_nil]
      exact iff_of_true (List.forall_mem_singleton.2 rfl) (List.forall_mem_nil _)
  · have logged := mem_compileText_builtin_log s t source
    rw [quiet] at logged
    refine ⟨_, compileChecked_text_some _ s nonempty source, ?_, ?_, ?_⟩
    · exact fun error wrong => (logged _).2 (.inl ⟨error, wrong, rfl⟩)
    · intro entry member
      rcases (logged entry).1 member with ⟨error, -, same⟩ | ⟨-, same⟩
      · exact .inl ⟨error, same⟩
      · exact .inr same
    · constructor
      · intro debug call among overflows
        cases debug _ ((logged _).2 (.inr ⟨⟨call, among, overflows⟩, rfl⟩))
      · intro harmless entry member
        rcases (logged entry).1 member with ⟨error, -, rfl⟩ | ⟨⟨call, among, overflows⟩, -⟩
        · rfl
        · exact absurd overflows (harmless call among)

/-- A call without a parameter it needs, a stray bracket and a number within the bounds. -/
theorem compile_quiet_unless_overflow_missing_parameter :
    CompileSettings.default.loud = false ∧
      ∃ t compiled, t = "invert[1] ] sparse200[2]".toList ∧
        compile .builtin (.checked .default) (.text t) (some (.ofSeed 0)) = .ok compiled ∧
        (∀ error, Tree.Flawed .default 10 t error ∨
            Token.Fails (CompileSettings.default.setting .builtin) (.start (.ofSeed 0))
              (.recovered error) (Tree.parse .default t 0).tokens →
          .diagnostic false error ∈ compiled.log) ∧
        (∀ entry ∈ compiled.log, (∃ error, entry = .diagnostic false error) ∨
          entry = Failure.overflow.entry false) ∧
        ((∀ entry ∈ compiled.log, entry.level = .debug) ↔
          ∀ call ∈ Token.allCalls (Tree.parse .default t 0).tokens, ¬call.Overflows) := by
  obtain ⟨compiled, outcome⟩ :=
    compile_quiet_unless_overflow .default rfl "invert[1] ] sparse200[2]".toList (.ofSeed 0)
  exact ⟨rfl, _, compiled, rfl, outcome⟩

/-! ## A call that is logged as an error -/

def sparseCall (n : Nat) : Text :=
  "sparse".toList ++ Nat.toDigits 10 n ++ "[]".toList

theorem parse_sparseCall {n : Nat} (short : (Nat.toDigits 10 n).length ≤ maxDigits) :
    Tree.parse .default (sparseCall n) 0 =
      { tokens := [.bracket (some ⟨"sparse".toList, some n⟩) [] [] none], log := [] } := by
  have nothing : ∀ c ∈ ([] : Text), isBlank c = true := List.forall_mem_nil _
  have named : Grammar.Name ("sparse".toList ++ Nat.toDigits 10 n)
      (some ⟨"sparse".toList, some n⟩) := by
    have letters : isLetters "sparse".toList = true := rfl
    have fused := Grammar.Name.fused letters (Grammar.digits_toDigits short)
    rwa [digitsValue_toDigits] at fused
  have written : Grammar.Pattern CompileSettings.default.restSymbol 10
      [.bracket (some ⟨"sparse".toList, some n⟩) [] [] none] _ :=
    (Grammar.Item.bracket named (.gap nothing) .none).pattern
  exact (Tree.parse_eq_iff .default _ _).2 written

theorem overflow_mem_log {n : Nat} (short : (Nat.toDigits 10 n).length ≤ maxDigits)
    (large : Double.leastTooLarge ≤ n) (source : Twister) :
    ∃ compiled, compile .builtin (.checked .default) (.text (sparseCall n)) (some source) =
        .ok compiled ∧
      Failure.overflow.entry false ∈ compiled.log := by
  have nonempty : sparseCall n ≠ [] := List.append_ne_nil_of_right_ne_nil _ (by decide)
  refine ⟨_, (compile_of_accepted _ rfl _ _).trans (compileChecked_text_some _ _ nonempty source),
    (mem_compileText_builtin_log _ _ _ _).2 (.inr ⟨?_, rfl⟩)⟩
  rw [parse_sparseCall short]
  exact ⟨_, List.mem_singleton_self _, rfl, n, rfl, large⟩

/-- A one and 309 zeros are too large: the call is logged as an error. -/
theorem compile_not_quiet :
    ¬∀ (s : CompileSettings) (t : Text) (source : Twister), s.loud = false →
      ∃ compiled, compile .builtin (.checked s) (.text t) (some source) = .ok compiled ∧
        ∀ entry ∈ compiled.log, entry.level = .debug := by
  intro always
  have short : ∀ zeros, (Nat.toDigits 10 (10 ^ zeros)).length ≤ zeros + 1 := fun zeros =>
    (Nat.length_toDigits_le_iff (by decide) (Nat.succ_pos zeros)).2
      (Nat.pow_lt_pow_right (by decide) (Nat.lt_succ_self zeros))
  have large : Double.leastTooLarge ≤ 10 ^ 309 := by decide +kernel
  obtain ⟨compiled, outcome, logged⟩ :=
    overflow_mem_log ((short 309).trans (by decide)) large (.ofSeed 0)
  obtain ⟨_, same, debug⟩ := always .default (sparseCall (10 ^ 309)) (.ofSeed 0) rfl
  cases outcome.symm.trans same
  cases debug _ logged

end StepPattern
