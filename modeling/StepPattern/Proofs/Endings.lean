/-
# StepPattern.Proofs.Endings -- how a run of a command line ends

A run ends as it should if it prints one line, or with a usage error: nothing printed, the
exit code 2 and a message (`Printed.IsLine`, `Printed.IsUsage`).  A request for help prints
it.  All other runs are ended by a fault, and `CommandLine.Faults` says which and where
from:

* the configuration file cannot be read, or holds something else than a mapping;
* the seed option is no seed;
* the sections and the seed in them: what they are made of (`Config.Unusable`), or what their
  values are (`RandomFails`);
* a note of the compiled sequence is beyond the digit limit.

All this is said of any reader of files, any host and either release of the reader of words.  A
generated pattern text has no part in it: whatever the style, there is one and it stands on
one line.
-/
import StepPattern.Proofs.Generated
import StepPattern.Proofs.Options

namespace StepPattern

set_option autoImplicit false

/-! ## Ends of a run -/

namespace Printed

/-- Whether a run prints one line. -/
def IsLine (p : Printed) : Prop :=
  ∃ t, Text.OneLine t ∧ p = .line t

/-- Whether a run ends in a usage error, which has a message. -/
def IsUsage (p : Printed) : Prop :=
  p.code = 2 ∧ p.output = [] ∧ p.error ≠ []

end Printed

theorem SettingError.message_ne_empty (error : SettingError) : error.message ≠ "" := by
  unfold message
  split <;> simp [toString]

theorem UsageError.message_ne_empty (error : UsageError) : error.message ≠ "" := by
  unfold message
  split
  case h_6 error => exact error.message_ne_empty
  all_goals simp

theorem Printed.isUsage_usage (error : UsageError) : (usage error).IsUsage :=
  ⟨rfl, rfl, mt String.toList_eq_nil_iff.1 error.message_ne_empty⟩

namespace CommandLine

variable {around : Surroundings} {files : Files} {a : Arguments} {fault : Fault}

/-! ## Loading a configuration -/

/-- What a run starts from: the configuration that its arguments name, an empty one if there is
none, or the reason why it cannot be used. -/
inductive Loads (around : Surroundings) (files : Files) (a : Arguments) :
    Except Fault Entries → Prop
  | unnamed (absent : configPath? a = none) : Loads around files a (.ok [])
  | missing {path : Text} (named : configPath? a = some path) (found : files path = .nothing) :
      Loads around files a (.ok [])
  | directory {path : Text} (named : configPath? a = some path)
      (found : files path = .directory) : Loads around files a (.error .directory)
  | unreadable {path content : Text} {fault : Fault} (named : configPath? a = some path)
      (found : files path = .file content) (failed : around.read content = .error fault) :
      Loads around files a (.error fault)
  | empty {path content : Text} (named : configPath? a = some path)
      (found : files path = .file content) (read : around.read content = .ok .none) :
      Loads around files a (.ok [])
  | mapping {path content : Text} {config : Entries} (named : configPath? a = some path)
      (found : files path = .file content) (read : around.read content = .ok (.dict config)) :
      Loads around files a (.ok config)
  | notMapping {path content : Text} {v : Value} (named : configPath? a = some path)
      (found : files path = .file content) (read : around.read content = .ok v)
      (given : v ≠ .none) (other : ∀ config, v ≠ .dict config) :
      Loads around files a (.error (.setting (.configNotMapping path)))

theorem config_eq_iff {result : Except Fault Entries} :
    (config around files a).1 = result ↔ Loads around files a result := by
  constructor
  · rintro rfl
    unfold config
    cases named : configPath? a with
    | none => exact .unnamed named
    | some path =>
        simp only [Config.load]
        cases found : files path with
        | nothing => exact .missing named found
        | directory => exact .directory named found
        | file content =>
            dsimp only
            split
            case h_1 failed => exact .unreadable named found failed
            case h_2 read => exact .empty named found read
            case h_3 read => exact .mapping named found read
            case h_4 given other read => exact .notMapping named found read given other
  · intro loads
    cases loads with
    | unnamed absent => simp only [config, absent]
    | missing named found | directory named found => simp only [config, named, Config.load, found]
    | unreadable named found read | empty named found read | mapping named found read
    | notMapping named found read =>
        simp only [config, named, Config.load, found, read]

end CommandLine

/-! ## Running with a configuration -/

/-- Whether a pattern is to be compiled: there is one, and no style or random sequence is asked
for. -/
structure Arguments.Compiles (a : Arguments) (pattern : Text) : Prop where
  plain : ¬a.Styled
  ordered : a.random = false
  given : a.pattern = some pattern
  nonempty : pattern ≠ []

/-- What is compiled with the built-in transforms is made of steps. -/
theorem compileText_builtin_allSteps (s : CompileSettings) (t : Text) (source : Twister) :
    AllSteps (compileText .builtin s t source).sequence := by
  obtain ⟨log, compiled⟩ := compileText_eq .builtin s t source
  have steps := Tree.yield_builtin_allSteps s (Tree.parse s t 0).tokens source
  rw [compiled, s.finished_eq_self steps]
  exact steps

namespace CommandLine

variable {host : Host} {a : Arguments} {s : CompileSettings} {source : Option Twister}
  {config : Entries} {fault : Fault} {pattern : Text}

/-- Whether the sequence that a pattern is compiled to has a note beyond the digit limit. -/
def TooLong (s : CompileSettings) (pattern : Text) (g : Twister) : Prop :=
  ∃ n, .note n ∈ (compileText .builtin s pattern g).sequence ∧ Text.numeralBound ≤ n.natAbs

theorem stringify_compiled (s : CompileSettings) (pattern : Text) (g : Twister) :
    ∃ steps, stringify s.restSymbol (compileText .builtin s pattern g).sequence =
        writeSteps s.restSymbol steps ∧
      (TooLong s pattern g ↔ ∃ n, Step.note n ∈ steps ∧ Text.numeralBound ≤ n.natAbs) := by
  obtain ⟨steps, same⟩ := (compileText_builtin_allSteps s pattern g).exists_eq_map
  refine ⟨steps, by rw [same, stringify_toValue], exists_congr fun n => and_congr_left fun _ => ?_⟩
  rw [same, List.mem_map]
  constructor
  · rintro ⟨step, among, written⟩
    cases step with
    | rest => cases written
    | note m =>
        cases written
        exact among
  · exact fun among => ⟨.note n, among, rfl⟩

theorem compiledText_of_begins (nonempty : pattern ≠ []) {g : Twister}
    (begins : Twister.Begins host source s.seed g) : ∃ log,
      compiledText host s source pattern =
        (stringify s.restSymbol (compileText .builtin s pattern g).sequence).map (·, log) := by
  rcases begins with rfl | ⟨rfl, made⟩
  · rw [compiledText, compileChecked_text_some _ _ nonempty]
    exact ⟨_, rfl⟩
  · rw [compiledText, compileChecked_text_none _ _ nonempty, made]
    exact ⟨_, rfl⟩

theorem compiledText_of_seedless (nonempty : pattern ≠ []) (seedless : s.seed.isSeed = false) :
    compiledText host s none pattern = .error .wrongKind := by
  rw [compiledText, compileChecked_text_none _ _ nonempty,
    Twister.ofSeedValue_eq_error_iff.2 ⟨seedless, rfl⟩]
  rfl

/-- A pattern has a text unless there is no source and the seed is none, or a note is too long. -/
theorem compiledText_eq_error_iff (nonempty : pattern ≠ []) :
    compiledText host s source pattern = .error fault ↔
      (source = none ∧ s.seed.isSeed = false ∧ fault = .wrongKind) ∨
      ∃ g, Twister.Begins host source s.seed g ∧ TooLong s pattern g ∧ fault = Value.overLimit := by
  have written : ∀ {g}, Twister.Begins host source s.seed g →
      (compiledText host s source pattern = .error fault ↔
        TooLong s pattern g ∧ fault = Value.overLimit) := by
    intro g begins
    obtain ⟨log, compiled⟩ := compiledText_of_begins nonempty begins
    obtain ⟨steps, same, long⟩ := stringify_compiled s pattern g
    rw [compiled, map_eq_error_iff, same, long, writeSteps_eq_error_iff]
  constructor
  · intro failed
    obtain ⟨g, begins⟩ | ⟨rfl, seedless⟩ := Twister.begins_or host source s.seed
    · exact .inr ⟨g, begins, (written begins).1 failed⟩
    · rw [compiledText_of_seedless nonempty seedless] at failed
      exact .inl ⟨rfl, seedless, (Except.error.inj failed).symm⟩
  · rintro (⟨rfl, seedless, rfl⟩ | ⟨g, begins, failed⟩)
    · exact compiledText_of_seedless nonempty seedless
    · exact (written begins).2 failed

/-- The text of a pattern stands on one line. -/
theorem oneLine_of_compiledText (nonempty : pattern ≠ []) {t : Text} {log : Log}
    (given : compiledText host s source pattern = .ok (t, log)) : Text.OneLine t := by
  obtain ⟨g, begins⟩ | ⟨rfl, seedless⟩ := Twister.begins_or host source s.seed
  · obtain ⟨_, compiled⟩ := compiledText_of_begins nonempty begins
    obtain ⟨steps, same, -⟩ := stringify_compiled s pattern g
    rw [compiled, map_eq_ok_iff, same] at given
    obtain ⟨t, written, same⟩ := given
    cases same
    exact Text.oneLine_of_writeSteps (Text.oneLine_of_isRestSymbol s.restSymbol_ok) written
  · rw [compiledText_of_seedless nonempty seedless] at given
    cases given

/-! ### The run -/

/-- How a run with a configuration and a source is ended by a fault. -/
inductive FaultsWith (host : Host) (a : Arguments) (source : Option Twister) (config : Entries) :
    Fault → Prop
  /-- No fields can be made of the section for a compilation. -/
  | unusable {fault : Fault}
      (given : Config.Unusable host (CompileSettings.schema host) config a.compileOverrides
        "compile".toList fault) : FaultsWith host a source config fault
  /-- The depth limit is nested too deep to be shown. -/
  | depth {entries : Entries} {v : Value}
      (given : Config.sectionEntries config "compile".toList = .ok entries)
      (known : Config.Known CompileSettings.default.fields entries a.compileOverrides)
      (held : Config.Effective CompileSettings.default.fields entries a.compileOverrides
        "max_recursion_depth".toList v)
      (deep : (v.obstacles host.room).head? = some Value.tooDeep) :
      FaultsWith host a source config Value.tooDeep
  /-- A random sequence is asked for and fails. -/
  | random {s : CompileSettings} {fault : Fault}
      (settled : Config.compileSettings config a.compileOverrides host = .ok s) (plain : ¬a.Styled)
      (asked : a.random = true) (fails : RandomFails host config a.randomOverrides source fault) :
      FaultsWith host a source config fault
  /-- A pattern is compiled from a seed that is none. -/
  | seed {s : CompileSettings} {pattern : Text}
      (settled : Config.compileSettings config a.compileOverrides host = .ok s)
      (compiles : a.Compiles pattern) (sourceless : source = none)
      (seedless : s.seed.isSeed = false) : FaultsWith host a source config .wrongKind
  /-- A note of what a pattern is compiled to cannot be printed. -/
  | note {s : CompileSettings} {pattern : Text} {g : Twister}
      (settled : Config.compileSettings config a.compileOverrides host = .ok s)
      (compiles : a.Compiles pattern) (begins : Twister.Begins host source s.seed g)
      (long : TooLong s pattern g) : FaultsWith host a source config Value.overLimit

theorem settled_eq (s : CompileSettings)
    (given : Config.compileSettings config a.compileOverrides host = .ok s) :
    settled host a source config = (a.generated host s source config).map (s, ·) := by
  rw [settled, given]
  rfl

theorem distinct_compileOverrides (a : Arguments) : (a.compileOverrides.map (·.1)).Nodup := by
  show ["max_recursion_depth".toList, "rest_symbol".toList, "normalize".toList, "verbose".toList,
    "seed".toList].Nodup
  decide

/-- Where the settings of a compilation fail, refusals apart, so does the run. -/
theorem faultsWith_of_compileSettings
    (failed : Config.compileSettings config a.compileOverrides host = .error fault)
    (other : fault.isRefusal = false) : FaultsWith host a source config fault := by
  rcases (Config.compileSettings_eq_error_iff (distinct_compileOverrides a) other).1 failed with
    unusable | ⟨entries, v, given, known, held, met⟩
  · exact .unusable unusable
  · rcases Value.isObstacle_of_mem (List.mem_of_head? met) with rfl | ⟨rfl, -⟩
    · cases other
    · exact .depth given known held met

theorem settled_eq_error_iff (other : fault.isRefusal = false) :
    settled host a source config = .error fault ↔
      Config.compileSettings config a.compileOverrides host = .error fault ∨
      ∃ s, Config.compileSettings config a.compileOverrides host = .ok s ∧ ¬a.Styled ∧
        a.random = true ∧ RandomFails host config a.randomOverrides source fault := by
  refine bind_eq_error_iff.trans (or_congr_right (exists_congr fun s => and_congr_right fun _ => ?_))
  show (a.generated host s source config).map (s, ·) = .error fault ↔ _
  rw [map_eq_error_iff, Arguments.generated_eq_error_iff other]

theorem settled_eq_ok_iff {t : Option Text} :
    settled host a source config = .ok (s, t) ↔
      Config.compileSettings config a.compileOverrides host = .ok s ∧
      a.generated host s source config = .ok t := by
  constructor
  · intro given
    obtain ⟨settings, compiles, given⟩ := bind_eq_ok_iff.1 given
    obtain ⟨text, generated, same⟩ := bind_eq_ok_iff.1 given
    cases same
    exact ⟨compiles, generated⟩
  · rintro ⟨compiles, generated⟩
    rw [settled_eq s compiles, generated]
    rfl

theorem runWith_of_refused {error : SettingError}
    (failed : settled host a source config = .error (.setting error)) :
    (runWith host a source config).1 = .ok (.usage (.setting error)) := by
  simp only [runWith, failed]

theorem runWith_of_failed (failed : settled host a source config = .error fault)
    (other : fault.isRefusal = false) : (runWith host a source config).1 = .error fault := by
  cases fault with
  | setting => cases other
  | _ => simp only [runWith, failed]

theorem runWith_of_generated {t : Text} (given : settled host a source config = .ok (s, some t)) :
    (runWith host a source config).1 = .ok (.line t) := by
  simp only [runWith, given]

theorem runWith_of_compiles (given : Config.compileSettings config a.compileOverrides host = .ok s)
    (compiles : a.Compiles pattern) :
    (runWith host a source config).1 =
      (compiledText host s source pattern).map fun compiled => .line compiled.1 := by
  obtain ⟨c, pattern, rfl⟩ := List.exists_cons_of_ne_nil compiles.nonempty
  have nothing : settled host a source config = .ok (s, none) := settled_eq_ok_iff.2
    ⟨given, Arguments.generated_eq_none_iff.2 ⟨compiles.plain, compiles.ordered⟩⟩
  simp only [runWith, nothing, compiles.given]
  cases compiledText host s source (c :: pattern) <;> rfl

/-- A compiled pattern ends the run exactly if it has no text. -/
theorem runWith_eq_error_iff_of_compiles
    (given : Config.compileSettings config a.compileOverrides host = .ok s)
    (compiles : a.Compiles pattern) :
    (runWith host a source config).1 = .error fault ↔
      (source = none ∧ s.seed.isSeed = false ∧ fault = .wrongKind) ∨
      ∃ g, Twister.Begins host source s.seed g ∧ TooLong s pattern g ∧ fault = Value.overLimit := by
  rw [runWith_of_compiles given compiles, map_eq_error_iff,
    compiledText_eq_error_iff compiles.nonempty]

theorem runWith_of_patternless (given : settled host a source config = .ok (s, none))
    (absent : ∀ pattern, a.pattern = some pattern → pattern = []) :
    (runWith host a source config).1 = .ok (.usage .patternMissing) := by
  simp only [runWith, given]
  split
  case h_1 c pattern present => cases absent _ present
  case h_2 => rfl

/-- Where nothing is printed instead, there is no pattern, or one that is to be compiled. -/
theorem pattern_cases (given : settled host a source config = .ok (s, none)) :
    (∀ pattern, a.pattern = some pattern → pattern = []) ∨ ∃ pattern, a.Compiles pattern := by
  obtain ⟨plain, ordered⟩ := Arguments.generated_eq_none_iff.1 (settled_eq_ok_iff.1 given).2
  by_cases absent : ∀ pattern, a.pattern = some pattern → pattern = []
  · exact .inl absent
  · push Not at absent
    obtain ⟨pattern, present, nonempty⟩ := absent
    exact .inr ⟨pattern, plain, ordered, present, nonempty⟩

/-- **How a run with a configuration and a source is ended by a fault.** -/
theorem runWith_eq_error_iff :
    (runWith host a source config).1 = .error fault ↔ FaultsWith host a source config fault := by
  constructor
  · intro failed
    cases given : settled host a source config with
    | error cause =>
        cases cause with
        | setting error =>
            rw [runWith_of_refused given] at failed
            cases failed
        | _ =>
            rw [runWith_of_failed given rfl] at failed
            cases failed
            rcases (settled_eq_error_iff rfl).1 given with
              failed | ⟨s, settled, plain, asked, fails⟩
            · exact faultsWith_of_compileSettings failed rfl
            · exact .random settled plain asked fails
    | ok result =>
        obtain ⟨s, text⟩ := result
        cases text with
        | some t =>
            rw [runWith_of_generated given] at failed
            cases failed
        | none =>
            have settles := (settled_eq_ok_iff.1 given).1
            obtain absent | ⟨pattern, compiles⟩ := pattern_cases given
            · rw [runWith_of_patternless given absent] at failed
              cases failed
            · rcases (runWith_eq_error_iff_of_compiles settles compiles).1 failed with
                ⟨sourceless, seedless, rfl⟩ | ⟨g, begins, long, rfl⟩
              · exact .seed settles compiles sourceless seedless
              · exact .note settles compiles begins long
  · intro faults
    cases faults with
    | unusable given =>
        have other := given.isRefusal_eq
        exact runWith_of_failed ((settled_eq_error_iff other).2 (.inl given.settings_eq)) other
    | depth given known held deep =>
        have failed := (Config.compileSettings_eq_error_iff (distinct_compileOverrides a) rfl).2
          (.inr ⟨_, _, given, known, held, deep⟩)
        exact runWith_of_failed ((settled_eq_error_iff rfl).2 (.inl failed)) rfl
    | random settled plain asked fails =>
        have other := fails.isRefusal_eq
        exact runWith_of_failed
          ((settled_eq_error_iff other).2 (.inr ⟨_, settled, plain, asked, fails⟩)) other
    | seed settles compiles sourceless seedless =>
        exact (runWith_eq_error_iff_of_compiles settles compiles).2
          (.inl ⟨sourceless, seedless, rfl⟩)
    | note settles compiles begins long =>
        exact (runWith_eq_error_iff_of_compiles settles compiles).2
          (.inr ⟨_, begins, long, rfl⟩)

/-- A run with a configuration and a source prints one line, or ends in a usage error, if no fault
ends it. -/
theorem runWith_ends {p : Printed} (ended : (runWith host a source config).1 = .ok p) :
    p.IsLine ∨ p.IsUsage := by
  cases given : settled host a source config with
  | error cause =>
      cases cause with
      | setting error =>
          rw [runWith_of_refused given] at ended
          cases ended
          exact .inr (Printed.isUsage_usage _)
      | _ =>
          rw [runWith_of_failed given rfl] at ended
          cases ended
  | ok result =>
      obtain ⟨s, text⟩ := result
      cases text with
      | some t =>
          rw [runWith_of_generated given] at ended
          cases ended
          exact .inl ⟨t, Arguments.oneLine_of_generated (settled_eq_ok_iff.1 given).2, rfl⟩
      | none =>
          obtain absent | ⟨pattern, compiles⟩ := pattern_cases given
          · rw [runWith_of_patternless given absent] at ended
            cases ended
            exact .inr (Printed.isUsage_usage _)
          · rw [runWith_of_compiles (settled_eq_ok_iff.1 given).1 compiles, map_eq_ok_iff] at ended
            obtain ⟨⟨t, log⟩, compiled, rfl⟩ := ended
            exact .inl ⟨t, oneLine_of_compiledText compiles.nonempty compiled, rfl⟩

/-! ## The command line -/

/-- How a run of arguments is ended by a fault: while the configuration is loaded, by a seed option
that is given an empty list, or with a configuration and a source. -/
inductive Faults (around : Surroundings) (files : Files) (a : Arguments) : Fault → Prop
  | config {fault : Fault} (loads : Loads around files a (.error fault)) : Faults around files a fault
  | seed {config : Entries} (loads : Loads around files a (.ok config))
      (empty : a.seed = .list []) : Faults around files a .wrongKind
  | run {config : Entries} {source : Option Twister} {fault : Fault}
      (loads : Loads around files a (.ok config)) (begins : a.source around.toHost = .ok source)
      (faults : FaultsWith around.toHost a source config fault) : Faults around files a fault

theorem source_eq_error_iff {release : Release} (typed : a.Typed release) :
    a.source host = .error fault ↔ a.seed = .list [] ∧ fault = .wrongKind := by
  rw [← typed.isSeed_eq_false_iff, Arguments.source]
  split
  case h_1 absent => simp [absent, Value.isSeed]
  case h_2 => rw [map_eq_error_iff, Twister.ofSeedValue_eq_error_iff]

section Arguments

variable {around : Surroundings} {files : Files}

theorem runArguments_of_unloaded (loads : Loads around files a (.error fault)) :
    (runArguments around files a).1 = .error fault := by
  rw [← config_eq_iff] at loads
  rw [runArguments]
  rcases loaded : CommandLine.config around files a with ⟨result, log⟩
  rw [loaded] at loads
  cases loads
  rfl

theorem runArguments_of_loads (loads : Loads around files a (.ok config)) :
    (runArguments around files a).1 =
      (a.source around.toHost).bind fun source => (runWith around.toHost a source config).1 := by
  rw [← config_eq_iff] at loads
  rw [runArguments]
  rcases loaded : CommandLine.config around files a with ⟨result, log⟩
  rw [loaded] at loads
  cases loads
  cases a.source around.toHost <;> rfl

/-- **How a run of arguments is ended by a fault.** -/
theorem runArguments_eq_error_iff (typed : a.Typed around.release) :
    (runArguments around files a).1 = .error fault ↔ Faults around files a fault := by
  constructor
  · intro failed
    cases loaded : (CommandLine.config around files a).1 with
    | error cause =>
        have loads := config_eq_iff.1 loaded
        rw [runArguments_of_unloaded loads] at failed
        cases failed
        exact .config loads
    | ok config =>
        have loads := config_eq_iff.1 loaded
        rw [runArguments_of_loads loads] at failed
        rcases bind_eq_error_iff.1 failed with unseeded | ⟨source, begins, failed⟩
        · obtain ⟨empty, rfl⟩ := (source_eq_error_iff typed).1 unseeded
          exact .seed loads empty
        · exact .run loads begins (runWith_eq_error_iff.1 failed)
  · intro faults
    cases faults with
    | config loads => exact runArguments_of_unloaded loads
    | seed loads empty =>
        rw [runArguments_of_loads loads]
        exact bind_eq_error_iff.2 (.inl ((source_eq_error_iff typed).2 ⟨empty, rfl⟩))
    | run loads begins faults =>
        rw [runArguments_of_loads loads]
        exact bind_eq_error_iff.2 (.inr ⟨_, begins, runWith_eq_error_iff.2 faults⟩)

theorem runArguments_ends {p : Printed} (ended : (runArguments around files a).1 = .ok p) :
    p.IsLine ∨ p.IsUsage := by
  cases loaded : (CommandLine.config around files a).1 with
  | error cause =>
      rw [runArguments_of_unloaded (config_eq_iff.1 loaded)] at ended
      cases ended
  | ok config =>
      rw [runArguments_of_loads (config_eq_iff.1 loaded)] at ended
      obtain ⟨source, -, ended⟩ := bind_eq_ok_iff.1 ended
      exact runWith_ends ended

end Arguments

/-- **How a command line ends.**  A fault ends a run exactly where its words are read and `Faults`
says so of what they ask for.  All other runs print one line, or end in a usage error, or print the
help that is asked for. -/
theorem run_ends (files : Files) (words : List Text) (around : Surroundings) :
    (∀ fault, (run files words around).1 = .error fault ↔
      ∃ a, Arguments.read words around.release = .ok a ∧ Faults around files a fault) ∧
    ∀ p, (run files words around).1 = .ok p →
      p.IsLine ∨ p.IsUsage ∨
        (Arguments.read words around.release = .error .help ∧ p = { code := 0, output := helpText }) := by
  unfold run
  cases asked : Arguments.read words around.release with
  | error stop =>
      refine ⟨fun fault => ?_, fun p ended => ?_⟩
      · cases stop <;> simp
      · cases stop with
        | help =>
            cases ended
            exact .inr (.inr ⟨rfl, rfl⟩)
        | usage error =>
            cases ended
            exact .inr (.inl (Printed.isUsage_usage error))
  | ok a =>
      refine ⟨fun fault => ?_, fun p ended => ?_⟩
      · simp [runArguments_eq_error_iff (Arguments.typed_of_read asked)]
      · rcases runArguments_ends ended with line | usage
        · exact .inl line
        · exact .inr (.inl usage)

/-- A file that holds a number ends the run, and not in a usage error. -/
theorem run_not_total :
    ¬∀ (files : Files) (words : List Text), Arguments.read words ≠ .error .help →
      ∃ p, (run files words).1 = .ok p ∧ (p.IsLine ∨ p.IsUsage) := by
  intro total
  have asked : Arguments.read ["--config".toList, "config.yaml".toList, ['1']] =
      .ok { pattern := some ['1'], config := .text "config.yaml".toList } := rfl
  have failed : (run (fun _ => .file ['5'])
      ["--config".toList, "config.yaml".toList, ['1']]).1 =
        .error (.setting (.configNotMapping "config.yaml".toList)) := rfl
  obtain ⟨p, ended, -⟩ := total (fun _ => .file ['5'])
    ["--config".toList, "config.yaml".toList, ['1']] (by rw [asked]; nofun)
  rw [failed] at ended
  cases ended

end CommandLine

end StepPattern
