/-
# StepPattern.CommandLine.Run -- what a command line prints

A command line compiles a pattern and prints its steps, or prints a random
sequence or a generated pattern text.  Settings come from a configuration file
and from the options, which win.  A setting that is refused ends in a usage error
like a wrong option does.

Files are looked up by a function, so that a run is a function of what it is
given.  What a file holds is for a reader of documents to say.
-/
import StepPattern.CommandLine.Arguments
import StepPattern.Compilation
import StepPattern.Composer
import StepPattern.Config.Document
import StepPattern.Settings.Config

namespace StepPattern

set_option autoImplicit false

/-- What is found at a path. -/
inductive Found where
  | nothing
  | directory
  | file (content : Text)

/-- What is found, by path. -/
abbrev Files := Text → Found

/-- The end of a run: the exit code, the standard output, and the error message without the name of
the program in front of it. -/
structure Printed where
  code : Nat
  output : Text := []
  error : Text := []
  deriving DecidableEq, Repr

namespace Config

/-- The configuration in a file, and the log of reading it.  A missing file gives an empty one. -/
def load (files : Files) (path : Text) (read : Text → Except Fault Value := Document.read) :
    Except Fault Entries × Log :=
  match files path with
  | .nothing =>
      (.ok [], [.notice ("Config file " ++ path.string ++ " not found. Using defaults.")])
  | .directory => (.error .directory, [])
  | .file content =>
      match read content with
      | .error fault => (.error fault, [])
      | .ok .none => (.ok [], [])
      | .ok (.dict entries) => (.ok entries, [])
      | .ok _ => (.error (.setting (.configNotMapping path)), [])

def compileSettings (config : Entries) (overrides : Fields) (host : Host := .default) :
    Except Fault CompileSettings :=
  settings (CompileSettings.schema host) "compile".toList config overrides host

def randomSettings (config : Entries) (overrides : Fields) (host : Host := .default) :
    Except Fault RandomSettings :=
  settings RandomSettings.schema "random".toList config overrides host

end Config

namespace Arguments

section Host

variable (host : Host)

def source (a : Arguments) : Except Fault (Option Twister) :=
  match a.seed with
  | .none => .ok none
  | seed => (Twister.ofSeedValue seed host).map some

def compileOverrides (a : Arguments) : Fields :=
  [("max_recursion_depth".toList, a.maxDepth), ("rest_symbol".toList, a.restSymbol),
    ("normalize".toList, a.normalize), ("verbose".toList, a.verbose), ("seed".toList, a.seed)]

def randomOverrides (a : Arguments) : Fields :=
  [("length".toList, a.length), ("seed".toList, a.seed)]

def composed (s : CompileSettings) (source : Option Twister) (style : Text) : Except Fault Text :=
  ({ restSymbol := s.restSymbol : Composer }.byName (.text style)
    (source.getD host.fresh)).1

def randomText (a : Arguments) (s : CompileSettings) (source : Option Twister)
    (config : Entries) : Except Fault Text := do
  let settings ← Config.randomSettings config a.randomOverrides host
  let steps ← (randomSteps (.checked settings) source host).1
  writeSteps s.restSymbol steps

/-- What is printed instead of a compiled pattern, if a style or a random sequence is asked for. -/
def generated (a : Arguments) (s : CompileSettings) (source : Option Twister)
    (config : Entries) : Except Fault (Option Text) :=
  match a.style with
  | .text (c :: style) => (composed host s source (c :: style)).map some
  | _ => if a.random then (randomText host a s source config).map some else .ok none

end Host

end Arguments

namespace Printed

def line (t : Text) : Printed :=
  { code := 0, output := t ++ ['\n'] }

def usage (error : UsageError) : Printed :=
  { code := 2, error := error.message.toList }

end Printed

/-- What a run of a command line depends on besides its words and the files. -/
structure Surroundings extends Host where
  /-- The value that a file holds. -/
  read : Text → Except Fault Value := Document.read
  release : Release := .earlier

def Surroundings.default : Surroundings := { toHost := .default }

namespace CommandLine

def helpText : Text :=
  String.toList
    ("Compiles a step pattern into a flat sequence.\n\noptions:\n"
      ++ String.join (Flag.all.map fun flag =>
        "  " ++ flag.label ++ (if flag.takesValue then " VALUE" else "") ++ "\n"))

section Host

variable (host : Host)

/-- The steps of a pattern as text, with the log of compiling it. -/
def compiledText (s : CompileSettings) (source : Option Twister) (pattern : Text) :
    Except Fault (Text × Log) := do
  let compiled ← compileChecked Registry.builtin s (.text pattern) source host
  return (← stringify s.restSymbol compiled.sequence, compiled.log)

/-- The settings of a compilation, and what is printed instead of one. -/
def settled (a : Arguments) (source : Option Twister) (config : Entries) :
    Except Fault (CompileSettings × Option Text) := do
  let s ← Config.compileSettings config a.compileOverrides host
  return (s, ← a.generated host s source config)

/-- A run with a source and a configuration, and the log of it.  Settings that are refused, by the
configuration or while a text is generated, are usage errors; other faults end the run. -/
def runWith (a : Arguments) (source : Option Twister) (config : Entries) :
    Except Fault Printed × Log :=
  match settled host a source config with
  | .error (.setting error) => (.ok (.usage (.setting error)), [])
  | .error fault => (.error fault, [])
  | .ok (_, some t) => (.ok (.line t), [])
  | .ok (s, none) =>
      match a.pattern with
      | some (c :: pattern) =>
          match compiledText host s source (c :: pattern) with
          | .ok (t, log) => (.ok (.line t), log)
          | .error fault => (.error fault, [])
      | _ => (.ok (.usage .patternMissing), [])

end Host

def configPath? (a : Arguments) : Option Text :=
  match a.config with
  | .text (c :: path) => some (c :: path)
  | _ => none

/-- The configuration that arguments name, and the log of reading it. -/
def config (around : Surroundings) (files : Files) (a : Arguments) : Except Fault Entries × Log :=
  match configPath? a with
  | some path => Config.load files path around.read
  | none => (.ok [], [])

/-- A run of arguments, and the log of it. -/
def runArguments (around : Surroundings) (files : Files) (a : Arguments) :
    Except Fault Printed × Log :=
  match config around files a, a.source around.toHost with
  | (.error fault, log), _ | (.ok _, log), .error fault => (.error fault, log)
  | (.ok entries, log), .ok source =>
      let (printed, more) := runWith around.toHost a source entries
      (printed, log ++ more)

/-- A run of a command line, and the log of it. -/
def run (files : Files) (words : List Text) (around : Surroundings := .default) :
    Except Fault Printed × Log :=
  match Arguments.read words around.release with
  | .error .help => (.ok { code := 0, output := helpText }, [])
  | .error (.usage error) => (.ok (.usage error), [])
  | .ok a => runArguments around files a

end CommandLine

end StepPattern
