/-
# StepPattern.Compilation -- patterns compiled into sequences

A compilation parses the pattern, evaluates the tree and, if the settings ask for
it, normalizes the sequence.  Nothing in the text makes it fail: what cannot be
used is logged and left out.

The settings may come as such, as a mapping or not at all, and the pattern may be
any value.  Unusable settings, and a pattern that is no text or an empty one, give
an empty sequence and a diagnostic.  Only settings that are refused or of a wrong
kind are unusable; another fault of theirs ends the compilation.
-/
import StepPattern.Evaluation
import StepPattern.Normal
import StepPattern.Settings.Compile
import StepPattern.Settings.Given
import StepPattern.Tree

namespace StepPattern

set_option autoImplicit false

namespace CompileSettings

def setting (s : CompileSettings) (r : Registry) : Setting :=
  { registry := r, loud := s.loud, restSymbol := s.restSymbol }

/-- The sequence of an evaluation, normalized if the settings ask for it. -/
def finish (s : CompileSettings) (sequence : Sequence) : Except Fault Sequence :=
  if s.normalize.truthy then
    (StepPattern.normalize s.restSymbol sequence).map (·.map Step.toValue)
  else .ok sequence

end CompileSettings

def failedCompilation (pattern : Text) (fault : Fault) : LogEntry :=
  .failure fault
    ("Compiling " ++ Text.quoted (pattern.take 40) ++ " failed, returning an empty sequence")

/-- A pattern text compiled with a source. -/
def compileText (r : Registry) (s : CompileSettings) (pattern : Text) (source : Twister) :
    Outcome :=
  let parsed := Tree.parse s pattern 0
  let evaluated := Tree.evaluate (s.setting r) parsed.tokens source
  let log := parsed.log ++ evaluated.log
  match evaluated.result.bind s.finish with
  | .ok sequence => ⟨sequence, log, evaluated.source⟩
  | .error fault => ⟨[], log ++ [failedCompilation pattern fault], evaluated.source⟩

/-! ## Loose requests -/

/-- The settings of a compilation that are handed over; none at all means the defaults. -/
def Given.compileSettings (given : Given CompileSettings) (host : Host := .default) :
    Except Fault CompileSettings :=
  match given with
  | .checked s => .ok s
  | .loose .none => .ok .default
  | .loose (.dict entries) => (CompileSettings.schema host).ofValue (.dict entries) host
  | .loose _ => .error .wrongKind

/-- Whether settings with a fault are unusable. -/
def Fault.isUnusable : Fault → Bool
  | .setting _ | .wrongKind => true
  | _ => false

def unusableReason (host : Host) (v : Value) : Fault → String
  | .setting error => error.message
  | _ =>
      match v with
      | .dict entries => (CompileSettings.schema.trouble host (entries.map (·.1))).reason
      | v => "Options must be CompileOptions or a mapping, got " ++ v.kindName

/-- Whether a loose mapping asks for warnings: only `true` itself counts. -/
def asksForWarnings : Value → Bool
  | .dict entries =>
      match Entries.get? entries (.text "verbose".toList) with
      | some (.bool true) => true
      | _ => false
  | _ => false

/-- A sequence, its log, and the source handed over as it is left. -/
structure Compiled where
  sequence : Sequence
  log : Log
  source : Option Twister

/-- A compilation that gives nothing but a diagnostic. -/
def Compiled.refused (loud : Bool) (error : PatternError) (source : Option Twister) : Compiled :=
  { sequence := [], log := [.diagnostic loud error], source }

def compileChecked (r : Registry) (s : CompileSettings) (pattern : Value)
    (source : Option Twister) (host : Host := .default) : Except Fault Compiled :=
  match pattern with
  | .text (c :: rest) => do
      let start ← match source with
        | some g => pure g
        | none => Twister.ofSeedValue s.seed host
      let outcome := compileText r s (c :: rest) start
      return ⟨outcome.sequence, outcome.log, source.map fun _ => outcome.source⟩
  | v => do return .refused s.loud (.patternUnusable (← v.shown host.room)) source

/-- A pattern compiled.  Without a source the seed of the settings gives one. -/
def compile (r : Registry) (given : Given CompileSettings) (pattern : Value)
    (source : Option Twister) (host : Host := .default) : Except Fault Compiled :=
  match given.compileSettings host with
  | .ok s => compileChecked r s pattern source host
  | .error fault =>
      let v := match given with
        | .loose v => v
        | .checked _ => .none
      if fault.isUnusable then
        .ok (.refused (asksForWarnings v) (.optionsUnusable (unusableReason host v fault)) source)
      else .error fault

end StepPattern
