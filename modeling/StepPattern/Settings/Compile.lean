/-
# StepPattern.Settings.Compile -- the settings of a compilation

The depth limit is the number of nested bracket levels that are expanded.  The
rest symbol is the literal that stands for a rest; it must be one word that the
scan cannot break, so it has no whitespace, no bracket and no `*`.  The other
settings are kept as they are given: the two switches count by their truth, and
the seed is only looked at when a source is needed.
-/
import StepPattern.Settings.Schema
import StepPattern.Text.Blank

namespace StepPattern

set_option autoImplicit false

def maxDepthLimit : Nat := 256

def defaultRestSymbol : Text := ['-']

/-- Whether a character may not be part of a rest symbol. -/
def isForbiddenInRest (c : Char) : Bool :=
  Text.isBlank c || c = '[' || c = ']' || c = '*'

/-- Whether a text may stand for a rest. -/
def isRestSymbol (t : Text) : Bool :=
  !t.isEmpty && !t.any isForbiddenInRest

/-- Settings of a compilation. -/
structure CompileSettings where
  depthLimit : Nat := 10
  restSymbol : Text := defaultRestSymbol
  normalize : Value := .bool false
  verbose : Value := .bool false
  seed : Value := .none
  depthLimit_le : depthLimit ≤ maxDepthLimit := by decide
  restSymbol_ok : isRestSymbol restSymbol = true := by decide

namespace CompileSettings

def default : CompileSettings := {}

/-- Whether diagnostics are logged as warnings. -/
def loud (s : CompileSettings) : Bool :=
  s.verbose.truthy

def readDepth (host : Host) (v : Value) : Except Fault { n : Nat // n ≤ maxDepthLimit } :=
  match v with
  | .int n =>
      if within : 0 ≤ n ∧ n ≤ maxDepthLimit then .ok ⟨n.toNat, by omega⟩
      else .error (.setting (.depthOutOfRange maxDepthLimit))
  | _ => do throw (.setting (.depthNotInteger (← v.shown host.room)))

def readRestSymbol (v : Value) : Except Fault { t : Text // isRestSymbol t = true } :=
  match v with
  | .text t =>
      if t.isEmpty then .error (.setting .restSymbolEmpty)
      else if allowed : isRestSymbol t = true then .ok ⟨t, allowed⟩
      else .error (.setting (.restSymbolForbidden t))
  | _ => .error (.setting .restSymbolEmpty)

def build (host : Host) (value : String → Value) : Except Fault CompileSettings := do
  let depth ← readDepth host (value "max_recursion_depth")
  let symbol ← readRestSymbol (value "rest_symbol")
  return {
    depthLimit := depth.1
    restSymbol := symbol.1
    normalize := value "normalize"
    verbose := value "verbose"
    seed := value "seed"
    depthLimit_le := depth.2
    restSymbol_ok := symbol.2 }

def fields (s : CompileSettings) : Fields :=
  [("max_recursion_depth".toList, .int s.depthLimit), ("rest_symbol".toList, .text s.restSymbol),
    ("normalize".toList, s.normalize), ("verbose".toList, s.verbose), ("seed".toList, s.seed)]

def schema (host : Host := .default) : Schema CompileSettings where
  owner := "CompileOptions"
  defaults := fields default
  build := build host

end CompileSettings

end StepPattern
