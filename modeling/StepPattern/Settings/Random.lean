/-
# StepPattern.Settings.Random -- the settings of a random sequence

All values are kept as they are given.  The length must be a number and not
negative, the lowest note may not lie above the highest, and each of the three
probabilities must be a number from 0 to 1.
-/
import StepPattern.Settings.Schema

namespace StepPattern

set_option autoImplicit false

/-- Settings of a random sequence. -/
structure RandomSettings where
  length : Value := .int 16
  low : Value := .int 1
  high : Value := .int 99
  rest : Value
  group : Value
  repetition : Value
  seed : Value := .none

namespace RandomSettings

/-- A number of tenths as a double. -/
def tenths (n : Nat) : Value :=
  .double (Double.round ((n : Rat) / 10))

def default : RandomSettings :=
  { rest := tenths 3, group := tenths 2, repetition := tenths 4 }

def fields (s : RandomSettings) : Fields :=
  [("length".toList, s.length), ("min_value".toList, s.low), ("max_value".toList, s.high),
    ("rest_probability".toList, s.rest), ("group_probability".toList, s.group),
    ("repetition_probability".toList, s.repetition), ("seed".toList, s.seed)]

def checkLength (length : Value) : Except Fault Unit := do
  if ← (← length.number).lt (.int 0) then throw (.setting (.lengthNegative (← length.plain)))

def checkBounds (low high : Value) : Except Fault Unit := do
  if ← high.before low then throw (.setting (.boundsCrossed (← low.plain) (← high.plain)))

def isProbability (n : Number) : Except Fault Bool := do
  if ← (Number.int 0).le n then n.le (.int 1) else return false

def checkProbability (field : String) (v : Value) : Except Fault Unit := do
  unless ← isProbability (← v.number) do
    throw (.setting (.probabilityOutOfRange field (← v.plain)))

def build (value : String → Value) : Except Fault RandomSettings := do
  checkLength (value "length")
  checkBounds (value "min_value") (value "max_value")
  checkProbability "rest_probability" (value "rest_probability")
  checkProbability "group_probability" (value "group_probability")
  checkProbability "repetition_probability" (value "repetition_probability")
  return {
    length := value "length"
    low := value "min_value"
    high := value "max_value"
    rest := value "rest_probability"
    group := value "group_probability"
    repetition := value "repetition_probability"
    seed := value "seed" }

def schema : Schema RandomSettings where
  owner := "RandomSequenceOptions"
  defaults := fields default
  build := build

end RandomSettings

end StepPattern
