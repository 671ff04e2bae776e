/-
# StepPattern.Call -- transform names with a fused parameter

A transform is called by a word of ASCII letters, directly followed by decimal
digits if it takes a parameter: `scale2` is the name `scale` with the parameter 2.
One final line break is overlooked.
-/
import StepPattern.Text.Numeral
import StepPattern.Value

namespace StepPattern

set_option autoImplicit false

/-- A transform name and the parameter fused to it. -/
structure Call where
  name : Text
  param : Option Nat
  deriving DecidableEq, Repr

/-- Whether a text is letters followed by any number of decimal digits. -/
def Text.isIdentifier (t : Text) : Bool :=
  !(t.takeWhile Char.isAlpha).isEmpty && (t.dropWhile Char.isAlpha).all Text.isDecimal

namespace Call

def fused (c : Call) : Value :=
  match c.param with
  | some n => .int n
  | none => .none

def ofText (t : Text) : Except PatternError Call :=
  let word := Text.dropFinalNewline t
  let name := word.takeWhile Char.isAlpha
  let digits := word.dropWhile Char.isAlpha
  if !Text.isIdentifier word then .error (.nameInvalid t)
  else if digits.isEmpty then .ok ⟨name, none⟩
  else match Text.digitsValue? digits with
    | some n => .ok ⟨name, some n⟩
    | none => .error (.parameterTooLong name)

/-- The call that a loose value writes: only a text can. -/
def ofValue : Value → Except PatternError Call
  | .text t => ofText t
  | v => .error (.nameNotText v.kindName)

end Call

end StepPattern
