/-
# StepPattern.Token -- tokens, and the rules that tell raw tokens apart

A token is a literal, a repeated literal, or a bracket with what is parsed from
its inside.  The first rule that fits a raw token wins: a bracket, with a
transform name directly before it or a count behind it; a repeated value; the
rest symbol; an integer.  Counts are positive and at most `maxCount`.
-/
import StepPattern.Call

namespace StepPattern

set_option autoImplicit false

/-- A token of a pattern; the rest symbol or an integer is kept as it is written. -/
inductive Token where
  /-- A rest or an integer. -/
  | literal (text : Text)
  /-- A rest or an integer, repeated. -/
  | repeated (value : Text) (count : Nat)
  /-- A bracket: the transform called on it, the text inside, its tokens, and its count. -/
  | bracket (call : Option Call) (inner : Text) (children : List Token) (count : Option Nat)
  deriving Repr

def maxCount : Nat := 4096

namespace Token

def formName : Token → String
  | literal _ => "Literal"
  | repeated _ _ => "DirectRepeat"
  | bracket (some _) _ _ _ => "TransformCall"
  | bracket none _ _ (some _) => "GroupRepeat"
  | bracket none _ _ none => "Group"

def count : Token → Nat
  | literal _ => 1
  | repeated _ count => count
  | bracket _ _ _ count => count.getD 1

/-! ## Parts of a raw token -/

/-- The text up to the bracket that closes `inner + 1` open ones, and the text after it. -/
def splitClosing : Text → Nat → Text → Option (Text × Text)
  | _, _, [] => none
  | before, inner, '[' :: rest => splitClosing ('[' :: before) (inner + 1) rest
  | before, 0, ']' :: rest => some (before.reverse, rest)
  | before, inner + 1, ']' :: rest => splitClosing (']' :: before) inner rest
  | before, inner, c :: rest => splitClosing (c :: before) inner rest

/-- The text before the first bracket, inside it, and after the bracket that closes it. -/
def splitBrackets (raw : Text) : Except PatternError (Text × Text × Text) :=
  match raw.dropWhile (· ≠ '[') with
  | [] => .error (.unmatchedBracket raw)
  | _ :: opened =>
      match splitClosing [] 0 opened with
      | some (inner, after) => .ok (raw.takeWhile (· ≠ '['), inner, after)
      | none => .error (.unclosedBracket raw)

/-- Whether a text is a numeral, one final line break apart. -/
def isInteger (t : Text) : Bool :=
  Text.isNumeral (Text.dropFinalNewline t)

def integer? (t : Text) : Option Int :=
  Text.numeralValue? (Text.dropFinalNewline t)

/-- The count that a text writes, in the raw token `raw`. -/
def readCount (t raw : Text) : Except PatternError Nat :=
  if t.isEmpty then .error (.countMissing raw)
  else if !isInteger t then .error (.countMalformed t raw)
  else match integer? t with
    | none => .error (.integerTooLong raw)
    | some n =>
        if n ≤ 0 then .error (.countNotPositive raw)
        else if n > maxCount then .error (.countTooLarge maxCount raw)
        else .ok n.toNat

/-- The count in what follows a closing bracket. -/
def readTail (tail raw : Text) : Except PatternError (Option Nat) :=
  match tail with
  | [] => .ok none
  | '*' :: count => (readCount count raw).map some
  | _ => .error (.unexpectedTail tail raw)

def readName (name raw : Text) : Except PatternError (Option Call) :=
  if name.isEmpty then .ok none
  else if !Text.isIdentifier (Text.dropFinalNewline name) then .error (.nameMalformed name raw)
  else (Call.ofText name).map some

/-! ## Classification -/

def classifyBracket (raw : Text) : Except PatternError Token := do
  let (name, inner, tail) ← splitBrackets raw
  let count ← readTail tail raw
  let call ← readName name raw
  return bracket call inner [] count

def classifyRepeat (restSymbol raw : Text) : Except PatternError Token := do
  let value := raw.takeWhile (· ≠ '*')
  if value.isEmpty then throw (.valueMissing raw)
  let count ← readCount (raw.drop (value.length + 1)) raw
  if value ≠ restSymbol then
    if !isInteger value then throw (.valueMalformed value)
    if (integer? value).isNone then throw (.integerTooLong raw)
  return repeated value count

def classifyLiteral (restSymbol raw : Text) : Except PatternError Token :=
  if raw = restSymbol then .ok (literal raw)
  else if !isInteger raw then .error (.tokenUnknown raw)
  else if (integer? raw).isNone then .error (.integerTooLong raw)
  else .ok (literal raw)

/-- The token that a raw token writes; a bracket comes without children. -/
def classify (restSymbol raw : Text) : Except PatternError Token :=
  if '[' ∈ raw ∨ ']' ∈ raw then classifyBracket raw
  else if '*' ∈ raw then classifyRepeat restSymbol raw
  else classifyLiteral restSymbol raw

end Token

end StepPattern
