/-
# StepPattern.Text.Numeral -- integers written in decimal digits

A numeral is an optional sign and one or more decimal digits of any script.  A
numeral may have at most `maxDigits` digits, leading zeros counted and the sign
not: a longer one has no value, and an integer that needs more digits has no
numeral.

* `isNumeral` is the shape alone, without the limit;
* `numeralValue?` is the value of a numeral within the limit;
* `numeral?` writes an integer within the limit, in ASCII digits;
* `splitDecimal` tells the digits before and after a point apart;
* `readInteger?` is the looser reading of a command line, where blanks may stand
  around the numeral and single underscores between its digits.
-/
import StepPattern.Text.Blank
import StepPattern.Text.Digit

namespace StepPattern.Text

set_option autoImplicit false

def maxDigits : Nat := 4300

/-- A text split into its sign (`true` for minus) and what follows. -/
def splitSign : Text → Bool × Text
  | '-' :: rest => (true, rest)
  | '+' :: rest => (false, rest)
  | t => (false, t)

def isDigits (t : Text) : Bool :=
  !t.isEmpty && t.all isDecimal

/-- Whether a text is an optional sign and one or more decimal digits. -/
def isNumeral (t : Text) : Bool :=
  isDigits (splitSign t).2

def digitsValue (digits : Text) : Nat :=
  digits.foldl (fun n c => 10 * n + (digitValue? c).getD 0) 0

def signed (negative : Bool) (n : Nat) : Int :=
  if negative then -(n : Int) else n

/-- The value of digits within the digit limit. -/
def digitsValue? (digits : Text) : Option Nat :=
  if isDigits digits ∧ digits.length ≤ maxDigits then some (digitsValue digits) else none

def numeralValue? (t : Text) : Option Int :=
  (digitsValue? (splitSign t).2).map (signed (splitSign t).1)

/-- The digits of a decimal without sign: before the point, after it, and the exponent. -/
def splitDecimal (t : Text) : Option (Text × Text × Int) :=
  let whole := t.takeWhile isDecimal
  let rest := t.dropWhile isDecimal
  let (fraction, rest) := match rest with
    | '.' :: after => (after.takeWhile isDecimal, after.dropWhile isDecimal)
    | after => ([], after)
  let exponent? := match rest with
    | [] => some 0
    | 'e' :: after | 'E' :: after => numeralValue? after
    | _ => none
  if whole.isEmpty && fraction.isEmpty then none
  else exponent?.map fun exponent => (whole, fraction, exponent)

/-- Whether underscores stand only between two other characters. -/
def underscoresInside : Text → Bool
  | [] => true
  | ['_'] => false
  | '_' :: '_' :: _ => false
  | _ :: rest => underscoresInside rest

/-- Whether a character may stand around an integer: whitespace without the information separators. -/
def isMargin (c : Char) : Bool :=
  isBlank c && !(0x1C ≤ c.toNat && c.toNat ≤ 0x1F)

/-- The value of a numeral with blanks around it and single underscores between its digits. -/
def readInteger? (t : Text) : Option Int :=
  let (negative, digits) := splitSign (stripBy isMargin t)
  if digits.head? = some '_' ∨ !underscoresInside digits then none
  else (digitsValue? (digits.filter (· ≠ '_'))).map (signed negative)

/-- An integer in ASCII digits, with a minus sign if it is negative. -/
def numeral : Int → Text
  | .ofNat n => Nat.toDigits 10 n
  | .negSucc n => '-' :: Nat.toDigits 10 (n + 1)

/-- The least number that needs more than `maxDigits` digits. -/
def numeralBound : Nat := Nat.pow 10 maxDigits

/-- The numeral of an integer, if the digit limit allows one. -/
def numeral? (n : Int) : Option Text :=
  if n.natAbs < numeralBound then some (numeral n) else none

theorem isNumeral_of_numeralValue? {t : Text} {n : Int} (value : numeralValue? t = some n) :
    isNumeral t = true := by
  unfold numeralValue? digitsValue? at value
  split at value
  · rename_i within; exact within.1
  · simp at value

end StepPattern.Text
