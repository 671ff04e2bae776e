/-
# StepPattern.Number.Decimal -- decimal numbers

A decimal keeps the digits it is written with: a sign, a coefficient and a power
of ten.  Besides there are the two infinities, and numbers that are none, of which
the signaling ones may not take part in any operation.

A sum or product is the exact one rounded to `precision` digits, a half going to
the even neighbour; one that would lie beyond the largest exponent is refused.
-/
import StepPattern.Error
import StepPattern.Number.Double
import StepPattern.Number.Point

namespace StepPattern

set_option autoImplicit false

/-- A decimal number. -/
inductive Decimal where
  | finite (negative : Bool) (coefficient : Nat) (exponent : Int)
  | infinite (negative : Bool)
  | nan (negative signaling : Bool) (payload : Nat)
  deriving DecidableEq, Repr

namespace Decimal

/-- The number of digits of a sum or product. -/
def precision : Nat := 28

/-- The largest exponent of the first digit of a sum or product. -/
def maxExponent : Int := 999999

/-- The least exponent of the last digit of a sum or product. -/
def minExponent : Int := -1000026

def ofInt (n : Int) : Decimal :=
  finite (n < 0) n.natAbs 0

def isZero : Decimal → Bool
  | finite _ coefficient _ => coefficient = 0
  | _ => false

def isSignaling : Decimal → Bool
  | nan _ signaling _ => signaling
  | _ => false

def point? : Decimal → Option Point
  | finite negative coefficient exponent => some (.real (Text.signed negative coefficient) 1 exponent)
  | infinite negative => some (if negative then .bottom else .top)
  | nan _ _ _ => none

def toRat? : Decimal → Option Rat
  | finite negative coefficient exponent =>
      some ((Text.signed negative coefficient : Rat) * (10 : Rat) ^ exponent)
  | _ => none

/-! ## Text -/

/-- The digits of a coefficient with a point before the last `places` of them. -/
def placePoint (digits : Text) (places : Nat) : Text :=
  if places = 0 then digits
  else if digits.length ≤ places then
    ['0', '.'] ++ List.replicate (places - digits.length) '0' ++ digits
  else digits.take (digits.length - places) ++ '.' :: digits.drop (digits.length - places)

/-- The digits of a coefficient with a point after the first one, and the exponent of that one. -/
def placeExponent (digits : Text) (exponent : Int) : Text :=
  digits.take 1 ++ (if digits.length ≤ 1 then [] else '.' :: digits.drop 1)
    ++ ['E', if exponent < 0 then '-' else '+'] ++ Nat.toDigits 10 exponent.natAbs

/-- A coefficient with its exponent: in place unless the last digit stands left of the point or the
first one more than five zeros behind it. -/
def finiteText (coefficient : Nat) (exponent : Int) : Text :=
  let digits := Nat.toDigits 10 coefficient
  let first := exponent + digits.length - 1
  if exponent ≤ 0 ∧ -6 ≤ first then placePoint digits (-exponent).toNat
  else placeExponent digits first

def text : Decimal → Text
  | finite negative coefficient exponent => sign negative ++ finiteText coefficient exponent
  | infinite negative => sign negative ++ "Infinity".toList
  | nan negative signaling payload =>
      sign negative ++ (if signaling then "sNaN".toList else "NaN".toList)
        ++ (if payload = 0 then [] else Nat.toDigits 10 payload)
where
  /-- The sign of a text: only a minus is written. -/
  sign (negative : Bool) : Text :=
    if negative then ['-'] else []

/-- What is no number, behind its sign. -/
def readNan? (negative : Bool) : Text → Option Decimal
  | 's' :: 'n' :: 'a' :: 'n' :: payload => numbered true payload
  | 'n' :: 'a' :: 'n' :: payload => numbered false payload
  | _ => none
where
  /-- The digits behind the word. -/
  numbered (signaling : Bool) (payload : Text) : Option Decimal :=
    if payload.all Text.isDecimal then some (nan negative signaling (Text.digitsValue payload))
    else none

/-- The decimal that a text writes.  Blanks around it and underscores do not count. -/
def read? (t : Text) : Option Decimal :=
  let (negative, magnitude) := Text.splitSign ((Text.strip t).filter (· ≠ '_'))
  let word := magnitude.map Char.toLower
  if word = "inf".toList ∨ word = "infinity".toList then some (infinite negative)
  else match readNan? negative word with
    | some d => some d
    | none =>
        (Text.splitDecimal magnitude).map fun (whole, fraction, exponent) =>
          finite negative (Text.digitsValue (whole ++ fraction)) (exponent - fraction.length)

/-! ## Arithmetic -/

def lengthOf (coefficient : Nat) : Nat :=
  (Nat.toDigits 10 coefficient).length

/-- A coefficient without its last `count` digits, rounded. -/
def dropDigits (coefficient count : Nat) : Nat :=
  if lengthOf coefficient < count then 0
  else (Double.roundHalfEven ((coefficient : Rat) / (Nat.pow 10 count : Nat))).toNat

/-- The decimal that an exact result is rounded to. -/
def fit (negative : Bool) (coefficient : Nat) (exponent : Int) : Except Fault Decimal :=
  let least := max (exponent + lengthOf coefficient - precision) minExponent
  let (coefficient, exponent) :=
    if least ≤ exponent then (coefficient, exponent)
    else (dropDigits coefficient (least - exponent).toNat, least)
  if coefficient ≠ 0 ∧ maxExponent < exponent + lengthOf coefficient - 1 then .error .outOfRange
  else .ok (finite negative coefficient exponent)

/-- The sum of `a * 10 ^ e` and `b * 10 ^ f` for `e ≤ f`, where `a` is replaced by a smaller number
of its sign if it lies too far below the last digit of the sum to matter otherwise. -/
def addScaled (a e b f : Int) : Except Fault Decimal :=
  let far := f + min (-1) (lengthOf b.natAbs - precision - 2 : Int)
  let (a, e) :=
    if e + lengthOf a.natAbs - 1 < far then (a.sign, far) else (a, e)
  let sum := a + b * Nat.pow 10 (f - e).toNat
  fit (sum < 0) sum.natAbs e

def add (x y : Decimal) : Except Fault Decimal :=
  if x.isSignaling ∨ y.isSignaling then .error .undefined
  else match x, y with
    | nan _ _ _, _ | _, nan _ _ _ => .ok (nan false false 0)
    | infinite s, infinite t => if s = t then .ok (infinite s) else .error .undefined
    | infinite s, _ | _, infinite s => .ok (infinite s)
    | finite s c e, finite t d f =>
        if c = 0 then fit t d f
        else if d = 0 then fit s c e
        else if e ≤ f then addScaled (Text.signed s c) e (Text.signed t d) f
        else addScaled (Text.signed t d) f (Text.signed s c) e

def times (d : Decimal) (count : Nat) : Except Fault Decimal :=
  match d with
  | nan _ signaling _ => if signaling then .error .undefined else .ok d
  | infinite _ => if count = 0 then .error .undefined else .ok d
  | finite negative coefficient exponent => fit negative (coefficient * count) exponent

def magnitude : Decimal → Decimal
  | finite _ coefficient exponent => finite false coefficient exponent
  | infinite _ => infinite false
  | nan _ signaling payload => nan false signaling payload

/-- Whether a division by a decimal other than zero has a whole quotient: it must not need more
than `precision` digits. -/
def hasQuotient (x y : Decimal) : Bool :=
  !x.isSignaling && !y.isSignaling && match x, y with
    | infinite _, infinite _ => false
    | finite _ c e, finite _ d f => Point.scaledLt c e d (f + precision)
    | _, _ => true

def hasRemainder (d : Decimal) (count : Nat) : Bool :=
  d.hasQuotient (ofInt count) && match d with
    | infinite _ => false
    | _ => true

end Decimal

end StepPattern
