/-
# StepPattern.Number.Double -- double-precision numbers as exact values

A double is one of the binary numbers of 53 significant bits, an infinity, a
negative zero or no number at all.  A finite double is kept as the exact
rational it stands for, so that comparison is the comparison of rationals and an
operation is the exact operation followed by `Double.round`: the nearest double,
a tie going to the even significand.
-/
import StepPattern.Number.Point

namespace StepPattern

set_option autoImplicit false

/-- A double-precision number; the two zeros are told apart. -/
inductive Double where
  | nan
  | infinite (negative : Bool)
  | negativeZero
  | finite (value : Rat)
  deriving DecidableEq, Repr

namespace Double

/-! ## Rounding -/

/-- The nearest integer, a half going to the even neighbour. -/
def roundHalfEven (q : Rat) : Int :=
  let low := q.floor
  let gap := q - low
  if gap < 1 / 2 then low
  else if 1 / 2 < gap then low + 1
  else if low % 2 = 0 then low
  else low + 1

/-- The exponent `e` with `2 ^ e ≤ |q| < 2 ^ (e + 1)`, for `q ≠ 0`. -/
def binaryExponent (q : Rat) : Int :=
  let guess : Int := (q.num.natAbs.log2 : Int) - q.den.log2
  if (2 : Rat) ^ guess ≤ q.abs then guess else guess - 1

/-- The exponent of the last significant bit of a double near `q`. -/
def unitExponent (q : Rat) : Int :=
  max (binaryExponent q - 52) (-1074)

/-- The least power of two that no finite double reaches. -/
def overflowBound : Rat := (2 : Rat) ^ (1024 : Nat)

/-- The double nearest to a rational. -/
def round (q : Rat) : Double :=
  if q = 0 then .finite 0
  else
    let unit := (2 : Rat) ^ unitExponent q
    let nearest := roundHalfEven (q / unit) * unit
    if overflowBound ≤ nearest then .infinite false
    else if nearest ≤ -overflowBound then .infinite true
    else if nearest = 0 ∧ q < 0 then .negativeZero
    else .finite nearest

def round? (q : Rat) : Option Double :=
  match round q with
  | .infinite _ => none
  | d => some d

/-! ## Reading a double -/

def toRat? : Double → Option Rat
  | .finite q => some q
  | .negativeZero => some 0
  | _ => none

def isNegative : Double → Bool
  | .infinite negative => negative
  | .negativeZero => true
  | .finite q => q < 0
  | .nan => false

def zero (negative : Bool) : Double :=
  if negative then .negativeZero else .finite 0

/-! ## Arithmetic -/

/-- The sum, rounded.  A sum of two negative zeros is negative; any other zero is positive. -/
def add : Double → Double → Double
  | .nan, _ | _, .nan => .nan
  | .infinite a, .infinite b => if a = b then .infinite a else .nan
  | .infinite a, _ | _, .infinite a => .infinite a
  | .negativeZero, .negativeZero => .negativeZero
  | .negativeZero, .finite q | .finite q, .negativeZero => .finite q
  | .finite p, .finite q => round (p + q)

/-- The product, rounded.  Its sign is negative when exactly one factor is. -/
def mul (a b : Double) : Double :=
  match a, b with
  | .nan, _ | _, .nan => .nan
  | .infinite s, .infinite t => .infinite (s != t)
  | .infinite s, d | d, .infinite s =>
      if d.toRat? = some 0 then .nan else .infinite (s != d.isNegative)
  | a, b =>
      let product := (a.toRat?.getD 0) * (b.toRat?.getD 0)
      if product = 0 then zero (a.isNegative != b.isNegative) else round product

/-- The quotient by a positive number, rounded. -/
def divNat (d : Double) (divisor : Nat) : Double :=
  match d with
  | .finite q => if q = 0 then .finite 0 else round (q / divisor)
  | d => d

def point? : Double → Option Point
  | .nan => none
  | .infinite negative => some (if negative then .bottom else .top)
  | .negativeZero => some (.ofRat 0)
  | .finite q => some (.ofRat q)

def le (a b : Double) : Bool :=
  match a.point?, b.point? with
  | some x, some y => x.le y
  | _, _ => false

end Double

end StepPattern
