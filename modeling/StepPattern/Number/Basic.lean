/-
# StepPattern.Number.Basic -- numbers of four kinds

Settings, weights and parameters may be integers, doubles, exact fractions or
decimals.  All of them are compared exactly, as points of the line with its two
ends.  A double that is no number is not less than anything, but the order of a
decimal and anything that is no number is undefined.  A sum or product that
involves a double is a double, and an integer or fraction that joins it must fit
one.  A decimal joins decimals and integers only.
-/
import StepPattern.Error
import StepPattern.Number.Decimal
import StepPattern.Number.DoubleText

namespace StepPattern

set_option autoImplicit false

/-- A number of one of the four kinds. -/
inductive Number where
  | int (n : Int)
  | double (d : Double)
  | fraction (q : Rat)
  | decimal (d : Decimal)
  deriving DecidableEq, Repr

namespace Number

/-! ## Order -/

def point? : Number → Option Point
  | int n => some (.ofInt n)
  | fraction q => some (.ofRat q)
  | double d => d.point?
  | decimal d => d.point?

def isDecimal : Number → Bool
  | decimal _ => true
  | _ => false

/-- Whether a number may not take part in any operation. -/
def isSignaling : Number → Bool
  | decimal d => d.isSignaling
  | _ => false

/-- A comparison of points, carried over to numbers. -/
def compare (holds : Point → Point → Bool) (a b : Number) : Except Fault Bool :=
  match a.point?, b.point? with
  | some x, some y => .ok (holds x y)
  | _, _ => if a.isDecimal || b.isDecimal then .error .undefined else .ok false

def lt : Number → Number → Except Fault Bool :=
  compare Point.lt

def le : Number → Number → Except Fault Bool :=
  compare Point.le

def equal (a b : Number) : Bool :=
  match a.point?, b.point? with
  | some x, some y => x.equal y
  | _, _ => false

theorem lt_int (m n : Int) : (int m).lt (int n) = .ok (decide (m < n)) := by
  simp [lt, compare, point?, Point.lt_ofInt]

/-! ## Conversion -/

def toRat? : Number → Option Rat
  | int n => some n
  | fraction q => some q
  | double d => d.toRat?
  | decimal d => d.toRat?

/-- A rational as a double, unless it is too large. -/
def doubleOf (q : Rat) : Except Fault Double :=
  match Double.round? q with
  | some d => .ok d
  | none => .error .tooLarge

/-- A number as a double, as arithmetic with a double takes it. -/
def toDouble : Number → Except Fault Double
  | int n => doubleOf n
  | fraction q => doubleOf q
  | double d => .ok d
  | decimal _ => .error .wrongKind

/-! ## Arithmetic -/

def add : Number → Number → Except Fault Number
  | int m, int n => .ok (int (m + n))
  | decimal x, decimal y => (x.add y).map decimal
  | decimal x, int n | int n, decimal x => (x.add (.ofInt n)).map decimal
  | decimal _, _ | _, decimal _ => .error .wrongKind
  | int n, fraction q | fraction q, int n => .ok (fraction (n + q))
  | fraction p, fraction q => .ok (fraction (p + q))
  | a, b => return double (Double.add (← a.toDouble) (← b.toDouble))

def times (n : Number) (count : Nat) : Except Fault Number :=
  match n with
  | int n => .ok (int (n * count))
  | fraction q => .ok (fraction (q * count))
  | double d => return double (d.mul (← doubleOf count))
  | decimal d => (d.times count).map decimal

/-- A random fraction of a number. -/
def portion (fraction : Rat) (n : Number) : Except Fault Double :=
  return Double.mul (.finite fraction) (← n.toDouble)

end Number

end StepPattern
