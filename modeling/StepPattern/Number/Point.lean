/-
# StepPattern.Number.Point -- the points that numbers are compared by

Every number that can be compared is a point of the line: a quotient of integers
times a power of ten, or one of the two ends.  Powers of ten are only brought
together where the lengths of the numerators do not decide, so a comparison never
costs more than the digits at hand.
-/
import StepPattern.Text.Numeral

namespace StepPattern

set_option autoImplicit false

/-- A point of the line; `real p q e` is `p / q * 10 ^ e` for a positive `q`. -/
inductive Point where
  | bottom
  | real (numerator : Int) (denominator : Nat) (scale : Int)
  | top
  deriving DecidableEq, Repr

namespace Point

def scaledLt (a e b f : Int) : Bool :=
  if e = f ∨ a.sign ≠ b.sign ∨ a = 0 then a < b
  else
    let left := e + (Nat.toDigits 10 a.natAbs).length
    let right := f + (Nat.toDigits 10 b.natAbs).length
    if left ≠ right then decide (left < right) == decide (0 < a)
    else if e < f then a < b * Nat.pow 10 (f - e).toNat
    else a * Nat.pow 10 (e - f).toNat < b

def lt : Point → Point → Bool
  | bottom, bottom => false
  | bottom, _ => true
  | real p q e, real p' q' e' => scaledLt (p * q') e (p' * q) e'
  | real _ _ _, top => true
  | _, _ => false

def le (x y : Point) : Bool :=
  !y.lt x

def equal (x y : Point) : Bool :=
  x.le y && y.le x

def ofRat (q : Rat) : Point :=
  real q.num q.den 0

def ofInt (n : Int) : Point :=
  real n 1 0

theorem lt_ofInt (m n : Int) : (ofInt m).lt (ofInt n) = decide (m < n) := by
  simp [ofInt, lt, scaledLt]

end Point

end StepPattern
