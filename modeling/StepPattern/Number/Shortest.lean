/-
# StepPattern.Number.Shortest -- the fewest digits that read back

Of all decimals that round to a given double, the shortest ones have the fewest
digits, and of those the one nearest to the double is written.  A decimal of `n`
digits near `v` is a multiple of a power of ten, so only the two multiples next
to `v` need to be tried, for one digit, then two, and so on; seventeen always
suffice.
-/
import StepPattern.Number.Double

namespace StepPattern.Double

set_option autoImplicit false

/-- The exponent `e` with `10 ^ e ≤ q < 10 ^ (e + 1)`, for `q > 0`. -/
def decimalExponent (q : Rat) : Int :=
  if 1 ≤ q then ((Nat.toDigits 10 q.floor.toNat).length : Int) - 1
  else -((Nat.toDigits 10 (q⁻¹.ceil.toNat - 1)).length : Int)

def readsBack (v decimal : Rat) : Bool :=
  round decimal = .finite v

/-- The decimals `m * 10 ^ e` of at most `count` digits next to `v` that read back, as `(m, e)`. -/
def readBackNeighbours (v : Rat) (count : Nat) : List (Int × Int) :=
  let e := decimalExponent v - (count - 1 : Nat)
  let low := (v / (10 : Rat) ^ e).floor
  [(low, e), (low + 1, e)].filter fun (m, e) => readsBack v (m * (10 : Rat) ^ e)

/-- The nearer of two decimals; of two equally near ones the even one. -/
def nearer (v : Rat) : List (Int × Int) → Option (Int × Int)
  | [] => none
  | [one] => some one
  | (m, e) :: other :: _ =>
      let unit := (10 : Rat) ^ e
      let below := v - m * unit
      let above := (m + 1) * unit - v
      if below < above ∨ (below = above ∧ m % 2 = 0) then some (m, e) else some other

/-- The digits and the exponent of the shortest decimal for a positive double. -/
def shortest (v : Rat) : Int × Int :=
  ((List.range 17).findSome? fun k => nearer v (readBackNeighbours v (k + 1))).getD (v.floor, 0)

end StepPattern.Double
