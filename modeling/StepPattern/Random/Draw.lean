/-
# StepPattern.Random.Draw -- numbers, choices and orders drawn from a source

Every kind of draw is made of whole words of the source.  A number below `n` is
drawn by refusal: as many random bits as `n` has, again until they are below
`n`.  A fraction has 53 random bits, and is
compared by its numerator.  A shuffle is the swap loop from the last
place down, which at place `i` draws a partner in `0 .. i`.
-/
import StepPattern.Number.Double
import StepPattern.Random.Twister

namespace StepPattern.Twister

set_option autoImplicit false

/-- The number of bits a number needs, 0 for 0. -/
def bitLength (n : Nat) : Nat :=
  if n = 0 then 0 else n.log2 + 1

/-- `count` random bits as a number: whole words first, the least significant first. -/
def bits (g : Twister) (count : Nat) : Nat × Twister :=
  if count ≤ 32 then
    let (w, g) := g.next
    (w.toNat >>> (32 - count), g)
  else
    let (low, g) := g.next
    let (high, g) := bits g (count - 32)
    (low.toNat + (high <<< 32), g)
termination_by count
decreasing_by omega

/-- How often a number below a bound is drawn again; each attempt succeeds more often than not. -/
def attempts : Nat := 4096

/-- The first draw of `count` bits below `bound`, and 0 if none of the attempts is. -/
def refuse (bound count : Nat) : Nat → Twister → Nat × Twister
  | 0, g => (0, g)
  | fuel + 1, g =>
      let (drawn, g) := g.bits count
      if drawn < bound then (drawn, g) else refuse bound count fuel g

/-- A number below `bound`; for the bound 0 no draw is made. -/
def below (g : Twister) (bound : Nat) : Nat × Twister :=
  if bound = 0 then (0, g) else refuse bound (bitLength bound) attempts g

theorem refuse_lt {bound : Nat} (count fuel : Nat) (g : Twister) (positive : 0 < bound) :
    (refuse bound count fuel g).1 < bound := by
  induction fuel generalizing g with
  | zero => exact positive
  | succ fuel ih =>
      simp only [refuse]
      split
      · assumption
      · exact ih _

theorem below_lt {bound : Nat} (g : Twister) (positive : 0 < bound) :
    (g.below bound).1 < bound := by
  unfold below
  rw [if_neg (Nat.pos_iff_ne_zero.1 positive)]
  exact refuse_lt _ _ g positive

/-- An integer in `low .. low + width - 1`. -/
def within (g : Twister) (low : Int) (width : Nat) : Int × Twister :=
  let (offset, g) := g.below width
  (low + offset, g)

def between (g : Twister) (low high : Nat) : Nat × Twister :=
  let (offset, g) := g.below (high + 1 - low)
  (low + offset, g)

def denominator : Nat := 9007199254740992

/-- The numerator of a random fraction over `denominator`. -/
def numerator (g : Twister) : Nat × Twister :=
  let (high, g) := g.next
  let (low, g) := g.next
  ((high >>> 5).toNat * 67108864 + (low >>> 6).toNat, g)

/-- Whether the fraction with a numerator over `denominator` is below a bound. -/
def isBelow (numerator : Nat) (bound : Rat) : Bool :=
  (numerator : Int) * bound.den < bound.num * denominator

/-- Whether the fraction with a numerator over `denominator` is below a double. -/
def isBelowDouble (numerator : Nat) : Double → Bool
  | .nan => false
  | .infinite negative => !negative
  | .negativeZero => false
  | .finite bound => isBelow numerator bound

def isAbove (numerator : Nat) (bound : Rat) : Bool :=
  bound.num * denominator < (numerator : Int) * bound.den

def fraction (g : Twister) : Rat × Twister :=
  let (n, g) := g.numerator
  ((n : Rat) / (denominator : Rat), g)

def choose {α : Type} (g : Twister) (first : α) (others : List α) : α × Twister :=
  let (i, g) := g.below (others.length + 1)
  ((first :: others).getD i first, g)

/-- The swap loop over the places `place` down to 1. -/
def swapDown {α : Type} : Nat → Array α → Twister → Array α × Twister
  | 0, items, g => (items, g)
  | place + 1, items, g =>
      let (partner, g) := g.below (place + 2)
      swapDown place (items.swapIfInBounds (place + 1) partner) g

def shuffle {α : Type} (g : Twister) (items : List α) : List α × Twister :=
  let (shuffled, g) := swapDown (items.length - 1) items.toArray g
  (shuffled.toList, g)

end StepPattern.Twister
