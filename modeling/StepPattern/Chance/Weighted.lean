/-
# StepPattern.Chance.Weighted -- a weighted choice

The weights are added up exactly as long as all are integers, and as doubles once
one is.  A random fraction of the total is drawn, and the first item at which the
running sum of doubles reaches it is chosen; the last item, if none does.
-/
import StepPattern.Random.Draw
import StepPattern.Value

namespace StepPattern

set_option autoImplicit false

/-- Items with their weights. -/
abbrev Weighted (α : Type) := List (α × Value)

namespace Weighted

variable {α : Type}

/-- The sum of the weights, from left to right. -/
def total (items : Weighted α) : Except Fault Number :=
  items.foldlM (fun sum item => do sum.add (← item.2.number)) (.int 0)

/-- The first item at which the running sum reaches a threshold, and `last` if none does. -/
def reaching (threshold : Double) (last : α) : Double → Weighted α → Except Fault α
  | _, [] => .ok last
  | sum, (item, weight) :: items => do
      let sum := Double.add sum (← (← weight.number).toDouble)
      if threshold.le sum then return item
      reaching threshold last sum items

def pick (items : Weighted α) (total : Number) (fraction : Rat) (last : α) : Except Fault α := do
  reaching (← total.portion fraction) last (.finite 0) items

/-- One item, chosen with a probability in proportion to its weight. -/
def choose (items : Weighted α) (g : Twister) : Except Fault α × Twister :=
  match items.getLast? with
  | none => (.error (.setting .noChoices), g)
  | some (last, _) =>
      match items.total with
      | .error fault => (.error fault, g)
      | .ok total =>
          match total.le (.int 0) with
          | .error fault => (.error fault, g)
          | .ok true => (.error (.setting .weightNotPositive), g)
          | .ok false =>
              let (fraction, g) := g.fraction
              (items.pick total fraction last, g)

end Weighted

end StepPattern
