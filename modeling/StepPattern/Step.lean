/-
# StepPattern.Step -- the steps of a sequence

A step sounds a note of some integer value (a pitch, a velocity or any other
magnitude) or is silent.  The order of a sequence is musical time.
-/
namespace StepPattern

set_option autoImplicit false

/-- One step of a sequence. -/
inductive Step where
  | note (value : Int)
  | rest
  deriving DecidableEq, Repr

namespace Step

def isNote : Step → Bool
  | note _ => true
  | rest => false

/-- The steps of a list of integers, where an absent one is a rest. -/
def ofValues (values : List (Option Int)) : List Step :=
  values.map fun
    | some n => note n
    | none => rest

end Step

end StepPattern
