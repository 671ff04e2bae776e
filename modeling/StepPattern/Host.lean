/-
# StepPattern.Host -- what a program does not decide itself

Three things are left open by what the values of a program are: how many levels of
nesting there is room to show, the state of a source that nothing seeds, and how the
members of a set are put in order, since neither the order in which a set lists them
nor the choice of the pairs that a sort compares is said anywhere.  What depends on one
of them takes a `Host`.
-/
import StepPattern.Random.Twister
import StepPattern.Settings.Keys

namespace StepPattern

set_option autoImplicit false

/-- What is left open. -/
structure Host where
  /-- The levels of nesting that a value is shown to. -/
  room : Nat := 1000
  /-- The state of a source that nothing seeds. -/
  fresh : Twister := .ofSeed 0
  /-- The members of a set in order, or two of them that were compared and have none. -/
  sorted : List Value → Except Unordered (List Value) := Keys.sort
  sorted_perm : ∀ members done, sorted members = .ok done → done.Perm members := by
    exact fun _ _ => Keys.perm_of_sort
  sorted_stuck : ∀ members pair, sorted members = .error pair → Stuck members pair := by
    exact fun _ _ => Keys.stuck_of_sort

def Host.default : Host := {}

end StepPattern
