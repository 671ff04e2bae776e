/-
# StepPattern.Settings.Keys -- keys put in order

Keys are put in order by comparisons of two of them, and those that cannot be
compared stop the sort.  A sort finds the run with which they begin, falling or not,
and puts each later key into its place among those before it, which it looks for by
halves.  It puts keys in another order (`Keys.perm_of_sort`), or stops at two of them
that have no order (`Keys.stuck_of_sort`).
-/
import StepPattern.Value

namespace StepPattern

set_option autoImplicit false

/-- Two keys that were compared and have no order. -/
abbrev Unordered := Value × Value

/-- Whether one key comes before another. -/
def Value.precedes (a b : Value) : Except Unordered Bool :=
  match a.before b with
  | .ok comes => .ok comes
  | .error _ => .error (a, b)

/-- Whether two keys are among some and have no order. -/
structure Stuck (keys : List Value) (pair : Unordered) : Prop where
  first : pair.1 ∈ keys
  second : pair.2 ∈ keys
  unordered : ∃ fault, pair.1.before pair.2 = .error fault

theorem Stuck.mono {keys more : List Value} {pair : Unordered} (stuck : Stuck keys pair)
    (among : keys ⊆ more) : Stuck more pair :=
  ⟨among stuck.first, among stuck.second, stuck.unordered⟩

theorem stuck_of_precedes {a b : Value} {pair : Unordered}
    (failed : a.precedes b = .error pair) : Stuck [a, b] pair := by
  unfold Value.precedes at failed
  split at failed
  · cases failed
  · rename_i fault compared
    cases failed
    exact ⟨.head _, .tail _ (.head _), fault, compared⟩

namespace Keys

/-- The keys that go on with a run behind `last`, and the others.  In a falling run every key
precedes the one before it, in any other one none does. -/
def run (falling : Bool) (last : Value) :
    List Value → Except Unordered (List Value × List Value)
  | [] => .ok ([], [])
  | key :: keys => do
      if (← key.precedes last) = falling then
        let (more, others) ← run falling key keys
        return (key :: more, others)
      else return ([], key :: keys)

/-- The run with which keys begin, the first one first, and the others. -/
def firstRun : List Value → Except Unordered (List Value × List Value)
  | a :: b :: keys => do
      let falling ← b.precedes a
      let (more, others) ← run falling b keys
      let first := a :: b :: more
      return (if falling then first.reverse else first, others)
  | keys => .ok (keys, [])

/-- The place of a key among sorted ones, from `low` on and up to `high`: behind those that it does
not precede. -/
def place (key : Value) (sorted : List Value) (low high : Nat) : Except Unordered Nat :=
  if low < high then
    match sorted[(low + high) / 2]? with
    | none => .ok low
    | some middle => do
        if ← key.precedes middle then place key sorted low ((low + high) / 2)
        else place key sorted ((low + high) / 2 + 1) high
  else .ok low
termination_by high - low

def insert (sorted : List Value) (key : Value) : Except Unordered (List Value) := do
  return sorted.insertIdx (← place key sorted 0 sorted.length) key

def sort (keys : List Value) : Except Unordered (List Value) := do
  let (sorted, others) ← firstRun keys
  others.foldlM insert sorted

/-! ## The run at the beginning -/

theorem append_of_run {falling : Bool} {last : Value} {keys more others : List Value}
    (done : run falling last keys = .ok (more, others)) : more ++ others = keys := by
  induction keys generalizing last more with
  | nil =>
      cases done
      rfl
  | cons key keys ih =>
      obtain ⟨comes, -, done⟩ := bind_eq_ok_iff.1 done
      split at done
      · obtain ⟨⟨rest, left⟩, found, done⟩ := bind_eq_ok_iff.1 done
        cases done
        rw [List.cons_append, ih found]
      · cases done
        rfl

theorem stuck_of_run {falling : Bool} {last : Value} {keys : List Value} {pair : Unordered}
    (failed : run falling last keys = .error pair) : Stuck (last :: keys) pair := by
  induction keys generalizing last with
  | nil => cases failed
  | cons key keys ih =>
      rcases bind_eq_error_iff.1 failed with compared | ⟨comes, -, failed⟩
      · exact (stuck_of_precedes compared).mono (by simp)
      · split at failed
        · rcases bind_eq_error_iff.1 failed with further | ⟨_, -, done⟩
          · exact (ih further).mono (by simp)
          · cases done
        · cases failed

theorem perm_of_firstRun {keys sorted others : List Value}
    (done : firstRun keys = .ok (sorted, others)) : (sorted ++ others).Perm keys := by
  unfold firstRun at done
  split at done
  · obtain ⟨falling, -, done⟩ := bind_eq_ok_iff.1 done
    obtain ⟨⟨more, left⟩, found, done⟩ := bind_eq_ok_iff.1 done
    cases done
    rw [← append_of_run found]
    split
    · exact (List.reverse_perm _).append_right _
    · exact .refl _
  · cases done
    rw [List.append_nil]

theorem stuck_of_firstRun {keys : List Value} {pair : Unordered}
    (failed : firstRun keys = .error pair) : Stuck keys pair := by
  unfold firstRun at failed
  split at failed
  · rcases bind_eq_error_iff.1 failed with compared | ⟨falling, -, failed⟩
    · exact (stuck_of_precedes compared).mono (by simp)
    rcases bind_eq_error_iff.1 failed with further | ⟨_, -, done⟩
    · exact (stuck_of_run further).mono (List.subset_cons_self _ _)
    · cases done
  · cases failed

/-! ## The place of a key -/

theorem place_le {key : Value} {sorted : List Value} {low high found : Nat} (within : low ≤ high)
    (done : place key sorted low high = .ok found) : found ≤ high := by
  fun_induction place key sorted low high with
  | case1 low high some_ absent =>
      cases done
      exact within
  | case2 low high some_ middle present before after =>
      obtain ⟨comes, -, done⟩ := bind_eq_ok_iff.1 done
      cases comes with
      | true => exact Nat.le_trans (before (by omega) done) (by omega)
      | false => exact after (by omega) done
  | case3 low high none =>
      cases done
      exact within

theorem stuck_of_place {key : Value} {sorted : List Value} {low high : Nat} {pair : Unordered}
    (failed : place key sorted low high = .error pair) : Stuck (key :: sorted) pair := by
  fun_induction place key sorted low high with
  | case1 low high some_ absent => cases failed
  | case2 low high some_ middle present before after =>
      rcases bind_eq_error_iff.1 failed with compared | ⟨comes, -, failed⟩
      · exact (stuck_of_precedes compared).mono (by simp [List.mem_of_getElem? present])
      · cases comes with
        | true => exact before failed
        | false => exact after failed
  | case3 low high none => cases failed

/-! ## The sort -/

theorem perm_of_insert {sorted done : List Value} {key : Value}
    (inserted : insert sorted key = .ok done) : done.Perm (key :: sorted) := by
  obtain ⟨index, found, inserted⟩ := bind_eq_ok_iff.1 inserted
  cases inserted
  exact List.perm_insertIdx _ _ (place_le (Nat.zero_le _) found)

theorem stuck_of_insert {sorted : List Value} {key : Value} {pair : Unordered}
    (failed : insert sorted key = .error pair) : Stuck (key :: sorted) pair := by
  rcases bind_eq_error_iff.1 failed with placed | ⟨_, -, done⟩
  · exact stuck_of_place placed
  · cases done

theorem perm_of_foldlM {keys sorted done : List Value}
    (folded : keys.foldlM insert sorted = .ok done) : done.Perm (sorted ++ keys) := by
  induction keys generalizing sorted with
  | nil =>
      cases folded
      rw [List.append_nil]
  | cons key keys ih =>
      obtain ⟨next, inserted, folded⟩ := bind_eq_ok_iff.1 folded
      exact (ih folded).trans (((perm_of_insert inserted).append_right keys).trans
        List.perm_middle.symm)

theorem stuck_of_foldlM {keys sorted : List Value} {pair : Unordered}
    (failed : keys.foldlM insert sorted = .error pair) : Stuck (sorted ++ keys) pair := by
  induction keys generalizing sorted with
  | nil => cases failed
  | cons key keys ih =>
      rcases bind_eq_error_iff.1 failed with placed | ⟨next, inserted, failed⟩
      · exact (stuck_of_insert placed).mono (by simp)
      · have same := ((perm_of_insert inserted).append_right keys).trans List.perm_middle.symm
        exact (ih failed).mono same.subset

theorem perm_of_sort {keys sorted : List Value} (done : sort keys = .ok sorted) :
    sorted.Perm keys := by
  obtain ⟨⟨first, others⟩, begun, done⟩ := bind_eq_ok_iff.1 done
  exact (perm_of_foldlM done).trans (perm_of_firstRun begun)

/-- **A sort stops only at two of the keys that have no order.** -/
theorem stuck_of_sort {keys : List Value} {pair : Unordered} (failed : sort keys = .error pair) :
    Stuck keys pair := by
  rcases bind_eq_error_iff.1 failed with begun | ⟨⟨first, others⟩, begun, failed⟩
  · exact stuck_of_firstRun begun
  · exact (stuck_of_foldlM failed).mono (perm_of_firstRun begun).subset

end Keys

/-! ## Keys that are no texts -/

def Value.isText : Value → Bool
  | .text _ => true
  | _ => false

/-- What keeps keys from being listed, one of which is no text. -/
inductive KeyTrouble where
  | unordered (a b : Value)
  | notText (index : Nat) (key : Value)

namespace KeyTrouble

/-- The trouble with keys that a sort ends with. -/
def ofSorted : Except Unordered (List Value) → KeyTrouble
  | .error (a, b) => unordered a b
  | .ok sorted =>
      let index := sorted.findIdx fun key => !key.isText
      notText index (sorted.getD index .none)

def fault : KeyTrouble → Fault
  | unordered a b => match a.before b with
    | .error fault => fault
    | .ok _ => .wrongKind
  | notText _ _ => .wrongKind

def reason : KeyTrouble → String
  | unordered a b =>
      "'<' not supported between instances of '" ++ a.typeName ++ "' and '" ++ b.typeName ++ "'"
  | notText index key =>
      s!"sequence item {index}: expected str instance, " ++ key.typeName ++ " found"

end KeyTrouble

end StepPattern
