/-
# StepPattern.Proofs.Shown -- what keeps a value from being shown

A value is shown part by part, and the first part that cannot be written ends it:
an integer beyond the digit limit, or parts where there is no room for them.  The
obstacles of a value are all of these, in the order in which they are come upon
(`Value.obstacles`), and a value is shown exactly if it has none
(`Value.meets_shown`).
-/
import StepPattern.Value.Shown

namespace StepPattern

set_option autoImplicit false

/-- Whether an operation fails with the first of some obstacles, and succeeds without one. -/
def Meets {α : Type} (result : Except Fault α) (obstacles : List Fault) : Prop :=
  ∀ fault, result = .error fault ↔ obstacles.head? = some fault

namespace Meets

variable {α β : Type} {result : Except Fault α} {first second : List Fault}

theorem ok (a : α) : Meets (.ok a) [] := by
  simp [Meets]

theorem error (fault : Fault) : Meets (.error fault : Except Fault α) [fault] := by
  simp [Meets]

theorem bind {next : α → Except Fault β} (one : Meets result first)
    (other : ∀ a, Meets (next a) second) : Meets (result >>= next) (first ++ second) := by
  intro fault
  cases result with
  | error cause =>
      have head : first.head? = some cause := (one cause).1 rfl
      rw [List.head?_append, head]
      simp [Bind.bind, Except.bind]
  | ok a =>
      have none : first.head? = none := Option.eq_none_iff_forall_ne_some.2 fun cause met =>
        nomatch (one cause).2 met
      rw [List.head?_append, none, Option.none_or]
      exact other a fault

/-- A last step that cannot fail adds no obstacle. -/
theorem last {next : α → β} (one : Meets result first) :
    Meets (result >>= fun a => pure (next a)) first := by
  rw [← List.append_nil first]
  exact one.bind fun a => ok (next a)

end Meets

namespace Value

/-! ## Obstacles -/

/-- What keeps an integer from being written. -/
def tooLong (n : Int) : List Fault :=
  if n.natAbs < Text.numeralBound then [] else [overLimit]

mutual

/-- What keeps a value from being shown, in the order in which it is come upon. -/
def obstacles : Value → Option Nat → List Fault
  | int n, _ | note n, _ => tooLong n
  | fraction q, _ => tooLong q.num ++ tooLong q.den
  | list items, room => itemObstacles items room
  | dict entries, room => entryObstacles entries room
  | none, _ | bool _, _ | double _, _ | decimal _, _ | bytes _, _ | text _, _ | rest, _ => []
termination_by structural v => v

def itemObstacles : List Value → Option Nat → List Fault
  | [], _ => []
  | _ :: _, some 0 => [tooDeep]
  | v :: vs, room => obstacles v (room.map Nat.pred) ++ itemObstacles vs room
termination_by structural vs => vs

def entryObstacles : List (Value × Value) → Option Nat → List Fault
  | [], _ => []
  | _ :: _, some 0 => [tooDeep]
  | (k, v) :: others, room =>
      obstacles k (room.map Nat.pred) ++ obstacles v (room.map Nat.pred)
        ++ entryObstacles others room
termination_by structural entries => entries

end

theorem meets_numeral (n : Int) : Meets (numeral n) (tooLong n) := by
  unfold numeral tooLong Text.numeral?
  by_cases short : n.natAbs < Text.numeralBound
  · rw [if_pos short, if_pos short]
    exact .ok _
  · rw [if_neg short, if_neg short]
    exact .error _

mutual

/-- **A value is shown unless there is an obstacle**, and fails with the first one. -/
theorem meets_shown : (v : Value) → (room : Option Nat) →
    Meets (v.shown room) (v.obstacles room)
  | int n, _ => meets_numeral n
  | note n, _ => (meets_numeral n).last
  | fraction q, _ => (meets_numeral q.num).bind fun _ => (meets_numeral q.den).last
  | list items, room => (meets_shownItems items room).last
  | dict entries, room => (meets_shownEntries entries room).last
  | none, _ | bool _, _ | double _, _ | decimal _, _ | bytes _, _ | text _, _ | rest, _ => .ok _

theorem meets_shownItems : (items : List Value) → (room : Option Nat) →
    Meets (shownItems items room) (itemObstacles items room)
  | [], _ => .ok _
  | _ :: _, some 0 => .error tooDeep
  | v :: vs, Option.none =>
      (meets_shown v Option.none).bind fun _ => (meets_shownItems vs Option.none).last
  | v :: vs, some (room + 1) =>
      (meets_shown v (some room)).bind fun _ => (meets_shownItems vs (some (room + 1))).last

theorem meets_shownEntries : (entries : List (Value × Value)) → (room : Option Nat) →
    Meets (shownEntries entries room) (entryObstacles entries room)
  | [], _ => .ok _
  | _ :: _, some 0 => .error tooDeep
  | (k, v) :: others, Option.none => by
      rw [entryObstacles, List.append_assoc]
      · exact (meets_shown k Option.none).bind fun _ => (meets_shown v Option.none).bind fun _ =>
          (meets_shownEntries others Option.none).last
      · exact nofun
  | (k, v) :: others, some (room + 1) => by
      rw [entryObstacles, List.append_assoc]
      · exact (meets_shown k (some room)).bind fun _ => (meets_shown v (some room)).bind fun _ =>
          (meets_shownEntries others (some (room + 1))).last
      · exact nofun

end

theorem shown_eq_error_iff {v : Value} {room : Option Nat} {fault : Fault} :
    v.shown room = .error fault ↔ (v.obstacles room).head? = some fault :=
  meets_shown v room fault

/-! ## Kinds of obstacles -/

theorem mem_tooLong {n : Int} {fault : Fault} (met : fault ∈ tooLong n) : fault = overLimit := by
  unfold tooLong at met
  split at met
  · cases met
  · exact List.mem_singleton.1 met

/-- Whether an obstacle is one of these: an integer, or the end of the room where there is one. -/
def IsObstacle (room : Option Nat) (fault : Fault) : Prop :=
  fault = overLimit ∨ (fault = tooDeep ∧ room ≠ Option.none)

theorem IsObstacle.outside {room : Option Nat} {fault : Fault}
    (inner : IsObstacle (room.map Nat.pred) fault) : IsObstacle room fault :=
  inner.imp_right fun ⟨same, limited⟩ => ⟨same, fun endless => limited (by rw [endless]; rfl)⟩

mutual

theorem isObstacle_of_mem : {v : Value} → {room : Option Nat} → {fault : Fault} →
    fault ∈ v.obstacles room → IsObstacle room fault
  | int _, _, _, met | note _, _, _, met => .inl (mem_tooLong met)
  | fraction _, _, _, met => .inl ((List.mem_append.1 met).elim mem_tooLong mem_tooLong)
  | list _, _, _, met => isObstacle_of_mem_items met
  | dict _, _, _, met => isObstacle_of_mem_entries met
  | none, _, _, met | bool _, _, _, met | double _, _, _, met | decimal _, _, _, met
  | bytes _, _, _, met | text _, _, _, met | rest, _, _, met => nomatch met

theorem isObstacle_of_mem_items : {items : List Value} → {room : Option Nat} → {fault : Fault} →
    fault ∈ itemObstacles items room → IsObstacle room fault
  | [], _, _, met => nomatch met
  | _ :: _, some 0, _, met => .inr ⟨List.mem_singleton.1 met, nofun⟩
  | _ :: _, Option.none, _, met | _ :: _, some (_ + 1), _, met =>
      (List.mem_append.1 met).elim (fun met => (isObstacle_of_mem met).outside)
        isObstacle_of_mem_items

theorem isObstacle_of_mem_entries : {entries : List (Value × Value)} → {room : Option Nat} →
    {fault : Fault} → fault ∈ entryObstacles entries room → IsObstacle room fault
  | [], _, _, met => nomatch met
  | _ :: _, some 0, _, met => .inr ⟨List.mem_singleton.1 met, nofun⟩
  | (_, _) :: _, Option.none, _, met | (_, _) :: _, some (_ + 1), _, met =>
      (List.mem_append.1 met).elim
        (fun met => ((List.mem_append.1 met).elim isObstacle_of_mem isObstacle_of_mem).outside)
        isObstacle_of_mem_entries

end

theorem shown_error {v : Value} {fault : Fault} (failed : v.shown = .error fault) :
    fault = overLimit :=
  (isObstacle_of_mem (List.mem_of_head? (shown_eq_error_iff.1 failed))).resolve_right
    fun deep => deep.2 rfl

end Value

end StepPattern
