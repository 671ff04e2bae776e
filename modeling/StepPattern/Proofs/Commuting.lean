/-
# StepPattern.Proofs.Commuting -- transforms of values commute with all the others

A transform of values makes the same of a note wherever it stands (`call_notewise`).
Any other transform moves, copies or drops what is there without a look at the notes:
neither its draws nor its refusals depend on them (`call_mapNotes`).  So it does not
matter which of the two is called first (`apply_comm`).

The parameters may be any, also missing ones and ones that are refused.  A call that
fails leaves the sequence as it is, and that is a change of notes too: none at all.
-/
import StepPattern.Proofs.Rhythm

namespace StepPattern

set_option autoImplicit false

namespace Registry

open Transform

/-- The names of the transforms of order, length and chance. -/
def otherTransforms : List Text :=
  ["reverse".toList, "rotate".toList, "mirror".toList, "repeat".toList, "interleave".toList,
    "scramble".toList, "sparse".toList]

theorem not_mem_valueTransforms :
    ∀ name ∈ otherTransforms, name ∉ valueTransforms := by
  decide

/-- **Transforms of values commute with all the others.**  Whatever the two are called with, both
orders give the same sequence and leave the same source. -/
theorem apply_comm (loud : Bool) {first second : Value} (changes : first.Names valueTransforms)
    (moves : second.Names otherTransforms) (p q : Value) (s : Sequence) (g : Twister) :
    let moved := builtin.apply loud second q s g
    let changed := builtin.apply loud first p s g
    let movedChanged := builtin.apply loud first p moved.sequence moved.source
    let changedMoved := builtin.apply loud second q changed.sequence changed.source
    movedChanged.sequence = changedMoved.sequence ∧
      movedChanged.source = changedMoved.source := by
  obtain ⟨call, written, named⟩ := changes
  obtain ⟨other, otherWritten, otherNamed⟩ := moves
  obtain ⟨change, notewise⟩ := call_notewise loud named p
  obtain ⟨sequence, source⟩ :=
    call_mapNotes loud (not_mem_valueTransforms _ otherNamed) q change s g
  intro moved changed movedChanged changedMoved
  have late : movedChanged.sequence = mapNotes change moved.sequence ∧
      movedChanged.source = moved.source := by
    simp only [movedChanged, apply_of_written builtin loud written]
    exact notewise _ _
  have early : changed.sequence = mapNotes change s ∧ changed.source = g := by
    simp only [changed, apply_of_written builtin loud written]
    exact notewise s g
  have outer : changedMoved.sequence = mapNotes change moved.sequence ∧
      changedMoved.source = moved.source := by
    simp only [changedMoved, moved, early, apply_of_written builtin loud otherWritten]
    exact ⟨sequence, source⟩
  exact ⟨late.1.trans outer.1.symm, late.2.trans outer.2.symm⟩

/-- A note is scaled and copied, or copied and each copy scaled. -/
theorem apply_comm_scale_repeat :
    let moved := builtin.apply true (.text "repeat2".toList) .none [.note 1, .rest] (.ofSeed 0)
    let changed := builtin.apply true (.text "scale".toList) (.int 3) [.note 1, .rest] (.ofSeed 0)
    moved.sequence = [.note 1, .note 1, .rest, .rest] ∧ changed.sequence = [.note 3, .rest] ∧
      (builtin.apply true (.text "scale".toList) (.int 3) moved.sequence moved.source).sequence =
        [.note 3, .note 3, .rest, .rest] ∧
      (builtin.apply true (.text "repeat2".toList) .none changed.sequence changed.source).sequence =
        [.note 3, .note 3, .rest, .rest] := by
  have changes : (Value.text "scale".toList).Names valueTransforms :=
    ⟨⟨"scale".toList, none⟩, rfl, by decide⟩
  have moves : (Value.text "repeat2".toList).Names otherTransforms :=
    ⟨⟨"repeat".toList, some 2⟩, rfl, by decide⟩
  obtain ⟨same, -⟩ := apply_comm true changes moves (.int 3) .none [.note 1, .rest] (.ofSeed 0)
  exact ⟨rfl, rfl, rfl, same.symm⟩

end Registry

end StepPattern
