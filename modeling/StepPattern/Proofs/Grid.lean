/-
# StepPattern.Proofs.Grid -- notes go to the nearest multiple of a grid

Which multiple of a grid is nearest to a note, a half going up, can be said without a
division (`NearestMultiple`): it lies less than half a grid below the note, or at most
half a grid above it.  Two multiples are a whole grid apart, so there is only one, and
the formula of `Transform.snap` is it.

The laws follow from these bounds and not from the formula (`apply_quantize_nearest`):
the order of the notes is kept, a multiple is nearest to itself, the sign of the grid
has no part in it, and a note moved by whole grids goes to the multiple moved as far.
-/
import Mathlib.Algebra.Order.Group.Int
import Mathlib.Tactic.Ring
import StepPattern.Proofs.Rhythm

namespace StepPattern

set_option autoImplicit false

/-- `NearestMultiple grid v q`: of the multiples of a grid, `q` is nearest to `v`; where two are as
near, it is the upper one. -/
structure NearestMultiple (grid v q : Int) : Prop where
  dvd : grid ∣ q
  below : 2 * v - grid < 2 * q
  above : 2 * q ≤ 2 * v + grid

namespace NearestMultiple

variable {grid v w q r : Int}

/-- A note that is not lower goes to a multiple that is not lower. -/
theorem mono (first : NearestMultiple grid v q) (second : NearestMultiple grid w r) (le : v ≤ w) :
    q ≤ r := by
  by_contra lower
  have apart : grid ≤ q - r := Int.le_of_dvd (by omega) (Int.dvd_sub first.dvd second.dvd)
  have above := first.above
  have below := second.below
  omega

theorem unique (first : NearestMultiple grid v q) (second : NearestMultiple grid v r) : q = r :=
  le_antisymm (first.mono second le_rfl) (second.mono first le_rfl)

theorem self (positive : 0 < grid) (multiple : grid ∣ q) : NearestMultiple grid q q where
  dvd := multiple
  below := by omega
  above := by omega

/-- The nearest multiple moves along with whole grids. -/
theorem shift (nearest : NearestMultiple grid v q) (k : Int) :
    NearestMultiple grid (v + k * grid) (q + k * grid) where
  dvd := Int.dvd_add nearest.dvd (Int.dvd_mul_left k grid)
  below := by
    have := nearest.below
    omega
  above := by
    have := nearest.above
    omega

end NearestMultiple

namespace Transform

variable {grid : Nat}

/-- The formula gives the nearest multiple. -/
theorem nearestMultiple_snap (positive : 0 < grid) (v : Int) :
    NearestMultiple grid v (snap grid v) := by
  have wide : 0 < 2 * (grid : Int) := by omega
  have whole := Int.mul_ediv_add_emod (2 * v + grid) (2 * grid)
  have least := Int.emod_nonneg (2 * v + grid) wide.ne'
  have most := Int.emod_lt_of_pos (2 * v + grid) wide
  have doubled : 2 * snap grid v = 2 * grid * ((2 * v + grid) / (2 * grid)) := by
    rw [snap, Int.fdiv_eq_ediv_of_nonneg _ wide.le]
    ring
  exact ⟨dvd_mul_left _ _, by omega, by omega⟩

theorem snap_eq_iff (positive : 0 < grid) {v q : Int} :
    snap grid v = q ↔ NearestMultiple grid v q := by
  have nearest := nearestMultiple_snap positive v
  constructor
  · rintro rfl
    exact nearest
  · exact nearest.unique

theorem mapNotes_mapNotes (f f' : Int → Int) (s : Sequence) :
    mapNotes f (mapNotes f' s) = mapNotes (f ∘ f') s := by
  rw [mapNotes, mapNotes, List.map_map]
  congr 1
  funext v
  cases v <;> rfl

end Transform

namespace Registry

open Transform

theorem apply_quantize (loud : Bool) {grid : Int} (nonzero : grid ≠ 0) (s : Sequence)
    (g : Twister) :
    builtin.apply loud (.text "quantize".toList) (.int grid) s g =
      ⟨mapNotes (snap grid.natAbs) s, [], g⟩ := by
  have called : builtin.apply loud (.text "quantize".toList) (.int grid) s g =
      run (.requiring quantizeBy) loud "quantize".toList (.int grid) s g := rfl
  have snapped : quantizeBy (.int grid) s = quantize grid s := rfl
  rw [called, run]
  simp only [parameter, Definition.requiring, snapped, quantize, if_neg nonzero]

/-- **Quantizing rounds to the nearest multiple**, halves up.  With any grid but zero every note goes
to the one multiple that is nearest; so the order of notes is kept, quantizing again changes
nothing, the opposite grid does the same, and notes moved by whole grids go to multiples moved as
far.  Everything else stays in its place, and nothing is logged or drawn. -/
theorem apply_quantize_nearest {grid : Int} (nonzero : grid ≠ 0) :
    let nearest := snap grid.natAbs
    (∀ v q, nearest v = q ↔ NearestMultiple |grid| v q) ∧
    (∀ v w, v ≤ w → nearest v ≤ nearest w) ∧
    (∀ v, nearest (nearest v) = nearest v) ∧
    (∀ v k, nearest (v + k * |grid|) = nearest v + k * |grid|) ∧
    ∀ (loud : Bool) (s : Sequence) (g : Twister),
      let quantized := builtin.apply loud (.text "quantize".toList) (.int grid) s g
      quantized = ⟨mapNotes nearest s, [], g⟩ ∧
      builtin.apply loud (.text "quantize".toList) (.int (-grid)) s g = quantized ∧
      builtin.apply loud (.text "quantize".toList) (.int grid) quantized.sequence g = quantized ∧
      ∀ i : Nat, quantized.sequence[i]? = some .rest ↔ s[i]? = some .rest := by
  have positive : 0 < grid.natAbs := Int.natAbs_pos.2 nonzero
  have size : |grid| = (grid.natAbs : Int) := Int.abs_eq_natAbs grid
  have again : ∀ v, snap grid.natAbs (snap grid.natAbs v) = snap grid.natAbs v := fun v =>
    (snap_eq_iff positive).2 (.self (by omega) (nearestMultiple_snap positive v).dvd)
  intro nearest
  refine ⟨?unique, ?order, again, ?moved, ?sequences⟩
  case unique =>
    intro v q
    rw [size]
    exact snap_eq_iff positive
  case order =>
    intro v w le
    exact (nearestMultiple_snap positive v).mono (nearestMultiple_snap positive w) le
  case moved =>
    intro v k
    rw [size]
    exact (snap_eq_iff positive).2 ((nearestMultiple_snap positive v).shift k)
  case sequences =>
    intro loud s g quantized
    have done : quantized = ⟨mapNotes nearest s, [], g⟩ := apply_quantize loud nonzero s g
    refine ⟨done, ?_, ?_, ?_⟩
    · rw [done, apply_quantize loud (neg_ne_zero.2 nonzero), Int.natAbs_neg]
    · have twice : nearest ∘ nearest = nearest := funext again
      rw [done, apply_quantize loud nonzero, mapNotes_mapNotes, twice]
    · rw [done]
      exact rest_iff_of_rhythm (rhythm_mapNotes nearest s)

/-- Halves above and below zero, with a grid below zero. -/
theorem apply_quantize_nearest_halves :
    (-4 : Int) ≠ 0 ∧ snap 4 (-2) ≤ snap 4 2 ∧
      builtin.apply true (.text "quantize".toList) (.int (-4)) [.note 2, .rest, .note (-2)]
        (.ofSeed 0) = ⟨[.note 4, .rest, .note 0], [], .ofSeed 0⟩ ∧
      builtin.apply true (.text "quantize".toList) (.int 4) [.note 2, .rest, .note (-2)]
        (.ofSeed 0) = ⟨[.note 4, .rest, .note 0], [], .ofSeed 0⟩ := by
  obtain ⟨unique, order, -, -, sequences⟩ :=
    apply_quantize_nearest (show (-4 : Int) ≠ 0 by decide)
  obtain ⟨done, opposite, -⟩ := sequences true [.note 2, .rest, .note (-2)] (.ofSeed 0)
  have up : snap 4 2 = 4 := (unique 2 4).2 ⟨by decide, by decide, by decide⟩
  have zero : snap 4 (-2) = 0 := (unique (-2) 0).2 ⟨by decide, by decide, by decide⟩
  have notes : mapNotes (snap 4) [.note 2, .rest, .note (-2)] = [.note 4, .rest, .note 0] := by
    simp only [mapNotes, List.map_cons, List.map_nil, Value.mapNote, up, zero]
  have result := done.trans (congrArg (fun t => (⟨t, [], .ofSeed 0⟩ : Outcome)) notes)
  exact ⟨by decide, order (-2) 2 (by decide), result, opposite.trans result⟩

end Registry

end StepPattern
