/-
# StepPattern.Proofs.Rotation -- a sequence as a ring

Rotating takes a sequence for a ring and begins it at another place; reversing goes
around it the other way.  A rotation depends on its places modulo the length alone, so
it is a rotation by a natural number (`Transform.rotate_eq_of_emod_eq`), and the laws of
`List.rotate` give those of a ring: places add up, a whole round is none, and turning
around turns the places around too (`apply_rotate_ring`).
-/
import Mathlib.Data.List.Rotate
import StepPattern.Proofs.Limits

namespace StepPattern

set_option autoImplicit false

namespace Transform

variable {s : Sequence} {places : Int}

/-- A rotation is one by any natural number that is the same around the ring. -/
theorem rotate_eq_of_emod_eq {n : Nat} (same : (n : Int) % s.length = places % s.length) :
    rotate places s = List.rotate s n := by
  unfold rotate
  split
  · rcases s with _ | ⟨v, _ | ⟨w, s⟩⟩
    · rw [List.rotate_nil]
    · rw [List.rotate_singleton]
    · rename_i short
      simp only [List.length_cons] at short
      omega
  · have shift : (places.emod s.length).toNat = n % s.length := by
      show (places % s.length).toNat = n % s.length
      rw [← same]
      omega
    rw [List.rotate_eq_drop_append_take_mod, shift]

/-- There is such a number where the ring has any places at all. -/
theorem exists_emod_eq (nonempty : s ≠ []) (places : Int) :
    ∃ n : Nat, (n : Int) % s.length = places % s.length := by
  have positive : 0 < s.length := List.length_pos_iff.2 nonempty
  have least : 0 ≤ places % s.length := Int.emod_nonneg places (by omega)
  exact ⟨(places % s.length).toNat, by rw [Int.toNat_of_nonneg least, Int.emod_emod]⟩

theorem rotate_rotate (p q : Int) (s : Sequence) : rotate q (rotate p s) = rotate (p + q) s := by
  rcases eq_or_ne s [] with rfl | nonempty
  · rfl
  obtain ⟨m, first⟩ := exists_emod_eq nonempty p
  obtain ⟨n, second⟩ := exists_emod_eq nonempty q
  have both : ((m + n : Nat) : Int) % s.length = (p + q) % s.length := by
    rw [Int.natCast_add, Int.add_emod, first, second, ← Int.add_emod]
  have around : (n : Int) % (List.rotate s m).length = q % (List.rotate s m).length := by
    rwa [List.length_rotate]
  rw [rotate_eq_of_emod_eq first, rotate_eq_of_emod_eq around, List.rotate_rotate,
    rotate_eq_of_emod_eq both]

/-- Whole rounds change nothing. -/
theorem rotate_of_dvd (whole : (s.length : Int) ∣ places) : rotate places s = s := by
  have none : ((0 : Nat) : Int) % s.length = places % s.length := by
    rw [Int.emod_eq_zero_of_dvd whole]
    rfl
  rw [rotate_eq_of_emod_eq none, List.rotate_zero]

theorem getElem?_rotate (places : Int) {i : Nat} (within : i < s.length) :
    (rotate places s)[i]? = s[((i + places) % s.length).toNat]? := by
  have nonempty : s ≠ [] := List.ne_nil_of_length_pos (Nat.zero_lt_of_lt within)
  obtain ⟨n, same⟩ := exists_emod_eq nonempty places
  have place : ((i + places) % s.length).toNat = (i + n) % s.length := by
    rw [Int.add_emod, ← same, ← Int.add_emod, ← Int.natCast_add, ← Int.natCast_emod,
      Int.toNat_natCast]
  rw [rotate_eq_of_emod_eq same, List.getElem?_rotate within, place]

/-- Turning a ring around turns its rotations around. -/
theorem reverse_rotate (places : Int) (s : Sequence) :
    (rotate places s).reverse = rotate (-places) s.reverse := by
  rcases eq_or_ne s [] with rfl | nonempty
  · rfl
  obtain ⟨n, same⟩ := exists_emod_eq nonempty places
  have opposite : ((s.length - n % s.length : Nat) : Int) % s.reverse.length =
      -places % s.reverse.length := by
    have below := Nat.mod_lt n (List.length_pos_iff.2 nonempty)
    have rounds : (s.length : Int) - places % s.length =
        -places + s.length * (1 + places / s.length) := by
      have whole := Int.mul_ediv_add_emod places s.length
      rw [Int.mul_add]
      omega
    rw [List.length_reverse, Int.natCast_sub below.le, Int.natCast_emod, same, rounds,
      Int.add_mul_emod_self_left]
  rw [rotate_eq_of_emod_eq same, List.reverse_rotate, rotate_eq_of_emod_eq opposite]

end Transform

namespace Registry

open Transform

/-- **Rotations and reversals are the symmetries of a ring.**  Places add up, whole rounds change
nothing, the step at a place is the one so many places on around the ring, and to reverse after a
rotation is to rotate the other way after reversing.  Neither is ever refused, and neither
draws. -/
theorem apply_rotate_ring (loud : Bool) (s : Sequence) (g : Twister) :
    let rotated := fun (places : Int) (s : Sequence) =>
      builtin.apply loud (.text "rotate".toList) (.int places) s g
    let reversed := fun s : Sequence => builtin.apply loud (.text "reverse".toList) .none s g
    (∀ p q, rotated q (rotated p s).sequence = rotated (p + q) s) ∧
    (∀ p, (s.length : Int) ∣ p ∨ s.length ≤ 1 → rotated p s = ⟨s, [], g⟩) ∧
    (∀ p, ∃ t, rotated p s = ⟨t, [], g⟩ ∧ t.length = s.length ∧
      ∀ i < s.length, t[i]? = s[((i + p) % s.length).toNat]?) ∧
    reversed s = ⟨s.reverse, [], g⟩ ∧
    ∀ p, reversed (rotated p s).sequence = rotated (-p) (reversed s).sequence := by
  intro rotated reversed
  have turned : ∀ p t, rotated p t = ⟨rotate p t, [], g⟩ := fun p t => rfl
  have backwards : ∀ t, reversed t = ⟨t.reverse, [], g⟩ := fun t => rfl
  simp only [turned, backwards]
  refine ⟨fun p q => ?sum, fun p => ?round, fun p => ?places, trivial, fun p => ?back⟩
  case sum => rw [rotate_rotate]
  case round =>
    rintro (whole | short)
    · rw [rotate_of_dvd whole]
    · rw [rotate, if_pos short]
  case places =>
    exact ⟨_, rfl, length_rotate p s, fun i within => getElem?_rotate p within⟩
  case back => rw [reverse_rotate]

/-- Two rounds backwards, and one place more than a round. -/
theorem apply_rotate_ring_rounds :
    (3 : Int) ∣ -6 ∧
      builtin.apply true (.text "rotate".toList) (.int (-6)) [.note 1, .rest, .note 3] (.ofSeed 0) =
        ⟨[.note 1, .rest, .note 3], [], .ofSeed 0⟩ ∧
      2 < 3 ∧ ∃ t, builtin.apply true (.text "rotate".toList) (.int 4)
          [.note 1, .rest, .note 3] (.ofSeed 0) = ⟨t, [], .ofSeed 0⟩ ∧
        t.length = 3 ∧ t[2]? = some (.note 1) := by
  obtain ⟨-, round, places, -⟩ :=
    apply_rotate_ring true [.note 1, .rest, .note 3] (.ofSeed 0)
  obtain ⟨t, turned, length, place⟩ := places 4
  have whole : (3 : Int) ∣ -6 := by decide
  exact ⟨whole, round (-6) (.inl whole), by decide, t, turned, length, place 2 (by decide)⟩

end Registry

end StepPattern
