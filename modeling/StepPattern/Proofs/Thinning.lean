/-
# StepPattern.Proofs.Thinning -- thinning with one source and two percentages

A sequence is thinned note by note: each note draws one fraction and becomes a rest if
that is below the probability, and everything else is kept without a draw.  So with the
same source the same fractions decide about the same notes:

* with a larger percentage no rest becomes a note again, as the rounded quotients keep
  the order of the percentages (`apply_sparse_rises`);
* rests in between change neither the fractions nor the source that is left
  (`apply_sparse_notes_only`).

Where a percentage is too large for a double there is no probability, and the call
leaves the sequence as it is.  So the order ends there: 100 makes every note a rest, and
such a number none (`apply_sparse_not_rising`).
-/
import StepPattern.Proofs.Fractions
import StepPattern.Proofs.Quiet
import StepPattern.Proofs.RoundTrip

namespace StepPattern

set_option autoImplicit false

/-- A value with its note made a rest, if it is one. -/
def Value.silenced : Value → Value
  | .note _ => .rest
  | v => v

namespace Transform

open Twister

/-! ## One item after the other -/

section Items

variable (p : Double) (s : Sequence) (g : Twister)

/-- What is done so far only stands before what is still done. -/
theorem thin_eq (done : List Value) :
    thin p done s g = (done.reverse ++ (thin p [] s g).1, (thin p [] s g).2) := by
  induction s generalizing done g with
  | nil => simp [thin]
  | cons v s ih =>
      cases v with
      | note n =>
          simp only [thin]
          rw [ih _ (_ :: done), ih _ [_]]
          simp
      | _ =>
          simp only [thin]
          rw [ih _ (_ :: done), ih _ [_]]
          simp

theorem thin_note (n : Int) :
    thin p [] (.note n :: s) g =
      ((if isBelowDouble g.numerator.1 p then .rest else .note n) :: (thin p [] s g.numerator.2).1,
        (thin p [] s g.numerator.2).2) := by
  rw [thin]
  exact thin_eq p s g.numerator.2 [_]

/-- What is no note is kept, without a draw. -/
theorem thin_other {v : Value} (other : ∀ n, v ≠ .note n) :
    thin p [] (v :: s) g = (v :: (thin p [] s g).1, (thin p [] s g).2) := by
  cases v with
  | note n => exact absurd rfl (other n)
  | _ =>
      rw [thin, thin_eq]
      · rfl
      · exact other

end Items

/-! ## Two percentages -/

/-- Where every fraction that is below the one probability is below the other, every rest that comes
of the one comes of the other. -/
theorem thin_mono {p q : Double}
    (rises : ∀ numerator, isBelowDouble numerator p = true → isBelowDouble numerator q = true)
    (s : Sequence) (g : Twister) :
    List.Forall₂ (fun v w => v = .rest → w = .rest) (thin p [] s g).1 (thin q [] s g).1 := by
  induction s generalizing g with
  | nil => exact .nil
  | cons v s ih =>
      by_cases note : ∃ n, v = .note n
      · obtain ⟨n, rfl⟩ := note
        rw [thin_note, thin_note]
        refine .cons ?_ (ih _)
        split
        · rename_i below
          rw [if_pos (rises _ below)]
          exact id
        · intro same
          cases same
      · have other : ∀ n, v ≠ .note n := fun n same => note ⟨n, same⟩
        rw [thin_other p s g other, thin_other q s g other]
        exact .cons id (ih g)

/-- Where every fraction is below the probability, every note becomes a rest. -/
theorem thin_always {p : Double}
    (always : ∀ numerator < denominator, isBelowDouble numerator p = true) (s : Sequence)
    (g : Twister) : (thin p [] s g).1 = s.map Value.silenced := by
  induction s generalizing g with
  | nil => rfl
  | cons v s ih =>
      by_cases note : ∃ n, v = .note n
      · obtain ⟨n, rfl⟩ := note
        rw [thin_note, if_pos (always _ g.numerator_lt), ih]
        rfl
      · have other : ∀ n, v ≠ .note n := fun n same => note ⟨n, same⟩
        have kept : v.silenced = v := by
          cases v with
          | note n => exact absurd rfl (other n)
          | _ => rfl
        rw [thin_other p s g other, ih, List.map_cons, kept]

/-- Where no fraction is below the probability, everything is kept. -/
theorem thin_never {p : Double} (never : ∀ numerator, isBelowDouble numerator p = false)
    (s : Sequence) (g : Twister) : (thin p [] s g).1 = s := by
  induction s generalizing g with
  | nil => rfl
  | cons v s ih =>
      by_cases note : ∃ n, v = .note n
      · obtain ⟨n, rfl⟩ := note
        rw [thin_note, never, ih]
        rfl
      · have other : ∀ n, v ≠ .note n := fun n same => note ⟨n, same⟩
        rw [thin_other p s g other, ih]

/-! ## Rests in between -/

/-- The steps at the places where some others are notes. -/
def atNotes (places steps : List Step) : List Step :=
  ((places.zip steps).filter (·.1.isNote)).map (·.2)

theorem atNotes_self (steps : List Step) : atNotes steps steps = steps.filter Step.isNote := by
  induction steps with
  | nil => rfl
  | cons step steps ih =>
      cases step with
      | note n => exact congrArg (.note n :: ·) ih
      | rest => exact ih

/-- **Thinned steps** are as many, each of them kept or a rest.  What the notes among them become is
what they become without the rests, and so is the source that is left. -/
theorem exists_thinned (p : Double) (steps : List Step) (g : Twister) :
    ∃ result : List Step, (thin p [] (steps.map Step.toValue) g).1 = result.map Step.toValue ∧
      List.Forall₂ (fun before after => after = before ∨ after = .rest) steps result ∧
      thin p [] ((steps.filter Step.isNote).map Step.toValue) g =
        ((atNotes steps result).map Step.toValue, (thin p [] (steps.map Step.toValue) g).2) := by
  induction steps generalizing g with
  | nil => exact ⟨[], rfl, .nil, rfl⟩
  | cons step steps ih =>
      cases step with
      | note n =>
          obtain ⟨result, thinned, kept, alone⟩ := ih g.numerator.2
          simp only [List.map_cons, List.filter_cons, Step.isNote, if_true, Step.toValue, thin_note,
            thinned, alone]
          split
          · exact ⟨.rest :: result, rfl, .cons (.inr rfl) kept, rfl⟩
          · exact ⟨.note n :: result, rfl, .cons (.inl rfl) kept, rfl⟩
      | rest =>
          obtain ⟨result, thinned, kept, alone⟩ := ih g
          have silent : ∀ n, Value.rest ≠ .note n := fun n same => by cases same
          simp only [List.map_cons, List.filter_cons, Step.isNote, Bool.false_eq_true, if_false,
            Step.toValue, thin_other p _ g silent, thinned, alone]
          exact ⟨.rest :: result, rfl, .cons (.inl rfl) kept, rfl⟩

/-! ## Percentages as probabilities -/

/-- A natural number that a double can hold is rounded, and its hundredth is rounded again. -/
theorem probability_natCast {n : Nat} (fits : n < Double.leastTooLarge) :
    probability (.int n) = .ok (Double.round (Double.nearest n / 100)) := by
  have held : Double.round? n ≠ none := by
    rw [Ne, Double.round?_natCast_eq_none_iff_le]
    omega
  have nonnegative : (0 : Rat) ≤ n := Nat.cast_nonneg n
  have small : ¬Double.overflowBound ≤ Double.nearest n := by
    intro large
    rw [Double.round?, Double.round_of_nonneg nonnegative, if_pos large] at held
    exact held rfl
  have rounded : Double.round? n = some (.finite (Double.nearest n)) := by
    rw [Double.round?, Double.round_of_nonneg nonnegative, if_neg small]
  rw [probability_int, Number.doubleOf, Int.cast_natCast, rounded]
  simp only [Except.map, Double.divNat]
  split
  · rename_i zero
    rw [zero, zero_div]
    rfl
  · rfl

/-- No fraction is below the probability of a percentage that is not positive. -/
theorem isBelowDouble_probability_nonpos {n : Int} (nonpositive : n ≤ 0) {p : Double}
    (computed : probability (.int n) = .ok p) (numerator : Nat) :
    isBelowDouble numerator p = false := by
  rw [probability_int, Number.doubleOf, Double.round?] at computed
  rcases Double.round_of_nonpos (Int.cast_nonpos.2 nonpositive) with
    least | zero | ⟨r, small, finite⟩
  · rw [least] at computed
    cases computed
  · rw [zero] at computed
    cases computed
    rfl
  · rw [finite] at computed
    cases computed
    simp only [Double.divNat]
    split
    · exact isBelow_nonpos le_rfl numerator
    · refine isBelowDouble_round_nonpos ?_ numerator
      exact div_nonpos_of_nonpos_of_nonneg small (by norm_num)

/-- A fraction that is below the probability of one percentage is below that of every larger one. -/
theorem isBelowDouble_probability_mono {m n : Nat} (le : m ≤ n) (fits : n < Double.leastTooLarge)
    {p q : Double} (one : probability (.int m) = .ok p) (two : probability (.int n) = .ok q)
    {numerator : Nat} (below : isBelowDouble numerator p = true) :
    isBelowDouble numerator q = true := by
  rw [probability_natCast (by omega)] at one two
  cases one
  cases two
  have nonnegative : (0 : Rat) ≤ m := Nat.cast_nonneg m
  have ordered : (m : Rat) ≤ n := by exact_mod_cast le
  refine isBelowDouble_round_mono ?_ ?_ below
  · exact div_nonneg (Double.nearest_nonneg nonnegative) (by norm_num)
  · exact div_le_div_of_nonneg_right (Double.nearest_mono nonnegative ordered) (by norm_num)

/-- Every fraction is below the probability of a hundred percent and more. -/
theorem isBelowDouble_probability_hundred {n : Nat} (most : 100 ≤ n)
    (fits : n < Double.leastTooLarge) {p : Double} (computed : probability (.int n) = .ok p)
    {numerator : Nat} (below : numerator < denominator) : isBelowDouble numerator p = true := by
  rw [probability_natCast fits] at computed
  cases computed
  have hundred : Double.nearest 100 = 100 :=
    Double.nearest_intCast (m := 100) (by norm_num)
  have ordered : (100 : Rat) ≤ n := by exact_mod_cast most
  have rounded := Double.nearest_mono (by norm_num) ordered
  rw [hundred] at rounded
  have certain : isBelowDouble numerator (Double.round 1) = true := by
    rw [isBelowDouble_round_iff zero_le_one, Double.nearest_one]
    exact .inr (fraction_lt_one below)
  refine isBelowDouble_round_mono zero_le_one ?_ certain
  linarith

end Transform

namespace Registry

open Transform

/-! ## Calls -/

section Calls

variable (loud : Bool) {percent : Int} (s : Sequence) (g : Twister)

theorem apply_sparse_of_ok {p : Double} (computed : probability (.int percent) = .ok p) :
    builtin.apply loud (.text "sparse".toList) (.int percent) s g =
      ⟨(thin p [] s g).1, [], (thin p [] s g).2⟩ := by
  have called : builtin.apply loud (.text "sparse".toList) (.int percent) s g =
      run (.defaulting 50 sparse) loud "sparse".toList (.int percent) s g := rfl
  rw [called, run]
  simp only [parameter, Definition.defaulting, sparse, computed]

theorem apply_sparse_of_error {fault : Fault}
    (failed : probability (.int percent) = .error fault) :
    builtin.apply loud (.text "sparse".toList) (.int percent) s g =
      ⟨s, [faultEntry loud "sparse".toList fault], g⟩ := by
  have called : builtin.apply loud (.text "sparse".toList) (.int percent) s g =
      run (.defaulting 50 sparse) loud "sparse".toList (.int percent) s g := rfl
  rw [called, run]
  simp only [parameter, Definition.defaulting, sparse, failed]

theorem apply_sparse_nonpos (nonpositive : percent ≤ 0) :
    (builtin.apply loud (.text "sparse".toList) (.int percent) s g).sequence = s := by
  cases computed : probability (.int percent) with
  | error fault => rw [apply_sparse_of_error loud s g computed]
  | ok p =>
      rw [apply_sparse_of_ok loud s g computed]
      exact thin_never (isBelowDouble_probability_nonpos nonpositive computed) s g

/-- A rest stays one with every percentage. -/
theorem apply_sparse_keeps_rests :
    List.Forall₂ (fun v w => v = .rest → w = .rest) s
      (builtin.apply loud (.text "sparse".toList) (.int percent) s g).sequence := by
  cases computed : probability (.int percent) with
  | error fault =>
      rw [apply_sparse_of_error loud s g computed]
      exact List.forall₂_same.2 fun _ _ => id
  | ok p =>
      -- Keeping everything is thinning with a probability that no fraction is below.
      rw [apply_sparse_of_ok loud s g computed]
      have kept := thin_never (p := .negativeZero) (fun _ => rfl) s g
      conv => arg 2; rw [← kept]
      exact thin_mono (fun _ below => by cases below) s g

/-- With a larger percentage that a double can hold, no rest becomes a note again. -/
theorem apply_sparse_mono {larger : Int} (le : percent ≤ larger)
    (fits : larger < Double.leastTooLarge) :
    List.Forall₂ (fun v w => v = .rest → w = .rest)
      (builtin.apply loud (.text "sparse".toList) (.int percent) s g).sequence
      (builtin.apply loud (.text "sparse".toList) (.int larger) s g).sequence := by
  rcases le_or_gt percent 0 with nonpositive | positive
  · rw [apply_sparse_nonpos loud s g nonpositive]
    exact apply_sparse_keeps_rests loud s g
  · lift percent to Nat using positive.le
    lift larger to Nat using positive.le.trans le
    have one := probability_natCast (n := percent) (by omega)
    have two := probability_natCast (n := larger) (by omega)
    rw [apply_sparse_of_ok loud s g one, apply_sparse_of_ok loud s g two]
    exact thin_mono (fun _ => isBelowDouble_probability_mono (by omega) (by omega) one two) s g

/-- From a hundred percent on every note becomes a rest. -/
theorem apply_sparse_hundred (most : 100 ≤ percent) (fits : percent < Double.leastTooLarge) :
    (builtin.apply loud (.text "sparse".toList) (.int percent) s g).sequence =
      s.map Value.silenced := by
  lift percent to Nat using by omega
  have computed := probability_natCast (n := percent) (by omega)
  rw [apply_sparse_of_ok loud s g computed]
  exact thin_always
    (fun _ => isBelowDouble_probability_hundred (by omega) (by omega) computed) s g

/-- A percentage that is too large for a double is refused. -/
theorem apply_sparse_tooLarge (large : Double.leastTooLarge ≤ percent) :
    builtin.apply loud (.text "sparse".toList) (.int percent) s g =
      ⟨s, [faultEntry loud "sparse".toList .tooLarge], g⟩ := by
  lift percent to Nat using le_trans (Int.natCast_nonneg _) large
  have failed : probability (.int percent) = .error .tooLarge := by
    rw [probability_int, Int.cast_natCast,
      (Number.doubleOf_natCast_eq_error_iff percent .tooLarge).2 ⟨by omega, rfl⟩]
    rfl
  exact apply_sparse_of_error loud s g failed

end Calls

/-- **Raising the percentage never brings a note back**, as long as a double can hold it.  With the
same source every rest that comes of one percentage comes of every larger one, and from a hundred on
every note becomes a rest.  A percentage that is too large for a double leaves the sequence and the
source as they are. -/
theorem apply_sparse_rises (loud : Bool) (s : Sequence) (g : Twister) :
    let thinned := fun percent : Int =>
      builtin.apply loud (.text "sparse".toList) (.int percent) s g
    (∀ m n : Int, m ≤ n → n < Double.leastTooLarge →
      List.Forall₂ (fun v w => v = .rest → w = .rest) (thinned m).sequence (thinned n).sequence) ∧
    (∀ n : Int, 100 ≤ n → n < Double.leastTooLarge →
      (thinned n).sequence = s.map Value.silenced) ∧
    ∀ n : Int, Double.leastTooLarge ≤ n →
      thinned n = ⟨s, [faultEntry loud "sparse".toList .tooLarge], g⟩ := by
  intro thinned
  exact ⟨fun m n le fits => apply_sparse_mono loud s g le fits,
    fun n most fits => apply_sparse_hundred loud s g most fits,
    fun n large => apply_sparse_tooLarge loud s g large⟩

/-- Half and all of the notes, and a percentage beyond the doubles. -/
theorem apply_sparse_rises_to_hundred :
    ((50 : Int) ≤ 100 ∧ (100 : Int) < Double.leastTooLarge ∧
      List.Forall₂ (fun v w => v = .rest → w = .rest)
        (builtin.apply true (.text "sparse".toList) (.int 50) [.note 1, .rest, .note (-2)]
          (.ofSeed 7)).sequence
        (builtin.apply true (.text "sparse".toList) (.int 100) [.note 1, .rest, .note (-2)]
          (.ofSeed 7)).sequence) ∧
    (builtin.apply true (.text "sparse".toList) (.int 100) [.note 1, .rest, .note (-2)]
        (.ofSeed 7)).sequence = [.rest, .rest, .rest] ∧
      builtin.apply true (.text "sparse".toList) (.int Double.leastTooLarge)
        [.note 1, .rest, .note (-2)] (.ofSeed 7) =
          ⟨[.note 1, .rest, .note (-2)], [faultEntry true "sparse".toList .tooLarge], .ofSeed 7⟩ := by
  have fits : (100 : Int) < Double.leastTooLarge := by decide +kernel
  obtain ⟨rises, hundred, tooLarge⟩ :=
    apply_sparse_rises true [.note 1, .rest, .note (-2)] (.ofSeed 7)
  exact ⟨⟨by decide, fits, rises 50 100 (by decide) fits⟩, hundred 100 (by decide) fits,
    tooLarge _ le_rfl⟩

/-- It brings notes back where the larger percentage is too large for a double. -/
theorem apply_sparse_not_rising :
    ¬∀ (loud : Bool) (m n : Int) (s : Sequence) (g : Twister), m ≤ n →
      List.Forall₂ (fun v w => v = .rest → w = .rest)
        (builtin.apply loud (.text "sparse".toList) (.int m) s g).sequence
        (builtin.apply loud (.text "sparse".toList) (.int n) s g).sequence := by
  intro rises
  have fits : (100 : Int) < Double.leastTooLarge := by decide +kernel
  have law := rises true 100 Double.leastTooLarge [.note 1] (.ofSeed 0) fits.le
  rw [apply_sparse_hundred _ _ _ le_rfl fits, apply_sparse_tooLarge _ _ _ le_rfl] at law
  cases law with
  | cons back _ => exact absurd (back rfl) (by simp)

/-! ## Draws for notes only -/

/-- **Only notes draw.**  Whatever the percentage is, a thinned sequence has as many steps, each of
them kept or a rest, and is the sequence itself where the percentage is not positive.  Rests do not
shift the choices: what the notes become, and the source that is left, are the same without the
rests. -/
theorem apply_sparse_notes_only (loud : Bool) (percent : Int) (steps : List Step) (g : Twister) :
    let thinned := fun steps : List Step =>
      builtin.apply loud (.text "sparse".toList) (.int percent) (steps.map Step.toValue) g
    ∃ result : List Step, (thinned steps).sequence = result.map Step.toValue ∧
      List.Forall₂ (fun before after => after = before ∨ after = .rest) steps result ∧
      (percent ≤ 0 → result = steps) ∧
      (thinned (steps.filter Step.isNote)).sequence =
        (atNotes steps result).map Step.toValue ∧
      (thinned (steps.filter Step.isNote)).source = (thinned steps).source := by
  intro thinned
  cases computed : probability (.int percent) with
  | error fault =>
      simp only [thinned, apply_sparse_of_error loud _ g computed]
      refine ⟨steps, rfl, ?_, fun _ => rfl, by rw [atNotes_self], trivial⟩
      exact List.forall₂_same.2 fun _ _ => .inl rfl
  | ok p =>
      obtain ⟨result, same, kept, alone⟩ := exists_thinned p steps g
      simp only [thinned, apply_sparse_of_ok loud _ g computed, alone]
      refine ⟨result, same, kept, fun nonpositive => ?_, rfl, trivial⟩
      have never := isBelowDouble_probability_nonpos nonpositive computed
      rw [thin_never never] at same
      exact (List.map_injective_iff.2 (fun _ _ => Step.toValue_injective) same).symm

/-- Notes between rests, with nothing to be thinned out. -/
theorem apply_sparse_notes_only_zero :
    (0 : Int) ≤ 0 ∧
      (builtin.apply true (.text "sparse".toList) (.int 0)
        [.note 1, .rest, .note 2, .rest] (.ofSeed 9)).sequence =
          [.note 1, .rest, .note 2, .rest] ∧
      (builtin.apply true (.text "sparse".toList) (.int 0) [.note 1, .note 2]
        (.ofSeed 9)).sequence = [.note 1, .note 2] := by
  obtain ⟨result, same, -, nothing, alone, -⟩ :=
    apply_sparse_notes_only true 0 [.note 1, .rest, .note 2, .rest] (.ofSeed 9)
  obtain rfl := nothing le_rfl
  exact ⟨le_rfl, same, alone⟩

end Registry

end StepPattern
