/-
# StepPattern.Proofs.LooseValues -- the steps that loose values stand for

Which step a loose value stands for is a relation (`StandsFor`), one case for each way of
being read: a step stands for itself, a finite real number for the note that is left of it
without its fraction, a text for the note of the numeral that it is, and everything else
for a rest.  A value is read as the one step it stands for.

Only one kind of value is not read at all.  A fraction is tried as a double before it is
cut to a whole number, so a fraction that no double can hold is refused
(`Step.ofValue_eq_error_iff`), although integers of that size are read.  A list of values
is read value by value, and its steps are read as themselves (`normalize_exact`).
-/
import StepPattern.Proofs.Doubles
import StepPattern.Proofs.Steps

namespace StepPattern

set_option autoImplicit false

open Text

/-! ## Numbers cut to whole ones -/

/-- `Truncates q n`: `n` is the whole number next to `q` on the side of zero. -/
structure Truncates (q : Rat) (n : Int) : Prop where
  of_nonneg : 0 ≤ q → n = ⌊q⌋
  of_nonpos : q ≤ 0 → n = ⌈q⌉

theorem Truncates.unique {q : Rat} {m n : Int} (first : Truncates q m) (second : Truncates q n) :
    m = n := by
  rcases le_total 0 q with nonneg | nonpos
  · rw [first.of_nonneg nonneg, second.of_nonneg nonneg]
  · rw [first.of_nonpos nonpos, second.of_nonpos nonpos]

theorem truncate_neg (q : Rat) : truncate (-q) = -truncate q := by
  rw [truncate, truncate, Rat.neg_num, Rat.neg_den, Int.neg_tdiv]

theorem truncate_intCast (n : Int) : truncate n = n := by
  rw [truncate, Rat.num_intCast, Rat.den_intCast, Nat.cast_one, Int.tdiv_one]

theorem truncate_of_nonneg {q : Rat} (nonneg : 0 ≤ q) : truncate q = ⌊q⌋ := by
  rw [truncate, Int.tdiv_eq_ediv_of_nonneg (Rat.num_nonneg.2 nonneg), Rat.floor_def']

theorem truncates_truncate (q : Rat) : Truncates q (truncate q) where
  of_nonneg := truncate_of_nonneg
  of_nonpos nonpos := by
    rw [← neg_neg q, truncate_neg, truncate_of_nonneg (neg_nonneg.2 nonpos), Int.ceil_neg]

/-! ## Single values -/

/-- The number that a value is, if it is a finite real one.  Truth values do not count as numbers,
and decimals not as real ones. -/
def Value.real? : Value → Option Rat
  | int n => some n
  | double d => d.toRat?
  | fraction q => some q
  | _ => Option.none

/-- Whether a value is a fraction that no double can hold. -/
def Value.Oversized : Value → Prop
  | fraction q => (Double.leastTooLarge : Rat) ≤ |q|
  | _ => False

/-- `StandsFor restSymbol v step`: a loose value stands for a step.  A text is taken without the
whitespace at its ends, and as the rest symbol before it is taken as a numeral. -/
inductive StandsFor (restSymbol : Text) : Value → Step → Prop where
  | step {v : Value} {step : Step} (same : v.step? = some step) : StandsFor restSymbol v step
  | number {v : Value} {q : Rat} {n : Int} (real : v.real? = some q) (cut : Truncates q n) :
      StandsFor restSymbol v (.note n)
  | numeral {t : Text} {n : Int} (sounds : strip t ≠ restSymbol)
      (numeral : Grammar.Numeral (strip t) n) : StandsFor restSymbol (.text t) (.note n)
  | other {v : Value} (noStep : v.step? = none) (noNumber : v.real? = none)
      (noNumeral : ∀ t, v = .text t →
        strip t = restSymbol ∨ ∀ n, ¬Grammar.Numeral (strip t) n) :
      StandsFor restSymbol v .rest

section

variable {restSymbol : Text} {v : Value} {step : Step}

/-- A step stands for itself only. -/
theorem standsFor_of_step {same : Step} (isStep : v.step? = some same) :
    StandsFor restSymbol v step ↔ step = same := by
  have noNumber : v.real? = none := by cases v <;> first | rfl | cases isStep
  constructor
  · intro stands
    cases stands with
    | step other => exact Option.some.inj (other.symm.trans isStep)
    | number real => rw [noNumber] at real; cases real
    | numeral => cases isStep
    | other noStep => rw [isStep] at noStep; cases noStep
  · rintro rfl
    exact .step isStep

/-- A finite real number stands for the note that is left of it, and for nothing else. -/
theorem standsFor_of_real {q : Rat} (real : v.real? = some q) :
    StandsFor restSymbol v step ↔ step = .note (truncate q) := by
  have noStep : v.step? = none := by cases v <;> first | rfl | cases real
  constructor
  · intro stands
    cases stands with
    | step same => rw [noStep] at same; cases same
    | number other cut =>
        obtain rfl := Option.some.inj (real.symm.trans other)
        rw [cut.unique (truncates_truncate q)]
    | numeral => cases real
    | other _ noNumber => rw [real] at noNumber; cases noNumber
  · rintro rfl
    exact .number real (truncates_truncate q)

/-- A value that is no step, no number and no text stands for a rest only. -/
theorem standsFor_of_none (noStep : v.step? = none) (noNumber : v.real? = none)
    (noText : ∀ t, v ≠ .text t) : StandsFor restSymbol v step ↔ step = .rest := by
  constructor
  · intro stands
    cases stands with
    | step same => rw [noStep] at same; cases same
    | number real => rw [noNumber] at real; cases real
    | numeral => exact absurd rfl (noText _)
    | other => rfl
  · rintro rfl
    exact .other noStep noNumber fun t same => absurd same (noText t)

end

namespace Step

variable {restSymbol : Text} {v : Value} {step : Step}

theorem ofText_eq_iff {t : Text} :
    ofText restSymbol t = step ↔ StandsFor restSymbol (.text t) step := by
  constructor
  · rintro rfl
    unfold ofText
    simp only
    split
    case isTrue silent =>
      exact .other rfl rfl fun _ same => .inl (by cases same; exact silent)
    case isFalse sounds =>
      split
      case h_1 n read => exact .numeral sounds (Grammar.numeral_iff.2 read)
      case h_2 unread =>
        refine .other rfl rfl fun u same => .inr fun n numeral => ?_
        cases same
        rw [Grammar.numeral_iff.1 numeral] at unread
        cases unread
  · intro stands
    cases stands with
    | step same => cases same
    | number real => cases real
    | numeral sounds numeral =>
        simp only [ofText, if_neg sounds, Grammar.numeral_iff.1 numeral]
    | other _ _ noNumeral =>
        rcases noNumeral t rfl with silent | unread
        · simp only [ofText, if_pos silent]
        · have unread : numeralValue? (strip t) = none :=
            Option.eq_none_iff_forall_ne_some.2 fun n read => unread n (Grammar.numeral_iff.2 read)
          simp only [ofText, unread, ite_self]

/-- A value is refused only if it is a fraction that no double can hold. -/
theorem ofValue_eq_error_iff {fault : Fault} :
    ofValue restSymbol v = .error fault ↔ v.Oversized ∧ fault = .tooLarge := by
  cases v with
  | fraction q =>
      rw [Value.Oversized, ← Number.doubleOf_eq_error_iff, ofValue]
      cases Number.doubleOf q <;> simp [bind, Except.bind, pure, Except.pure]
  | _ => simp [ofValue, Value.Oversized]

/-- **A value is read as the step that it stands for**, if it is not refused. -/
theorem ofValue_eq_ok_iff :
    ofValue restSymbol v = .ok step ↔ ¬v.Oversized ∧ StandsFor restSymbol v step := by
  by_cases oversized : v.Oversized
  · rw [ofValue_eq_error_iff.2 ⟨oversized, rfl⟩]
    simp [oversized]
  rw [iff_true_intro oversized, true_and]
  cases v with
  | note n =>
      rw [standsFor_of_step rfl]
      simp [ofValue, eq_comm]
  | rest =>
      rw [standsFor_of_step rfl]
      simp [ofValue, eq_comm]
  | int n =>
      rw [standsFor_of_real rfl, truncate_intCast]
      simp [ofValue, eq_comm]
  | double d =>
      cases value : d.toRat? with
      | none =>
          rw [standsFor_of_none (v := .double d) rfl value (by simp)]
          simp [ofValue, value, eq_comm]
      | some q =>
          rw [standsFor_of_real (v := .double d) value]
          simp [ofValue, value, eq_comm]
  | fraction q =>
      rw [standsFor_of_real rfl, ofValue]
      cases computed : Number.doubleOf q with
      | ok d => simp [bind, Except.bind, pure, Except.pure, eq_comm]
      | error fault =>
          exact absurd ((Number.doubleOf_eq_error_iff q fault).1 computed).1 oversized
  | text t => rw [ofValue, Except.ok.injEq, ofText_eq_iff]
  | _ =>
      rw [standsFor_of_none rfl rfl (by simp)]
      simp [ofValue, eq_comm]

end Step

/-! ## Lists of values -/

variable {restSymbol : Text} {values : List Value}

/-- Values that are all read stand for one list of steps. -/
theorem normalize_eq_ok_iff {steps : List Step} :
    normalize restSymbol values = .ok steps ↔
      (∀ v ∈ values, ¬v.Oversized) ∧ List.Forall₂ (StandsFor restSymbol) values steps := by
  rw [normalize, normalizeFrom_eq_ok_iff, ← List.forall₂_and_left]
  simp only [Step.ofValue_eq_ok_iff, List.reverse_nil, List.nil_append, exists_eq_right]

/-- Values are refused together exactly if one of them is refused. -/
theorem normalizeFrom_eq_error_iff {done : List Step} {fault : Fault} :
    normalizeFrom restSymbol done values = .error fault ↔
      (∃ v ∈ values, v.Oversized) ∧ fault = .tooLarge := by
  induction values generalizing done with
  | nil => simp [normalizeFrom]
  | cons v values ih =>
      rw [normalizeFrom]
      cases read : Step.ofValue restSymbol v with
      | ok step =>
          have fits : ¬v.Oversized := (Step.ofValue_eq_ok_iff.1 read).1
          simp [ih, fits]
      | error other =>
          obtain ⟨oversized, rfl⟩ := Step.ofValue_eq_error_iff.1 read
          simp [oversized, eq_comm]

theorem exists_oversized_iff :
    (∃ v ∈ values, v.Oversized) ↔
      ∃ q, .fraction q ∈ values ∧ (Double.leastTooLarge : Rat) ≤ |q| := by
  constructor
  · rintro ⟨v, member, oversized⟩
    cases v with
    | fraction q => exact ⟨q, member, oversized⟩
    | _ => cases oversized
  · rintro ⟨q, member, large⟩
    exact ⟨_, member, large⟩

/-- **Loose values are read exactly.**  A list of them is refused exactly if it has a fraction that
no double can hold.  Otherwise the steps are those that the values stand for, one for each, and
with any rest symbol they are read as themselves again. -/
theorem normalize_exact (restSymbol : Text) (values : List Value) :
    (normalize restSymbol values = .error .tooLarge ↔
      ∃ q, .fraction q ∈ values ∧ (Double.leastTooLarge : Rat) ≤ |q|) ∧
    ((∀ q : Rat, .fraction q ∈ values → |q| < Double.leastTooLarge) →
      ∃ steps, normalize restSymbol values = .ok steps ∧ steps.length = values.length ∧
        (∀ read, List.Forall₂ (StandsFor restSymbol) values read ↔ read = steps) ∧
        ∀ symbol, normalize symbol (steps.map Step.toValue) = .ok steps) := by
  have refused : normalize restSymbol values = .error .tooLarge ↔
      ∃ q, .fraction q ∈ values ∧ (Double.leastTooLarge : Rat) ≤ |q| := by
    rw [normalize, normalizeFrom_eq_error_iff, exists_oversized_iff, eq_self, and_true]
  refine ⟨refused, fun small => ?_⟩
  have fit : ∀ v ∈ values, ¬v.Oversized := by
    intro v member oversized
    obtain ⟨q, among, large⟩ := exists_oversized_iff.1 ⟨v, member, oversized⟩
    exact absurd (small q among) (not_lt.2 large)
  cases outcome : normalize restSymbol values with
  | error fault =>
      obtain ⟨⟨v, member, oversized⟩, -⟩ := normalizeFrom_eq_error_iff.1 outcome
      exact absurd oversized (fit v member)
  | ok steps =>
      have stand := (normalize_eq_ok_iff.1 outcome).2
      refine ⟨steps, rfl, stand.length_eq.symm, fun read => ⟨fun other => ?_, ?_⟩, fun symbol => ?_⟩
      · have again := normalize_eq_ok_iff.2 ⟨fit, other⟩
        exact Except.ok.inj (again.symm.trans outcome)
      · rintro rfl
        exact stand
      · rw [normalize, normalizeFrom_toValue]
        rfl

/-- A fraction below zero, a truth value, an integer that no double can hold, texts with whitespace
at their ends, and what is no number at all. -/
theorem normalize_exact_mixed :
    normalize ['-'] [.fraction (-7 / 2), .bool true, .int (10 ^ 400), .text [' ', '+', '1', '2'],
        .text ['-', ' '], .text ['3', '.'], .list [], .note 4] =
      .ok [.note (-3), .rest, .note (10 ^ 400), .note 12, .rest, .rest, .rest, .note 4] := by
  have small : ∀ q : Rat, .fraction q ∈ [Value.fraction (-7 / 2), .bool true, .int (10 ^ 400),
      .text [' ', '+', '1', '2'], .text ['-', ' '], .text ['3', '.'], .list [], .note 4] →
      |q| < Double.leastTooLarge := by
    intro q member
    obtain rfl : q = -7 / 2 := by
      simpa [-Int.reducePow] using member
    have few : 4 ≤ Double.leastTooLarge := by decide +kernel
    calc |(-7 / 2 : Rat)| < 4 := abs_lt.2 ⟨by norm_num, by norm_num⟩
      _ ≤ Double.leastTooLarge := by exact_mod_cast few
  obtain ⟨steps, normal, -, only, -⟩ := (normalize_exact ['-'] _).2 small
  rw [normal, ← (only [.note (-3), .rest, .note (10 ^ 400), .note 12, .rest, .rest, .rest, .note 4]).1]
  refine .cons ((standsFor_of_real rfl).2 (by decide +kernel)) ?_
  refine .cons ((standsFor_of_none rfl rfl (by simp)).2 rfl) ?_
  refine .cons ((standsFor_of_real rfl).2 (by rw [truncate_intCast])) ?_
  refine .cons (Step.ofText_eq_iff.1 (by decide)) ?_
  refine .cons (Step.ofText_eq_iff.1 (by decide)) ?_
  refine .cons (Step.ofText_eq_iff.1 (by decide)) ?_
  exact .cons ((standsFor_of_none rfl rfl (by simp)).2 rfl) (.cons (.step rfl) .nil)

/-- An integral fraction that no double can hold: it has no step, although the integer has. -/
theorem normalize_not_total :
    ¬∀ (restSymbol : Text) (values : List Value), ∃ steps, normalize restSymbol values = .ok steps := by
  intro total
  obtain ⟨steps, read⟩ := total ['-'] [.fraction (10 ^ 400)]
  have large : (Double.leastTooLarge : Rat) ≤ |10 ^ 400| := by
    have natural : Double.leastTooLarge ≤ 10 ^ 400 := by decide +kernel
    rw [abs_of_nonneg (pow_nonneg (by decide) _)]
    exact_mod_cast natural
  have refused : normalize ['-'] [.fraction (10 ^ 400)] = .error .tooLarge :=
    normalizeFrom_eq_error_iff.2 ⟨⟨_, List.mem_singleton_self _, large⟩, rfl⟩
  rw [refused] at read
  cases read

end StepPattern
