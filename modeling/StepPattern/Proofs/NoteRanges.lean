/-
# StepPattern.Proofs.NoteRanges -- sums and ranges of numbers that fail

Settings are numbers of every kind, and not all of them go together.

* A decimal is not added to a double or a fraction, and numbers from 0 to 1 of any other
  two kinds are added (`Number.add_eq_error_iff`).
* Two bounds have a range of whole notes between them, or there is a first reason why they
  have none (`Shape.noteRange_eq_error_iff`).
-/
import StepPattern.Proofs.RandomBounds

namespace StepPattern

set_option autoImplicit false

/-! ## Numbers that can be ordered -/

namespace Number

variable {a b : Number} {n : Int} {fault : Fault}

/-- Whether a number has an order with integers: every number but a decimal that is none. -/
def IsOrdered (a : Number) : Prop :=
  a.isDecimal = true → a.point? ≠ none

theorem exists_compare_int (ordered : a.IsOrdered) (holds : Point → Point → Bool) (n : Int) :
    (∃ less, compare holds a (.int n) = .ok less) ∧
      ∃ less, compare holds (.int n) a = .ok less := by
  have never {x y : Number} (alike : x.isDecimal = true ∨ y.isDecimal = true → a.isDecimal = true)
      (lacking : x.point? = none ∨ y.point? = none → a.point? = none) :
      ∃ less, compare holds x y = .ok less := by
    cases compared : compare holds x y with
    | ok less => exact ⟨less, rfl⟩
    | error fault =>
        obtain ⟨decimal, missing, -⟩ := compare_eq_error_iff.1 compared
        exact absurd (lacking missing) (ordered (alike decimal))
  exact ⟨never (by simp [isDecimal]) (by simp [point?]),
    never (by simp [isDecimal]) (by simp [point?])⟩

theorem isOrdered_of_lt (compared : ∃ less, a.lt (.int n) = .ok less) : a.IsOrdered := by
  intro decimal missing
  obtain ⟨less, compared⟩ := compared
  have failed : a.lt (.int n) = .error .undefined :=
    compare_eq_error_iff.2 ⟨.inl decimal, .inl missing, rfl⟩
  rw [failed] at compared
  cases compared

end Number

/-- A sum that is rounded is a number. -/
theorem Decimal.point?_fit {negative : Bool} {coefficient : Nat} {exponent : Int} {d : Decimal}
    (fits : fit negative coefficient exponent = .ok d) : d.point? ≠ none := by
  simp only [fit] at fits
  split at fits <;> split at fits <;> cases fits <;> nofun

theorem Decimal.point?_add_ofInt {d sum : Decimal} {n : Int} (number : d.point? ≠ none)
    (added : d.add (ofInt n) = .ok sum) : sum.point? ≠ none := by
  cases d with
  | nan => exact absurd rfl number
  | infinite negative =>
      cases added
      nofun
  | finite negative coefficient exponent =>
      simp only [add, ofInt, isSignaling, Bool.false_eq_true, or_self, if_false] at added
      split at added
      · exact point?_fit added
      split at added
      · exact point?_fit added
      split at added <;> exact point?_fit added

theorem Number.IsOrdered.add_int {a b : Number} {n : Int} (ordered : a.IsOrdered)
    (added : a.add (.int n) = .ok b) : b.IsOrdered := by
  cases a with
  | int m => cases added; nofun
  | fraction q => cases added; nofun
  | double d =>
      obtain ⟨_, -, added⟩ := bind_eq_ok_iff.1 added
      obtain ⟨_, -, added⟩ := bind_eq_ok_iff.1 added
      cases added
      nofun
  | decimal d =>
      obtain ⟨sum, summed, rfl⟩ := map_eq_ok_iff.1 added
      exact fun _ => Decimal.point?_add_ofInt (ordered rfl) summed

/-! ## Sums of probabilities -/

theorem Decimal.toRat?_ofInt (n : Int) : (ofInt n).toRat? = some (n : Rat) := by
  rw [ofInt, toRat?, signed_natAbs, zpow_zero, mul_one]

namespace Number

variable {m n : Number} {p q : Rat} {fault : Fault}

/-- A number from 0 to 1 is finite. -/
theorem exists_toRat? (least : (Number.int 0).le n = .ok true) (most : n.le (.int 1) = .ok true) :
    ∃ q, n.toRat? = some q ∧ 0 ≤ q ∧ q ≤ 1 := by
  have zero : (Number.int 0).toRat? = some ((0 : Int) : Rat) := rfl
  have one : (Number.int 1).toRat? = some ((1 : Int) : Rat) := rfl
  have finite : ∃ q, n.toRat? = some q := by
    cases n with
    | int m => exact ⟨m, rfl⟩
    | fraction q => exact ⟨q, rfl⟩
    | double d =>
        cases d with
        | nan => cases most
        | negativeZero => exact ⟨0, rfl⟩
        | finite q => exact ⟨q, rfl⟩
        | infinite negative =>
            cases negative
            · cases most
            · cases least
    | decimal d =>
        cases d with
        | nan => cases most
        | finite => exact ⟨_, rfl⟩
        | infinite negative =>
            cases negative
            · cases most
            · cases least
  obtain ⟨q, finite⟩ := finite
  rw [Number.le_eq zero finite, Except.ok.injEq, decide_eq_true_iff, Int.cast_zero] at least
  rw [Number.le_eq finite one, Except.ok.injEq, decide_eq_true_iff, Int.cast_one] at most
  exact ⟨q, finite, least, most⟩

theorem exists_decimal (kind : n.isDecimal = true) : ∃ d, n = .decimal d := by
  cases n with
  | decimal d => exact ⟨d, rfl⟩
  | _ => cases kind

/-- Whether numbers are of kinds that are not added: just one is a decimal, and none an integer. -/
structure Apart (m n : Number) : Prop where
  decimal : m.isDecimal ≠ n.isDecimal
  first : ∀ k, m ≠ .int k
  second : ∀ k, n ≠ .int k

/-- Numbers from 0 to 1 are added unless they are of kinds that are not. -/
theorem add_eq_error_iff (one : m.toRat? = some p) (other : n.toRat? = some q)
    (least : 0 ≤ p) (most : p ≤ 1) (leastToo : 0 ≤ q) (mostToo : q ≤ 1) :
    m.add n = .error fault ↔ m.Apart n ∧ fault = .wrongKind := by
  have answered (kinds : ¬m.Apart n) (sum : ∃ sum, m.add n = .ok sum) :
      m.add n = .error fault ↔ m.Apart n ∧ fault = .wrongKind := by
    obtain ⟨sum, added⟩ := sum
    rw [added]
    exact iff_of_false nofun fun held => kinds held.1
  cases mKind : m.isDecimal <;> cases nKind : n.isDecimal
  case false.false =>
    refine answered (fun apart => apart.decimal (mKind.trans nKind.symm)) ?_
    rcases add_cases mKind nKind one other with ⟨first, second⟩ | asDoubles
    · obtain ⟨sum, added, -⟩ := first.add second
      exact ⟨sum, added⟩
    · obtain ⟨d, _, toD, -⟩ := exists_toDouble mKind one least most
      obtain ⟨e, _, toE, -⟩ := exists_toDouble nKind other leastToo mostToo
      rw [asDoubles, toD, toE]
      exact ⟨_, rfl⟩
  case true.true =>
    refine answered (fun apart => apart.decimal (mKind.trans nKind.symm)) ?_
    obtain ⟨x, rfl⟩ := exists_decimal mKind
    obtain ⟨y, rfl⟩ := exists_decimal nKind
    obtain ⟨sum, added⟩ := Decimal.exists_add one other least most leastToo mostToo
    exact ⟨_, map_eq_ok_iff.2 ⟨sum, added, rfl⟩⟩
  case true.false =>
    obtain ⟨x, rfl⟩ := exists_decimal mKind
    cases n with
    | decimal => cases nKind
    | int k =>
        obtain ⟨sum, added⟩ := Decimal.exists_add one ((Decimal.toRat?_ofInt k).trans other) least
          most leastToo mostToo
        exact answered (fun apart => apart.second k rfl) ⟨_, map_eq_ok_iff.2 ⟨sum, added, rfl⟩⟩
    | fraction | double =>
        exact ⟨fun failed => ⟨⟨nofun, nofun, nofun⟩, (Except.error.inj failed).symm⟩,
          fun held => held.2 ▸ rfl⟩
  case false.true =>
    obtain ⟨y, rfl⟩ := exists_decimal nKind
    cases m with
    | decimal => cases mKind
    | int k =>
        obtain ⟨sum, added⟩ := Decimal.exists_add other ((Decimal.toRat?_ofInt k).trans one) leastToo
          mostToo least most
        exact answered (fun apart => apart.first k rfl) ⟨_, map_eq_ok_iff.2 ⟨sum, added, rfl⟩⟩
    | fraction | double =>
        exact ⟨fun failed => ⟨⟨nofun, nofun, nofun⟩, (Except.error.inj failed).symm⟩,
          fun held => held.2 ▸ rfl⟩

end Number

/-- A number from 0 to 1 that is no decimal is a probability. -/
theorem Value.InUnit.exists_isProbability {v : Value} (inside : v.InUnit)
    (kind : ∀ d, v ≠ .decimal d) : ∃ q, v.IsProbability q := by
  obtain ⟨n, number, least, most⟩ := inside
  have decimal : n.isDecimal = false := by
    cases v <;> cases number
    case decimal d => exact absurd rfl (kind d)
    all_goals rfl
  obtain ⟨q, finite, least, most⟩ := Number.exists_toRat? least most
  exact ⟨q, n, number, decimal, finite, least, most⟩

/-! ## Bounds -/

theorem Value.number_eq_error_iff {v : Value} {fault : Fault} :
    v.number = .error fault ↔ v.number? = Option.none ∧ fault = .wrongKind := by
  rw [number]
  cases v.number? <;> simp [eq_comm]

/-- Why a number is no whole one; `refusal` is the complaint about one with a part. -/
inductive Number.NoWhole (refusal : SettingError) (n : Number) : Fault → Prop
  | undefined (nowhere : n.point? = none) : NoWhole refusal n (.setting .boundNotNumber)
  | endless {p : Point} (at_ : n.point? = some p) (infinite : n.toRat? = none) :
      NoWhole refusal n .tooLarge
  | part {q : Rat} (finite : n.toRat? = some q) (broken : q.den ≠ 1) :
      NoWhole refusal n (.setting refusal)

/-- Why two bounds have no range of notes between them. -/
inductive NoRange (low high : Value) : Fault → Prop
  /-- The upper bound is no number. -/
  | high (kind : high.number? = none) : NoRange low high .wrongKind
  /-- Nothing comes after the upper bound. -/
  | next {last : Number} {fault : Fault} (number : high.number? = some last)
      (failed : last.add (.int 1) = .error fault) : NoRange low high fault
  /-- The lower bound is no number. -/
  | low {last stop : Number} (number : high.number? = some last)
      (next : last.add (.int 1) = .ok stop) (kind : low.number? = none) :
      NoRange low high .wrongKind
  /-- The lower bound is no whole number. -/
  | first {last stop first : Number} {fault : Fault} (number : high.number? = some last)
      (next : last.add (.int 1) = .ok stop) (least : low.number? = some first)
      (broken : first.NoWhole .lowNotWhole fault) : NoRange low high fault
  /-- What comes after the upper bound is no whole number. -/
  | stop {last stop first : Number} {a : Int} {fault : Fault} (number : high.number? = some last)
      (next : last.add (.int 1) = .ok stop) (least : low.number? = some first)
      (whole : first.toRat? = some (a : Rat)) (broken : stop.NoWhole .highNotWhole fault) :
      NoRange low high fault
  /-- What comes after the upper bound does not come after the lower one. -/
  | empty {last stop first : Number} {a b : Int} (number : high.number? = some last)
      (next : last.add (.int 1) = .ok stop) (least : low.number? = some first)
      (whole : first.toRat? = some (a : Rat)) (stopWhole : stop.toRat? = some (b : Rat))
      (none : b ≤ a) : NoRange low high (Shape.emptyRange a b)

namespace Shape

variable {low high : Value} {fault : Fault} {refusal : SettingError} {n : Number}

theorem wholeBound_eq (refusal : SettingError) (n : Number) :
    wholeBound refusal n = match n.toRat?, n.point? with
      | some q, _ => if q.den = 1 then .ok q.num else .error (.setting refusal)
      | none, none => .error (.setting .boundNotNumber)
      | none, some _ => .error .tooLarge := by
  cases n with
  | int m => simp [wholeBound, Number.toRat?]
  | _ => rfl

theorem wholeBound_eq_ok_iff {a : Int} :
    wholeBound refusal n = .ok a ↔ n.toRat? = some (a : Rat) := by
  rw [wholeBound_eq]
  cases finite : n.toRat? with
  | none => cases n.point? <;> simp
  | some q =>
      dsimp only
      split
      case isTrue whole =>
        rw [Except.ok.injEq, Option.some.injEq]
        constructor
        · rintro rfl
          exact (Rat.den_eq_one_iff q).1 whole |>.symm
        · rintro rfl
          exact Rat.num_intCast a
      case isFalse broken =>
        refine iff_of_false nofun fun same => ?_
        cases same
        exact broken (Rat.den_intCast a)

theorem wholeBound_eq_error_iff :
    wholeBound refusal n = .error fault ↔ n.NoWhole refusal fault := by
  rw [wholeBound_eq]
  constructor
  · intro failed
    split at failed
    case h_1 finite =>
      split at failed <;> cases failed
      case isFalse broken => exact .part finite broken
    case h_2 nowhere =>
      cases failed
      exact .undefined nowhere
    case h_3 infinite at_ =>
      cases failed
      exact .endless at_ infinite
  · intro broken
    cases broken with
    | undefined nowhere =>
        have infinite : n.toRat? = none := by
          by_contra finite
          obtain ⟨q, finite⟩ := Option.ne_none_iff_exists'.1 finite
          obtain ⟨x, at_, -⟩ := Number.point?_is finite
          rw [nowhere] at at_
          cases at_
        rw [infinite, nowhere]
    | endless at_ infinite => rw [infinite, at_]
    | part finite broken => simp only [finite, if_neg broken]

/-- Bounds give a range of notes or there is a reason why not. -/
theorem noteRange_eq_error_iff : noteRange low high = .error fault ↔ NoRange low high fault := by
  constructor
  · intro failed
    rcases bind_eq_error_iff.1 failed with unread | ⟨last, number, failed⟩
    · obtain ⟨kind, rfl⟩ := Value.number_eq_error_iff.1 unread
      exact .high kind
    rw [Value.number_eq_ok_iff] at number
    rcases bind_eq_error_iff.1 failed with next | ⟨stop, next, failed⟩
    · exact .next number next
    rcases bind_eq_error_iff.1 failed with unread | ⟨first, least, failed⟩
    · obtain ⟨kind, rfl⟩ := Value.number_eq_error_iff.1 unread
      exact .low number next kind
    rw [Value.number_eq_ok_iff] at least
    rcases bind_eq_error_iff.1 failed with broken | ⟨a, whole, failed⟩
    · exact .first number next least (wholeBound_eq_error_iff.1 broken)
    rw [wholeBound_eq_ok_iff] at whole
    rcases bind_eq_error_iff.1 failed with broken | ⟨b, stopWhole, failed⟩
    · exact .stop number next least whole (wholeBound_eq_error_iff.1 broken)
    rw [wholeBound_eq_ok_iff] at stopWhole
    split at failed
    case isTrue => cases failed
    case isFalse none =>
      have same : emptyRange a b = fault := Except.error.inj failed
      exact same ▸ .empty number next least whole stopWhole (not_lt.1 none)
  · intro none
    unfold noteRange
    cases none with
    | high kind => rw [Value.number_eq_error_iff.2 ⟨kind, rfl⟩]; rfl
    | next number failed =>
        rw [Value.number_eq_ok_iff.2 number]
        simp only [bind, Except.bind, failed]
    | low number next kind =>
        rw [Value.number_eq_ok_iff.2 number, Value.number_eq_error_iff.2 ⟨kind, rfl⟩]
        simp only [bind, Except.bind, next]
    | first number next least broken =>
        rw [Value.number_eq_ok_iff.2 number, Value.number_eq_ok_iff.2 least]
        simp only [bind, Except.bind, next, wholeBound_eq_error_iff.2 broken]
    | stop number next least whole broken =>
        rw [Value.number_eq_ok_iff.2 number, Value.number_eq_ok_iff.2 least]
        simp only [bind, Except.bind, next, wholeBound_eq_ok_iff.2 whole,
          wholeBound_eq_error_iff.2 broken]
    | empty number next least whole stopWhole none =>
        rw [Value.number_eq_ok_iff.2 number, Value.number_eq_ok_iff.2 least]
        simp only [bind, Except.bind, next, wholeBound_eq_ok_iff.2 whole,
          wholeBound_eq_ok_iff.2 stopWhole, if_neg (not_lt.2 none)]
        rfl

end Shape

end StepPattern
