/-
# StepPattern.Proofs.ExactNumbers -- integers and fractions are added exactly

A finite number that is no decimal is exact, an integer or a fraction
(`Number.IsExact`), or it is a double.  What is known of a number's kind is used by
these two cases only: exact numbers have an exact sum (`IsExact.add`), and where a
double takes part, both are added as doubles (`add_eq_asDoubles`).
-/
import Mathlib.Algebra.Order.Field.Rat
import StepPattern.Number.Basic

namespace StepPattern.Number

set_option autoImplicit false

/-- Whether a number is exact, and which one: an integer or a fraction. -/
inductive IsExact : Number → Rat → Prop
  | int (n : Int) : IsExact (.int n) n
  | fraction (q : Rat) : IsExact (.fraction q) q

variable {n m : Number} {p q : Rat}

theorem isExact_or_double (kind : n.isDecimal = false) (finite : n.toRat? = some q) :
    n.IsExact q ∨ ∃ d, n = .double d := by
  cases n with
  | decimal => cases kind
  | double d => exact .inr ⟨d, rfl⟩
  | int k =>
      cases finite
      exact .inl (.int k)
  | fraction =>
      cases finite
      exact .inl (.fraction q)

theorem IsExact.toRat?_eq (exactly : n.IsExact q) : n.toRat? = some q := by
  cases exactly <;> rfl

theorem IsExact.toDouble_eq (exactly : n.IsExact q) : n.toDouble = doubleOf q := by
  cases exactly <;> rfl

/-- Exact numbers have an exact sum. -/
theorem IsExact.add (first : n.IsExact p) (second : m.IsExact q) :
    ∃ sum, n.add m = .ok sum ∧ sum.IsExact (p + q) := by
  cases first with
  | int k =>
      cases second with
      | int l =>
          refine ⟨_, rfl, ?_⟩
          rw [← Int.cast_add]
          exact .int (k + l)
      | fraction => exact ⟨_, rfl, .fraction _⟩
  | fraction =>
      cases second with
      | int l =>
          refine ⟨_, rfl, ?_⟩
          rw [add_comm]
          exact .fraction _
      | fraction => exact ⟨_, rfl, .fraction _⟩

/-- Numbers that are no decimals are added as doubles if one of them is a double. -/
theorem add_eq_asDoubles (first : n.isDecimal = false) (second : m.isDecimal = false)
    (double : (∃ d, n = .double d) ∨ ∃ d, m = .double d) :
    n.add m = do return .double (Double.add (← n.toDouble) (← m.toDouble)) := by
  obtain ⟨d, rfl⟩ | ⟨d, rfl⟩ := double
  · cases m with
    | decimal => cases second
    | _ => rfl
  · cases n with
    | decimal => cases first
    | _ => rfl

/-- Two finite numbers that are no decimals are added exactly or as doubles. -/
theorem add_cases (nKind : n.isDecimal = false) (mKind : m.isDecimal = false)
    (first : n.toRat? = some p) (second : m.toRat? = some q) :
    (n.IsExact p ∧ m.IsExact q) ∨
      n.add m = do return .double (Double.add (← n.toDouble) (← m.toDouble)) := by
  obtain exactly | double := isExact_or_double nKind first
  · obtain other | double := isExact_or_double mKind second
    · exact .inl ⟨exactly, other⟩
    · exact .inr (add_eq_asDoubles nKind mKind (.inr double))
  · exact .inr (add_eq_asDoubles nKind mKind (.inl double))

end StepPattern.Number
