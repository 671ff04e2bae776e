/-
# StepPattern.Proofs.Keys -- keys without an order

Keys have no order if they are not of a kind, which is what a wrong kind is, or if their
order is undefined: they are numbers, one of them a decimal and one of them not a number
(`Value.before_eq_undefined_iff`).
-/
import Mathlib.Data.List.Basic
import StepPattern.Settings.Keys

namespace StepPattern

set_option autoImplicit false

theorem Number.compare_eq_error_iff {holds : Point → Point → Bool} {a b : Number} {fault : Fault} :
    compare holds a b = .error fault ↔
      (a.isDecimal = true ∨ b.isDecimal = true) ∧ (a.point? = none ∨ b.point? = none) ∧
        fault = .undefined := by
  unfold compare
  split
  case h_1 x y one other => simp [one, other]
  case h_2 lacking =>
    have missing : a.point? = none ∨ b.point? = none := by
      cases one : a.point? with
      | none => exact .inl rfl
      | some x =>
          cases other : b.point? with
          | none => exact .inr rfl
          | some y => exact absurd other (lacking x y one)
    split
    case isTrue decimal =>
      rw [Bool.or_eq_true] at decimal
      exact ⟨fun same => ⟨decimal, missing, (Except.error.inj same).symm⟩,
        fun held => held.2.2 ▸ rfl⟩
    case isFalse other =>
      rw [Bool.or_eq_true] at other
      exact iff_of_false nofun fun held => other held.1

namespace Value

mutual

/-- Values have no order since they are not of a kind, or since it is undefined. -/
theorem before_error : {x y : Value} → {fault : Fault} → x.before y = .error fault →
    fault = .wrongKind ∨ fault = .undefined
  | x, y, fault, failed => by
    unfold before at failed
    split at failed
    · cases failed
    · cases failed
    · exact itemsBefore_error failed
    · split at failed
      · exact .inr (Number.compare_eq_error_iff.1 failed).2.2
      · cases failed
        exact .inl rfl

theorem itemsBefore_error : {xs ys : List Value} → {fault : Fault} →
    itemsBefore xs ys = .error fault → fault = .wrongKind ∨ fault = .undefined
  | xs, ys, fault, failed => by
    unfold itemsBefore at failed
    split at failed
    · cases failed
    · cases failed
    · split at failed
      · exact itemsBefore_error failed
      · exact before_error failed

end

/-! ## Undefined orders -/

mutual

/-- Whether it is undefined which of two values comes first. -/
inductive Undefined : Value → Value → Prop
  /-- One of two numbers is a decimal, and one of them has no place on the line. -/
  | numbers {x y : Value} {m n : Number} (one : x.number? = some m) (other : y.number? = some n)
      (decimal : m.isDecimal = true ∨ n.isDecimal = true)
      (nowhere : m.point? = Option.none ∨ n.point? = Option.none) : Undefined x y
  | lists {xs ys : List Value} (items : UndefinedItems xs ys) : Undefined (list xs) (list ys)

/-- Whether it is undefined which of the first items that differ comes first. -/
inductive UndefinedItems : List Value → List Value → Prop
  | here {x y : Value} {xs ys : List Value} (differ : equal x y = false)
      (undefined : Undefined x y) : UndefinedItems (x :: xs) (y :: ys)
  | later {x y : Value} {xs ys : List Value} (same : equal x y = true)
      (items : UndefinedItems xs ys) : UndefinedItems (x :: xs) (y :: ys)

end

mutual

theorem before_eq_undefined_iff : {x y : Value} →
    (x.before y = .error .undefined ↔ Undefined x y)
  | x, y => by
    unfold before
    split
    case h_1 | h_2 =>
      refine iff_of_false (fun failed => ?_) (fun undefined => ?_)
      · cases failed
      · cases undefined with
        | numbers one => cases one
    case h_3 =>
      rw [itemsBefore_eq_undefined_iff]
      refine ⟨.lists, fun undefined => ?_⟩
      cases undefined with
      | numbers one => cases one
      | lists items => exact items
    case h_4 unlisted =>
      split
      case h_1 m n one other =>
        rw [Number.lt, Number.compare_eq_error_iff]
        constructor
        · rintro ⟨kind, nowhere, -⟩
          exact .numbers one other kind nowhere
        · intro undefined
          cases undefined with
          | numbers first second kind nowhere =>
              cases one.symm.trans first
              cases other.symm.trans second
              exact ⟨kind, nowhere, rfl⟩
          | lists => exact absurd rfl (unlisted _ _ rfl)
      case h_2 lacking =>
        refine iff_of_false (fun failed => ?_) (fun undefined => ?_)
        · cases failed
        · cases undefined with
          | numbers one other => exact lacking _ _ one other
          | lists => exact absurd rfl (unlisted _ _ rfl)

theorem itemsBefore_eq_undefined_iff : {xs ys : List Value} →
    (itemsBefore xs ys = .error .undefined ↔ UndefinedItems xs ys)
  | xs, ys => by
    unfold itemsBefore
    split
    case h_1 | h_2 =>
      refine iff_of_false (fun failed => ?_) (fun undefined => ?_)
      · cases failed
      · cases undefined
    case h_3 x xs y ys =>
      split
      case isTrue same =>
        rw [itemsBefore_eq_undefined_iff]
        refine ⟨.later same, fun undefined => ?_⟩
        cases undefined with
        | here differ => exact absurd same (Bool.eq_false_iff.1 differ)
        | later _ items => exact items
      case isFalse differ =>
        rw [before_eq_undefined_iff]
        refine ⟨.here (Bool.eq_false_iff.2 differ), fun undefined => ?_⟩
        cases undefined with
        | here _ undefined => exact undefined
        | later same => exact absurd same differ

end

end Value

end StepPattern
