/-
# StepPattern.Proofs.Brackets -- how deep a text goes into brackets

Two ways to count brackets:

* `depth` counts over a whole text from outside all brackets, where a closing
  bracket that closes nothing counts for nothing;
* `within inner` counts inside `inner + 1` open brackets, and has no answer once
  the outermost of them is closed.

The second is what a scan and a split at the closing bracket both follow
(`splitClosing_append`), so whatever one takes for the inside of a bracket the
other does too.  A text that never closes an open bracket has at least as many
opening as closing brackets in each of its prefixes (`within_isSome_iff`).
-/
import StepPattern.Piece
import StepPattern.Token

namespace StepPattern.Text

set_option autoImplicit false

/-! ## Counting -/

def deeper (depth : Nat) (c : Char) : Nat :=
  if c = '[' then depth + 1 else if c = ']' then depth - 1 else depth

/-- The number of brackets open at the end of a text. -/
def depth (t : Text) : Nat :=
  t.foldl deeper 0

/-- The number of brackets open inside an open one after a text read at some depth inside it, or
none if the text closes it. -/
def within : Nat → Text → Option Nat
  | inner, [] => some inner
  | inner, c :: t =>
      if c = '[' then within (inner + 1) t
      else if c = ']' then
        match inner with
        | 0 => none
        | outer + 1 => within outer t
      else within inner t

/-- Whether no whitespace and no bracket breaks a text. -/
def Unbroken (t : Text) : Prop :=
  ∀ c ∈ t, Scanner.endsTail c = false

/-- Whether a bracket that is open before a text is still open at its end and was so all along. -/
def NeverCloses (t : Text) : Prop :=
  ∀ p, p <+: t → p.count ']' ≤ p.count '['

/-- Whether every bracket in a text has its other half in it. -/
def Balanced (t : Text) : Prop :=
  NeverCloses t ∧ t.count '[' = t.count ']'

@[simp]
theorem within_nil (inner : Nat) : within inner [] = some inner := rfl

@[simp]
theorem within_open (inner : Nat) (t : Text) : within inner ('[' :: t) = within (inner + 1) t := by
  simp [within]

@[simp]
theorem within_close_zero (t : Text) : within 0 (']' :: t) = none := by
  simp [within]

@[simp]
theorem within_close_succ (inner : Nat) (t : Text) :
    within (inner + 1) (']' :: t) = within inner t := by
  simp [within]

theorem within_other {c : Char} (inner : Nat) (t : Text) (noOpen : c ≠ '[') (noClose : c ≠ ']') :
    within inner (c :: t) = within inner t := by
  simp [within, noOpen, noClose]

/-- The count inside a bracket, character by character: one more bracket is opened, the bracket
itself is closed, another one is closed, or nothing changes. -/
@[elab_as_elim]
theorem within_induction {motive : Nat → Text → Prop} (nil : ∀ inner, motive inner [])
    (opens : ∀ inner t, motive (inner + 1) t → motive inner ('[' :: t))
    (last : ∀ t, motive 0 (']' :: t))
    (closes : ∀ outer t, motive outer t → motive (outer + 1) (']' :: t))
    (other : ∀ inner c t, c ≠ '[' → c ≠ ']' → motive inner t → motive inner (c :: t))
    (inner : Nat) (t : Text) : motive inner t := by
  induction t generalizing inner with
  | nil => exact nil inner
  | cons c t ih =>
      by_cases opened : c = '['
      · subst opened
        exact opens inner t (ih (inner + 1))
      · by_cases closed : c = ']'
        · subst closed
          cases inner with
          | zero => exact last t
          | succ outer => exact closes outer t (ih outer)
        · exact other inner c t opened closed (ih inner)

theorem within_append (inner : Nat) (t u : Text) :
    within inner (t ++ u) = (within inner t).bind fun depth => within depth u := by
  induction inner, t using within_induction with
  | nil inner => rfl
  | opens inner t ih => rw [List.cons_append, within_open, within_open, ih]
  | last t => rw [List.cons_append, within_close_zero, within_close_zero, Option.bind_none]
  | closes outer t ih => rw [List.cons_append, within_close_succ, within_close_succ, ih]
  | other inner c t noOpen noClose ih =>
      rw [List.cons_append, within_other _ _ noOpen noClose, within_other _ _ noOpen noClose, ih]

/-- What is left open is left open where more brackets are open around it. -/
theorem within_add {inner left : Nat} {t : Text} (stillOpen : within inner t = some left)
    (k : Nat) : within (inner + k) t = some (left + k) := by
  induction inner, t using within_induction with
  | nil inner =>
      cases stillOpen
      rfl
  | opens inner t ih =>
      rw [within_open] at stillOpen ⊢
      rw [Nat.add_right_comm]
      exact ih stillOpen
  | last t =>
      rw [within_close_zero] at stillOpen
      cases stillOpen
  | closes outer t ih =>
      rw [within_close_succ] at stillOpen
      rw [Nat.add_right_comm, within_close_succ]
      exact ih stillOpen
  | other inner c t noOpen noClose ih =>
      rw [within_other _ _ noOpen noClose] at stillOpen ⊢
      exact ih stillOpen

/-- Brackets that are opened and not closed again are left open. -/
theorem count_of_within {inner left : Nat} {t : Text} (stillOpen : within inner t = some left) :
    inner + t.count '[' = left + t.count ']' := by
  induction inner, t using within_induction with
  | nil inner =>
      cases stillOpen
      rfl
  | opens inner t ih =>
      rw [within_open] at stillOpen
      have further := ih stillOpen
      simp only [List.count_cons_self, List.count_cons_of_ne (show '[' ≠ ']' by decide)]
      omega
  | last t =>
      rw [within_close_zero] at stillOpen
      cases stillOpen
  | closes outer t ih =>
      rw [within_close_succ] at stillOpen
      have further := ih stillOpen
      simp only [List.count_cons_self, List.count_cons_of_ne (show ']' ≠ '[' by decide)]
      omega
  | other inner c t noOpen noClose ih =>
      rw [within_other _ _ noOpen noClose] at stillOpen
      simp only [List.count_cons_of_ne noOpen, List.count_cons_of_ne noClose]
      exact ih stillOpen

/-- Where an open bracket is closed, the text up to there leaves nothing else open. -/
theorem exists_closing {inner : Nat} {t : Text} (closed : within inner t = none) :
    ∃ inside after, t = inside ++ ']' :: after ∧ within inner inside = some 0 := by
  induction inner, t using within_induction with
  | nil inner => cases closed
  | opens inner t ih =>
      rw [within_open] at closed
      obtain ⟨inside, after, rfl, balanced⟩ := ih closed
      exact ⟨'[' :: inside, after, rfl, by rw [within_open, balanced]⟩
  | last t => exact ⟨[], t, rfl, rfl⟩
  | closes outer t ih =>
      rw [within_close_succ] at closed
      obtain ⟨inside, after, rfl, balanced⟩ := ih closed
      exact ⟨']' :: inside, after, rfl, by rw [within_close_succ, balanced]⟩
  | other inner c t noOpen noClose ih =>
      rw [within_other _ _ noOpen noClose] at closed
      obtain ⟨inside, after, rfl, balanced⟩ := ih closed
      exact ⟨c :: inside, after, rfl, by rw [within_other _ _ noOpen noClose, balanced]⟩

/-- What holds of the prefixes of a longer text, one character taken off. -/
theorem forall_prefix_cons {P : Text → Prop} {c : Char} {t : Text} :
    (∀ p, p <+: c :: t → P p) ↔ P [] ∧ ∀ p, p <+: t → P (c :: p) := by
  constructor
  · intro all
    exact ⟨all [] List.nil_prefix, fun p starts => all _ (List.cons_prefix_cons.2 ⟨rfl, starts⟩)⟩
  · rintro ⟨empty, all⟩ p starts
    cases p with
    | nil => exact empty
    | cons d p =>
        obtain ⟨same, further⟩ := List.cons_prefix_cons.1 starts
        exact same ▸ all p further

theorem within_isSome_iff_count (inner : Nat) (t : Text) :
    (within inner t).isSome ↔ ∀ p, p <+: t → p.count ']' ≤ p.count '[' + inner := by
  induction inner, t using within_induction with
  | nil inner => simp
  | opens inner t ih =>
      rw [within_open, ih, forall_prefix_cons]
      simp only [List.count_nil, Nat.zero_le, true_and, List.count_cons_self,
        List.count_cons_of_ne (show '[' ≠ ']' by decide)]
      exact forall₂_congr fun p _ => by omega
  | last t =>
      rw [within_close_zero]
      simp only [Option.isSome_none, Bool.false_eq_true, false_iff]
      intro enough
      have first := enough [']'] (List.prefix_append [']'] t)
      exact absurd first (by decide)
  | closes outer t ih =>
      rw [within_close_succ, ih, forall_prefix_cons]
      simp only [List.count_nil, Nat.zero_le, true_and, List.count_cons_self,
        List.count_cons_of_ne (show ']' ≠ '[' by decide)]
      exact forall₂_congr fun p _ => by omega
  | other inner c t noOpen noClose ih =>
      rw [within_other _ _ noOpen noClose, ih, forall_prefix_cons]
      simp only [List.count_nil, Nat.zero_le, true_and, List.count_cons_of_ne noOpen,
        List.count_cons_of_ne noClose]

/-- A text never closes an open bracket exactly when the count inside it has an answer. -/
theorem within_isSome_iff (t : Text) : (within 0 t).isSome ↔ NeverCloses t := by
  rw [within_isSome_iff_count]
  rfl

theorem balanced_iff {t : Text} : Balanced t ↔ within 0 t = some 0 := by
  constructor
  · rintro ⟨neverCloses, same⟩
    obtain ⟨left, stillOpen⟩ := Option.isSome_iff_exists.1 ((within_isSome_iff t).2 neverCloses)
    have counts := count_of_within stillOpen
    obtain rfl : left = 0 := by omega
    exact stillOpen
  · intro closed
    have counts := count_of_within closed
    exact ⟨(within_isSome_iff t).1 (Option.isSome_of_eq_some closed), by omega⟩

/-! ## Texts without brackets -/

theorem unbroken_nil : Unbroken [] := by
  intro c member
  cases member

theorem unbroken_cons {c : Char} {t : Text} :
    Unbroken (c :: t) ↔ Scanner.endsTail c = false ∧ Unbroken t := by
  simp [Unbroken]

theorem unbroken_append {t u : Text} : Unbroken (t ++ u) ↔ Unbroken t ∧ Unbroken u := by
  simp [Unbroken, or_imp, forall_and]

/-- A character that ends no word is neither whitespace nor a bracket. -/
theorem endsTail_eq_false {c : Char} :
    Scanner.endsTail c = false ↔ isBlank c = false ∧ c ≠ '[' ∧ c ≠ ']' := by
  simp [Scanner.endsTail, and_assoc]

theorem ne_of_isBlank {c : Char} (blank : isBlank c = true) : c ≠ '[' ∧ c ≠ ']' := by
  constructor
  · rintro rfl
    exact absurd blank (by decide)
  · rintro rfl
    exact absurd blank (by decide)

/-- A text without brackets changes no count. -/
theorem within_of_forall_ne {t : Text} (plain : ∀ c ∈ t, c ≠ '[' ∧ c ≠ ']') (inner : Nat) :
    within inner t = some inner := by
  induction t with
  | nil => rfl
  | cons c t ih =>
      obtain ⟨here, further⟩ := List.forall_mem_cons.1 plain
      rw [within_other _ _ here.1 here.2, ih further]

theorem Unbroken.within_eq {t : Text} (unbroken : Unbroken t) (inner : Nat) :
    within inner t = some inner :=
  within_of_forall_ne (fun c member => (endsTail_eq_false.1 (unbroken c member)).2) inner

theorem Unbroken.open_notMem {t : Text} (unbroken : Unbroken t) : '[' ∉ t := fun member =>
  (endsTail_eq_false.1 (unbroken _ member)).2.1 rfl

theorem Unbroken.close_notMem {t : Text} (unbroken : Unbroken t) : ']' ∉ t := fun member =>
  (endsTail_eq_false.1 (unbroken _ member)).2.2 rfl

/-! ## How texts end -/

theorem Unbroken.getLast?_ne {t : Text} (unbroken : Unbroken t) : t.getLast? ≠ some ']' :=
  fun last => unbroken.close_notMem (List.mem_of_getLast? last)

theorem getLast?_bracket (name inside : Text) :
    (name ++ '[' :: (inside ++ [']'])).getLast? = some ']' := by
  rw [← List.cons_append, ← List.append_assoc]
  exact List.getLast?_concat

theorem getLast?_bracket_count (name inside : Text) {count : Text} (unbroken : Unbroken count) :
    (name ++ '[' :: (inside ++ ']' :: '*' :: count)).getLast? ≠ some ']' := by
  have plain : Unbroken ('*' :: count) := unbroken_cons.2 ⟨by decide, unbroken⟩
  have regrouped : name ++ '[' :: (inside ++ ']' :: '*' :: count) =
      name ++ '[' :: (inside ++ [']']) ++ '*' :: count := by simp
  rw [regrouped, List.getLast?_append, List.getLast?_cons, Option.some_or, ← List.getLast?_cons]
  exact plain.getLast?_ne

/-! ## The two counts together -/

theorem depth_append (t u : Text) : depth (t ++ u) = u.foldl deeper (depth t) :=
  List.foldl_append

/-- Where no bracket around it is closed, the count inside a bracket is the number of open ones. -/
theorem foldl_deeper {inner left : Nat} {t : Text} (stillOpen : within inner t = some left) :
    t.foldl deeper inner = left := by
  induction inner, t using within_induction with
  | nil inner =>
      cases stillOpen
      rfl
  | opens inner t ih =>
      rw [within_open] at stillOpen
      exact ih stillOpen
  | last t =>
      rw [within_close_zero] at stillOpen
      cases stillOpen
  | closes outer t ih =>
      rw [within_close_succ] at stillOpen
      exact ih stillOpen
  | other inner c t noOpen noClose ih =>
      rw [within_other _ _ noOpen noClose] at stillOpen
      rw [List.foldl_cons, deeper, if_neg noOpen, if_neg noClose]
      exact ih stillOpen

theorem depth_eq_of_within {left : Nat} {t : Text} (stillOpen : within 0 t = some left) :
    depth t = left :=
  foldl_deeper stillOpen

end StepPattern.Text

namespace StepPattern.Token

set_option autoImplicit false

/-! ## Splitting at the closing bracket -/

theorem splitClosing_other {c : Char} (before : Text) (inner : Nat) (t : Text) (noOpen : c ≠ '[')
    (noClose : c ≠ ']') :
    splitClosing before inner (c :: t) = splitClosing (c :: before) inner t := by
  rw [splitClosing]
  · exact noOpen
  · exact fun _ => noClose
  · exact fun _ _ => noClose

/-- The split at the closing bracket finds the inside that the count finds. -/
theorem splitClosing_append (before : Text) {inner : Nat} {inside : Text} (after : Text)
    (balanced : Text.within inner inside = some 0) :
    splitClosing before inner (inside ++ ']' :: after) =
      some (before.reverse ++ inside, after) := by
  induction inner, inside using Text.within_induction generalizing before with
  | nil inner =>
      cases balanced
      simp [splitClosing]
  | opens inner t ih =>
      rw [Text.within_open] at balanced
      rw [List.cons_append, splitClosing, ih _ balanced]
      simp
  | last t =>
      rw [Text.within_close_zero] at balanced
      cases balanced
  | closes outer t ih =>
      rw [Text.within_close_succ] at balanced
      rw [List.cons_append, splitClosing, ih _ balanced]
      simp
  | other inner c t noOpen noClose ih =>
      rw [Text.within_other _ _ noOpen noClose] at balanced
      rw [List.cons_append, splitClosing_other _ _ _ noOpen noClose, ih _ balanced]
      simp

/-- The parts of a text with a bracket: what no bracket opens in, the inside, and the rest. -/
theorem splitBrackets_append {name inside : Text} (tail : Text) (plain : '[' ∉ name)
    (balanced : Text.within 0 inside = some 0) :
    splitBrackets (name ++ '[' :: (inside ++ ']' :: tail)) = .ok (name, inside, tail) := by
  have stays : ∀ c ∈ name, decide (c ≠ '[') = true := by
    intro c member
    exact decide_eq_true fun same => plain (same ▸ member)
  have dropped : (name ++ '[' :: (inside ++ ']' :: tail)).dropWhile (· ≠ '[') =
      '[' :: (inside ++ ']' :: tail) := by
    rw [List.dropWhile_append_of_pos stays]
    simp
  have taken : (name ++ '[' :: (inside ++ ']' :: tail)).takeWhile (· ≠ '[') = name := by
    rw [List.takeWhile_append_of_pos stays]
    simp
  rw [splitBrackets, dropped, taken]
  simp only [splitClosing_append [] tail balanced, List.reverse_nil, List.nil_append]

end StepPattern.Token
