/-
# StepPattern.Proofs.Cut -- a text and its pieces determine each other

Two judgements describe a scan without running it:

* `First position p rest`: where the text `p.text ++ rest` begins outside all
  brackets at a position, its first piece is `p`.  Each form of piece says what it
  is made of and what may follow it;
* `Cut position t pieces rest`: a text falls into pieces and a rest.

Every text has a first piece (`exists_first`), and a scan finds what the judgement
says (`First.piecesFrom_eq`); so the pieces of a text are the one list that it can
be cut into (`ofText_eq_iff`).  What is proved of texts from here on is proved by
giving a cut or by taking one apart.
-/
import StepPattern.Proofs.Characters
import StepPattern.Proofs.Scan

namespace StepPattern

set_option autoImplicit false

open Text Scanner

/-- Whether a text directly before an opening bracket belongs to the bracket token, as nothing at
all does. -/
def Text.Named (name : Text) : Prop :=
  name = [] ∨ isIdentifier name = true

/-- Whether a character, outside brackets, is a piece of its own: whitespace or a closing bracket. -/
def Text.separates (c : Char) : Bool :=
  isBlank c || c = ']'

/-- `Tail tail rest`: of the text `tail ++ rest` behind a closed bracket, `tail` belongs to the
bracket token. -/
inductive Tail : Text → Text → Prop where
  | none {rest : Text} (stops : rest.head? ≠ some '*') : Tail [] rest
  | count {count rest : Text} (unbroken : Unbroken count)
      (stops : ∀ c ∈ rest.head?, endsTail c = true) : Tail ('*' :: count) rest

namespace Piece

def isComplete : Piece → Bool
  | unfinished _ _ => false
  | _ => true

/-- `First position p rest`: the text `p.text ++ rest`, outside all brackets at a position, has the
first piece `p`. -/
inductive First (position : Nat) : Piece → Text → Prop where
  | blank {c : Char} {rest : Text} (blank : isBlank c = true) : First position (.blank c) rest
  | stray {rest : Text} : First position (.stray position) rest
  | word {w rest : Text} (nonempty : w ≠ []) (unbroken : Unbroken w)
      (stops : ∀ c ∈ rest.head?, endsTail c = true)
      (free : rest.head? = some '[' → isIdentifier w = false) : First position (.token w) rest
  | bracket {name inside tail rest : Text} (named : Named name)
      (balanced : within 0 inside = some 0) (ends : Tail tail rest) :
      First position (.token (name ++ '[' :: (inside ++ ']' :: tail))) rest
  | unfinished {name inside : Text} {left : Nat} (named : Named name)
      (stillOpen : within 0 inside = some left) :
      First position (.unfinished (left + 1) (name ++ '[' :: inside)) []

/-- `Cut position t pieces rest`: a text at a position outside all brackets falls into pieces and a
rest, which begins outside all brackets too. -/
inductive Cut : Nat → Text → List Piece → Text → Prop where
  | done (position : Nat) (rest : Text) : Cut position rest [] rest
  | piece {position : Nat} {p : Piece} {t : Text} {pieces : List Piece} {rest : Text}
      (first : First position p t) (further : Cut (position + p.text.length) t pieces rest) :
      Cut position (p.text ++ t) (p :: pieces) rest

def covered (pieces : List Piece) : Text :=
  pieces.flatMap text

@[simp]
theorem covered_nil : covered [] = [] := rfl

@[simp]
theorem covered_cons (p : Piece) (pieces : List Piece) :
    covered (p :: pieces) = p.text ++ covered pieces := rfl

@[simp]
theorem covered_append (pieces more : List Piece) :
    covered (pieces ++ more) = covered pieces ++ covered more :=
  List.flatMap_append

end Piece

theorem Text.Named.unbroken {name : Text} (named : Named name) : Unbroken name := by
  rcases named with rfl | identifier
  · exact unbroken_nil
  · exact unbroken_of_isIdentifier identifier

theorem Tail.unbroken {tail rest : Text} (ends : Tail tail rest) : Unbroken tail := by
  cases ends with
  | none => exact unbroken_nil
  | count unbroken => exact unbroken_cons.2 ⟨by decide, unbroken⟩

namespace Piece

/-! ## A scan finds the first piece -/

section Scanning

variable {position : Nat}

/-- The scan of a name and the bracket behind it stands inside that bracket. -/
theorem piecesFrom_named {name : Text} (named : Named name) (t : Text) :
    piecesFrom position (.word []) (name ++ '[' :: t) =
      piecesFrom (position + name.length + 1) (.bracket ('[' :: name.reverse) 0) t := by
  rw [piecesFrom_word_append _ _ _ named.unbroken, piecesFrom_cons]
  have noBlank : isBlank '[' = false := by decide
  rcases named with rfl | identifier
  · have empty : isIdentifier [] = false := by decide
    simp [ScanMode.next, ScanMode.completes, readIn, readOutside, flush, noBlank, empty]
  · simp [ScanMode.next, ScanMode.completes, readIn, readOutside, noBlank, identifier]

/-- The scan of a whole bracket stands just behind it. -/
theorem piecesFrom_closed {name inside : Text} (named : Named name)
    (balanced : within 0 inside = some 0) (t : Text) :
    piecesFrom position (.word []) (name ++ '[' :: (inside ++ ']' :: t)) =
      piecesFrom (position + (name ++ '[' :: (inside ++ [']'])).length)
        (.closed (name ++ '[' :: (inside ++ [']'])).reverse) t := by
  have lengths : position + name.length + 1 + inside.length + 1 =
      position + (name ++ '[' :: (inside ++ [']'])).length := by
    simp only [List.length_append, List.length_cons, List.length_nil]
    omega
  have closing : readInside (inside.reverse ++ '[' :: name.reverse) 0 ']' =
      .closed (name ++ '[' :: (inside ++ [']'])).reverse := by
    simp [readInside]
  rw [piecesFrom_named named, piecesFrom_bracket_append _ _ _ balanced, piecesFrom_bracket_cons,
    closing, lengths]

/-- A scan finds the first piece, and goes on behind it as if it had just begun. -/
theorem First.piecesFrom_eq {p : Piece} {rest : Text} (first : First position p rest) :
    piecesFrom position (.word []) (p.text ++ rest) =
      p :: piecesFrom (position + p.text.length) (.word []) rest := by
  cases first with
  | blank blank =>
      rw [text, List.singleton_append, piecesFrom_cons]
      simp [ScanMode.next, ScanMode.completes, readIn, readOutside, flush, blank]
  | stray =>
      have noBlank : isBlank ']' = false := by decide
      rw [text, List.singleton_append, piecesFrom_cons]
      simp [ScanMode.next, ScanMode.completes, readIn, readOutside, flush, noBlank]
  | @word w _ nonempty unbroken stops free =>
      have reversed : (w.reverse ++ []).reverse = w := by simp
      rw [text, piecesFrom_word_append _ _ _ unbroken, piecesFrom_word_end, reversed]
      · simpa using nonempty
      · exact stops
      · rw [reversed]
        exact free
  | @bracket name inside tail _ named balanced ends =>
      have regrouped : name ++ '[' :: (inside ++ ']' :: tail) ++ rest =
          name ++ '[' :: (inside ++ ']' :: (tail ++ rest)) := by simp
      rw [text, regrouped, piecesFrom_closed named balanced]
      cases ends with
      | none stops => rw [List.nil_append, piecesFrom_closed_end _ _ _ (by simp) stops,
          List.reverse_reverse]
      | @count count _ unbroken stops =>
          rw [List.cons_append, piecesFrom_cons]
          have lengths : position + (name ++ '[' :: (inside ++ [']'])).length + 1 + count.length =
              position + (name ++ '[' :: (inside ++ ']' :: '*' :: count)).length := by
            simp only [List.length_append, List.length_cons, List.length_nil]
            omega
          have counting : ScanMode.next (.closed (name ++ '[' :: (inside ++ [']'])).reverse) '*' =
              .tail ('*' :: (name ++ '[' :: (inside ++ [']'])).reverse) := rfl
          have nothing : ScanMode.completes (.closed (name ++ '[' :: (inside ++ [']'])).reverse)
              (position + (name ++ '[' :: (inside ++ [']'])).length) '*' = [] := rfl
          rw [counting, nothing, List.nil_append, piecesFrom_tail_append _ _ _ unbroken,
            piecesFrom_tail_end _ _ _ (by simp) stops, lengths]
          simp
  | @unfinished name inside left named stillOpen =>
      have pending := piecesFrom_bracket_append (position + name.length + 1)
        ('[' :: name.reverse) [] stillOpen
      rw [List.append_nil] at pending
      rw [text, List.append_nil, piecesFrom_named named, pending]
      simp [piecesFrom, readAll, finish, flush]

/-- A scan finds the pieces that a text is cut into, and goes on in the rest. -/
theorem Cut.piecesFrom_eq {t rest : Text} {pieces : List Piece} (cut : Cut position t pieces rest) :
    piecesFrom position (.word []) t =
      pieces ++ piecesFrom (position + (covered pieces).length) (.word []) rest := by
  induction cut with
  | done => rfl
  | @piece position p t pieces rest first further ih =>
      rw [first.piecesFrom_eq, ih, covered_cons, List.length_append, Nat.add_assoc]
      rfl

end Scanning

theorem Cut.covered_append {position : Nat} {t rest : Text} {pieces : List Piece}
    (cut : Cut position t pieces rest) : covered pieces ++ rest = t := by
  induction cut with
  | done => rfl
  | piece first further ih => rw [covered_cons, List.append_assoc, ih]

theorem Cut.append {position : Nat} {t u rest : Text} {pieces more : List Piece}
    (cut : Cut position t pieces u)
    (further : Cut (position + (covered pieces).length) u more rest) :
    Cut position t (pieces ++ more) rest := by
  induction cut with
  | done => exact further
  | @piece position p t pieces rest first _ ih =>
      rw [covered_cons, List.length_append, ← Nat.add_assoc] at further
      exact .piece first (ih further)

/-! ## Every text has a first piece -/

/-- A text split where its first word ends. -/
theorem exists_word (t : Text) :
    ∃ w rest, t = w ++ rest ∧ Unbroken w ∧ ∀ c ∈ rest.head?, endsTail c = true := by
  refine ⟨t.takeWhile (!endsTail ·), t.dropWhile (!endsTail ·),
    List.takeWhile_append_dropWhile.symm, ?_, ?_⟩
  · intro c member
    simpa using List.all_eq_true.1 List.all_takeWhile c member
  · intro c head
    have := List.head?_dropWhile_not (!endsTail ·) t
    rw [Option.mem_def.1 head] at this
    simpa using this

theorem exists_tail (t : Text) : ∃ tail rest, t = tail ++ rest ∧ Tail tail rest := by
  by_cases counted : t.head? = some '*'
  · obtain ⟨after, rfl⟩ := List.head?_eq_some_iff.1 counted
    obtain ⟨count, rest, rfl, unbroken, stops⟩ := exists_word after
    exact ⟨'*' :: count, rest, rfl, .count unbroken stops⟩
  · exact ⟨[], t, rfl, .none counted⟩

/-- A name with an open bracket behind it begins a token, finished or not. -/
theorem exists_first_named (position : Nat) {name : Text} (named : Named name) (t : Text) :
    ∃ p rest, name ++ '[' :: t = p.text ++ rest ∧ First position p rest := by
  cases closed : within 0 t with
  | some left =>
      exact ⟨.unfinished (left + 1) (name ++ '[' :: t), [], by simp [text],
        .unfinished named closed⟩
  | none =>
      obtain ⟨inside, after, rfl, balanced⟩ := exists_closing closed
      obtain ⟨tail, rest, rfl, ends⟩ := exists_tail after
      exact ⟨.token (name ++ '[' :: (inside ++ ']' :: tail)), rest, by simp [text],
        .bracket named balanced ends⟩

theorem exists_first (position : Nat) {t : Text} (nonempty : t ≠ []) :
    ∃ p rest, t = p.text ++ rest ∧ First position p rest := by
  obtain ⟨w, rest, rfl, unbroken, stops⟩ := exists_word t
  by_cases takes : rest.head? = some '[' ∧ Named w
  · obtain ⟨opened, named⟩ := takes
    obtain ⟨after, rfl⟩ := List.head?_eq_some_iff.1 opened
    exact exists_first_named position named after
  by_cases some_word : w = []
  · -- No word and no bracket token: the text begins with whitespace or a stray bracket.
    subst some_word
    cases rest with
    | nil => exact absurd rfl nonempty
    | cons c rest =>
        have stop : endsTail c = true := stops c rfl
        have noOpen : c ≠ '[' := fun same => takes ⟨by rw [List.head?_cons, same], .inl rfl⟩
        simp only [endsTail, Bool.or_eq_true, decide_eq_true_eq] at stop
        rcases stop with (blank | opens) | rfl
        · exact ⟨.blank c, rest, rfl, .blank blank⟩
        · exact absurd opens noOpen
        · exact ⟨.stray position, rest, rfl, .stray⟩
  · refine ⟨.token w, rest, rfl, .word some_word unbroken stops fun opened => ?_⟩
    exact Bool.eq_false_iff.2 fun identifier => takes ⟨opened, .inr identifier⟩

theorem First.text_ne_nil {position : Nat} {p : Piece} {rest : Text}
    (first : First position p rest) : p.text ≠ [] := by
  cases first with
  | blank | stray => simp [text]
  | word nonempty => exact nonempty
  | bracket | unfinished => simp [text]

/-- Of nothing there are no pieces. -/
theorem Cut.eq_nil {position : Nat} {rest : Text} {pieces : List Piece}
    (cut : Cut position [] pieces rest) : pieces = [] := by
  generalize nothing : ([] : Text) = t at cut
  cases cut with
  | done => rfl
  | piece first further =>
      exact absurd (List.append_eq_nil_iff.1 nothing.symm).1 first.text_ne_nil

theorem exists_cut (position : Nat) (t : Text) : ∃ pieces, Cut position t pieces [] := by
  induction bound : t.length using Nat.strongRecOn generalizing position t with
  | _ n ih =>
      by_cases empty : t = []
      · subst empty
        exact ⟨[], .done position []⟩
      · obtain ⟨p, rest, rfl, first⟩ := exists_first position empty
        have shorter : rest.length < n := by
          have := List.length_pos_iff.2 first.text_ne_nil
          rw [List.length_append] at bound
          omega
        obtain ⟨pieces, cut⟩ := ih rest.length shorter (position + p.text.length) rest rfl
        exact ⟨p :: pieces, .piece first cut⟩

/-! ## The pieces of a text -/

theorem Cut.exists_first {position : Nat} {t rest : Text} {pieces : List Piece}
    (cut : Cut position t pieces rest) {p : Piece} (member : p ∈ pieces) :
    ∃ start after, First start p after := by
  induction cut with
  | done => cases member
  | @piece position q t pieces rest first further ih =>
      rcases List.mem_cons.1 member with rfl | later
      · exact ⟨position, t, first⟩
      · exact ih later

theorem Cut.eq_ofText {t : Text} {pieces : List Piece} (cut : Cut 0 t pieces []) :
    ofText t = pieces := by
  have scan : ofText t = piecesFrom 0 (.word []) t := rfl
  rw [scan, cut.piecesFrom_eq]
  simp [piecesFrom, readAll, finish, flush]

theorem cut_ofText (t : Text) : Cut 0 t (ofText t) [] := by
  obtain ⟨pieces, cut⟩ := exists_cut 0 t
  rwa [cut.eq_ofText]

theorem covered_ofText (t : Text) : covered (ofText t) = t := by
  simpa using (cut_ofText t).covered_append

/-- The pieces of a text are the one list of pieces that it can be cut into. -/
theorem ofText_eq_iff {t : Text} {pieces : List Piece} :
    ofText t = pieces ↔ Cut 0 t pieces [] := by
  constructor
  · rintro rfl
    exact cut_ofText t
  · exact Cut.eq_ofText

/-! ## Where brackets are open -/

/-- A raw token closes as many brackets as it opens, and none before. -/
theorem First.within_eq {position : Nat} {raw rest : Text}
    (first : First position (.token raw) rest) (inner : Nat) : within inner raw = some inner := by
  cases first with
  | word _ unbroken => exact unbroken.within_eq inner
  | @bracket name inside tail _ named balanced ends =>
      have oneDeeper := within_add balanced (inner + 1)
      rw [Nat.zero_add] at oneDeeper
      rw [within_append, named.unbroken.within_eq, Option.bind_some, within_open, within_append,
        oneDeeper, Option.bind_some, within_close_succ, ends.unbroken.within_eq]

/-- A complete piece leaves no bracket open. -/
theorem First.depth_eq_zero {position : Nat} {p : Piece} {rest : Text}
    (first : First position p rest) (complete : p.isComplete = true) : depth p.text = 0 := by
  cases p with
  | token raw => exact depth_eq_of_within (first.within_eq 0)
  | blank c =>
      cases first with
      | blank blank =>
          refine depth_eq_of_within (within_of_forall_ne (fun d member => ?_) 0)
          rw [List.mem_singleton.1 member]
          exact ne_of_isBlank blank
  | stray => rfl
  | unfinished => cases complete

theorem within_unfinished {name inside : Text} {left : Nat} (named : Named name)
    (stillOpen : within 0 inside = some left) :
    within 0 (name ++ '[' :: inside) = some (left + 1) := by
  have oneDeeper := within_add stillOpen 1
  rw [Nat.zero_add] at oneDeeper
  rw [within_append, named.unbroken.within_eq, Option.bind_some, within_open, oneDeeper]

/-- An unfinished piece leaves a bracket open. -/
theorem depth_unfinished {name inside : Text} {left : Nat} (named : Named name)
    (stillOpen : within 0 inside = some left) : depth (name ++ '[' :: inside) = left + 1 :=
  depth_eq_of_within (within_unfinished named stillOpen)

/-- A complete piece stays the first one where the text behind it begins differently only by a
character that separates. -/
theorem First.of_head {position : Nat} {p : Piece} {rest other : Text}
    (first : First position p rest) (complete : p.isComplete = true)
    (head : ∀ c ∈ other.head?, c ∈ rest.head? ∨ separates c = true) : First position p other := by
  have stop : (∀ c ∈ rest.head?, endsTail c = true) → ∀ c ∈ other.head?, endsTail c = true := by
    intro stops c next
    rcases head c next with same | separate
    · exact stops c same
    · rw [separates, Bool.or_eq_true] at separate
      rcases separate with blank | closes
      · simp [endsTail, blank]
      · simp [endsTail, closes]
  have same : ∀ c, separates c = false → other.head? = some c → rest.head? = some c := by
    intro c plain next
    rcases head c next with same | separate
    · exact same
    · rw [plain] at separate
      cases separate
  cases first with
  | blank blank => exact .blank blank
  | stray => exact .stray
  | word nonempty unbroken stops free =>
      exact .word nonempty unbroken (stop stops) fun next => free (same '[' (by decide) next)
  | bracket named balanced ends =>
      refine .bracket named balanced ?_
      cases ends with
      | none stops => exact .none fun next => stops (same '*' (by decide) next)
      | count unbroken stops => exact .count unbroken (stop stops)
  | unfinished => simp [isComplete] at complete

theorem First.eq_nil_of_incomplete {position : Nat} {p : Piece} {rest : Text}
    (first : First position p rest) (incomplete : p.isComplete = false) :
    rest = [] ∧ ∃ name inside left, p.text = name ++ '[' :: inside ∧ Named name ∧
      within 0 inside = some left := by
  cases first with
  | @unfinished name inside left named stillOpen =>
      exact ⟨rfl, name, inside, left, rfl, named, stillOpen⟩
  | blank | stray | word | bracket => simp [isComplete] at incomplete

theorem depth_eq_of_complete {position : Nat} {p : Piece} {t : Text} (first : First position p t)
    (complete : p.isComplete = true) : depth (p.text ++ t) = depth t := by
  rw [depth_append, first.depth_eq_zero complete, depth]

/-- A text that ends inside brackets has a last piece that is not complete: the name and the inside
of the bracket that is open.  Whatever stood inside, the pieces before it would be the same. -/
theorem Cut.exists_open {position : Nat} {t : Text} {pieces : List Piece}
    (cut : Cut position t pieces []) (inBrackets : depth t ≠ 0) :
    ∃ before name inside left shown, t = before ++ (name ++ '[' :: inside) ∧ Named name ∧
      within 0 inside = some left ∧
        ∀ other, Cut position (before ++ (name ++ '[' :: other)) shown (name ++ '[' :: other) := by
  generalize atEnd : ([] : Text) = rest at cut
  induction cut with
  | done => exact absurd (by rw [← atEnd]; rfl) inBrackets
  | @piece position p t pieces rest first further ih =>
      cases complete : p.isComplete with
      | false =>
          obtain ⟨rfl, name, inside, left, shown, named, stillOpen⟩ :=
            first.eq_nil_of_incomplete complete
          exact ⟨[], name, inside, left, [], by simp [shown], named, stillOpen,
            fun other => .done position _⟩
      | true =>
          rw [depth_eq_of_complete first complete] at inBrackets
          obtain ⟨before, name, inside, left, shown, rfl, named, stillOpen, cuts⟩ :=
            ih inBrackets atEnd
          refine ⟨p.text ++ before, name, inside, left, p :: shown, by simp, named, stillOpen,
            fun other => ?_⟩
          rw [List.append_assoc]
          refine .piece (first.of_head complete fun c next => .inl ?_) (cuts other)
          simpa [List.head?_append] using next

/-- A text that ends outside all brackets is cut in the same way where a character that separates
follows it. -/
theorem Cut.before {position : Nat} {t : Text} {pieces : List Piece}
    (cut : Cut position t pieces []) (outside : depth t = 0) {rest : Text}
    (head : ∀ c ∈ rest.head?, separates c = true) : Cut position (t ++ rest) pieces rest := by
  generalize atEnd : ([] : Text) = stop at cut
  induction cut with
  | done position stop =>
      subst atEnd
      exact .done position rest
  | @piece position p t pieces stop first further ih =>
      have complete : p.isComplete = true := by
        rw [← Bool.not_eq_false]
        intro incomplete
        obtain ⟨rfl, name, inside, left, shown, named, stillOpen⟩ :=
          first.eq_nil_of_incomplete incomplete
        rw [List.append_nil, shown, depth_unfinished named stillOpen] at outside
        cases outside
      rw [depth_eq_of_complete first complete] at outside
      rw [List.append_assoc]
      refine .piece (first.of_head complete fun c next => ?_) (ih outside atEnd)
      cases t with
      | nil => exact .inr (head c next)
      | cons d t => exact .inl next

end Piece

end StepPattern
