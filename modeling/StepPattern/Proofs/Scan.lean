/-
# StepPattern.Proofs.Scan -- how a scan goes on from a mode

What a scan finds in a text depends on what it has read before only through its
mode and its position: `piecesFrom position mode t` is what it adds from there on
(`finish_readAll`).  One character completes some pieces and changes the mode
(`piecesFrom_cons`).

From this follow the long strides of a scan: over an unbroken word, over the
inside of a bracket, over a count, and the end of each kind of token, where the
scan goes on as if it had just begun.
-/
import StepPattern.Proofs.Brackets

namespace StepPattern

set_option autoImplicit false

namespace ScanMode

def next (mode : ScanMode) (c : Char) : ScanMode :=
  (Scanner.readIn 0 [] c mode).1

/-- The pieces that one more character completes, in order. -/
def completes (mode : ScanMode) (position : Nat) (c : Char) : List Piece :=
  (Scanner.readIn position [] c mode).2.reverse

def depth : ScanMode → Nat
  | bracket _ inner => inner + 1
  | _ => 0

end ScanMode

namespace Scanner

/-! ## Depth -/

/-- The number of brackets that a scan has open when it has read a text. -/
def depthAt (t : Text) : Nat :=
  (start.readAll t).mode.depth

theorem depth_readOutside (position : Nat) (pieces : List Piece) (pending : Text) (c : Char) :
    (readOutside position pieces pending c).1.depth = Text.deeper 0 c := by
  unfold readOutside
  by_cases blank : Text.isBlank c = true
  · obtain ⟨noOpen, noClose⟩ := Text.ne_of_isBlank blank
    rw [if_pos blank, Text.deeper, if_neg noOpen, if_neg noClose]
    rfl
  · rw [if_neg blank]
    by_cases opens : c = '['
    · rw [if_pos opens, Text.deeper, if_pos opens]
      split <;> rfl
    · rw [if_neg opens, Text.deeper, if_neg opens]
      split <;> rfl

theorem depth_readInside (pending : Text) (inner : Nat) (c : Char) :
    (readInside pending inner c).depth = Text.deeper (inner + 1) c := by
  unfold readInside Text.deeper
  by_cases opens : c = '['
  · rw [if_pos opens, if_pos opens]
    rfl
  · rw [if_neg opens, if_neg opens]
    by_cases closes : c = ']'
    · rw [if_pos closes, if_pos closes]
      cases inner <;> rfl
    · rw [if_neg closes, if_neg closes]
      rfl

/-- One character changes the depth of a scan as it changes the depth of a text. -/
theorem depth_read (s : Scanner) (c : Char) :
    (s.read c).mode.depth = Text.deeper s.mode.depth c := by
  obtain ⟨position, mode, pieces⟩ := s
  cases mode with
  | word pending => exact depth_readOutside position pieces pending c
  | bracket pending inner => exact depth_readInside pending inner c
  | closed pending =>
      by_cases star : c = '*'
      · subst star
        rfl
      · simp only [read, readIn, if_neg star]
        exact depth_readOutside position _ [] c
  | tail pending =>
      by_cases ends : endsTail c = true
      · simp only [read, readIn, if_pos ends]
        exact depth_readOutside position _ [] c
      · obtain ⟨-, noOpen, noClose⟩ := Text.endsTail_eq_false.1 (Bool.eq_false_iff.2 ends)
        simp only [read, readIn, if_neg ends, ScanMode.depth, Text.deeper, if_neg noOpen,
          if_neg noClose]

/-- **A scan has as many brackets open as a text has.** -/
theorem depthAt_eq (t : Text) : depthAt t = Text.depth t := by
  have from_ : ∀ s : Scanner, (s.readAll t).mode.depth = t.foldl Text.deeper s.mode.depth := by
    induction t with
    | nil => exact fun _ => rfl
    | cons c t ih =>
        intro s
        rw [List.foldl_cons, ← depth_read]
        exact ih (s.read c)
  exact from_ start

/-! ## One character -/

theorem flush_eq_append (pending : Text) (pieces : List Piece) :
    flush pending pieces = flush pending [] ++ pieces := by
  unfold flush
  split <;> rfl

theorem readOutside_eq (position : Nat) (pieces : List Piece) (pending : Text) (c : Char) :
    readOutside position pieces pending c =
      ((readOutside 0 [] pending c).1, (readOutside position [] pending c).2 ++ pieces) := by
  unfold readOutside
  split
  · rw [flush_eq_append]
    rfl
  · split
    · split
      · rfl
      · rw [flush_eq_append]
    · split
      · rw [flush_eq_append]
        rfl
      · rfl

/-- One character changes the mode and completes pieces, whatever was found before it. -/
theorem readIn_eq (position : Nat) (pieces : List Piece) (c : Char) (mode : ScanMode) :
    readIn position pieces c mode =
      (mode.next c, (mode.completes position c).reverse ++ pieces) := by
  unfold ScanMode.next ScanMode.completes
  rw [List.reverse_reverse]
  cases mode with
  | word pending => exact readOutside_eq position pieces pending c
  | bracket pending inner => rfl
  | closed pending =>
      simp only [readIn]
      split
      · rfl
      · rw [readOutside_eq position (flush pending pieces), readOutside_eq 0 (flush pending []),
          readOutside_eq position (flush pending []), flush_eq_append pending pieces]
        simp
  | tail pending =>
      simp only [readIn]
      split
      · rw [readOutside_eq position (flush pending pieces), readOutside_eq 0 (flush pending []),
          readOutside_eq position (flush pending []), flush_eq_append pending pieces]
        simp
      · rfl

/-! ## A text -/

/-- The pieces that a scan adds which reads a text from a position and a mode on. -/
def piecesFrom (position : Nat) (mode : ScanMode) (t : Text) : List Piece :=
  (readAll { position, mode, pieces := [] } t).finish

theorem finish_eq (s : Scanner) :
    s.finish = s.pieces.reverse ++ piecesFrom s.position s.mode [] := by
  obtain ⟨position, mode, pieces⟩ := s
  cases mode with
  | word pending | closed pending | tail pending =>
      simp only [piecesFrom, readAll, List.foldl_nil, finish]
      rw [flush_eq_append, List.reverse_append]
  | bracket pending inner => simp [piecesFrom, readAll, finish]

/-- What a scan finds in the end is what it had found, and what it adds from its mode on. -/
theorem finish_readAll (s : Scanner) (t : Text) :
    (s.readAll t).finish = s.pieces.reverse ++ piecesFrom s.position s.mode t := by
  induction t generalizing s with
  | nil => exact finish_eq s
  | cons c t ih =>
      have step : ∀ pieces, read { s with pieces } c =
          { position := s.position + 1, mode := s.mode.next c,
            pieces := (s.mode.completes s.position c).reverse ++ pieces } := by
        intro pieces
        simp only [read, readIn_eq]
      have all : s.readAll (c :: t) = (s.read c).readAll t := rfl
      have fresh : piecesFrom s.position s.mode (c :: t) =
          ((read { s with pieces := [] } c).readAll t).finish := rfl
      rw [all, fresh, ih, ih, step s.pieces, step []]
      simp

theorem piecesFrom_cons (position : Nat) (mode : ScanMode) (c : Char) (t : Text) :
    piecesFrom position mode (c :: t) =
      mode.completes position c ++ piecesFrom (position + 1) (mode.next c) t := by
  have read_eq : read { position, mode, pieces := [] } c =
      { position := position + 1, mode := mode.next c,
        pieces := (mode.completes position c).reverse } := by
    simp only [read, readIn_eq, List.append_nil]
  calc piecesFrom position mode (c :: t)
      = ((read { position, mode, pieces := [] } c).readAll t).finish := rfl
    _ = mode.completes position c ++ piecesFrom (position + 1) (mode.next c) t := by
        rw [read_eq, finish_readAll, List.reverse_reverse]

/-! ## Strides -/

section Strides

variable (position : Nat) (pending t : Text)

theorem piecesFrom_word_plain {c : Char} (plain : endsTail c = false) :
    piecesFrom position (.word pending) (c :: t) =
      piecesFrom (position + 1) (.word (c :: pending)) t := by
  obtain ⟨noBlank, noOpen, noClose⟩ := Text.endsTail_eq_false.1 plain
  rw [piecesFrom_cons]
  simp [ScanMode.next, ScanMode.completes, readIn, readOutside, noBlank, noOpen, noClose]

theorem piecesFrom_tail_plain {c : Char} (plain : endsTail c = false) :
    piecesFrom position (.tail pending) (c :: t) =
      piecesFrom (position + 1) (.tail (c :: pending)) t := by
  rw [piecesFrom_cons]
  simp [ScanMode.next, ScanMode.completes, readIn, plain]

theorem piecesFrom_bracket_cons (inner : Nat) (c : Char) :
    piecesFrom position (.bracket pending inner) (c :: t) =
      piecesFrom (position + 1) (readInside pending inner c) t := by
  rw [piecesFrom_cons]
  simp [ScanMode.next, ScanMode.completes, readIn]

/-- A scan goes over an unbroken word in one stride. -/
theorem piecesFrom_word_append {w : Text} (unbroken : Text.Unbroken w) :
    piecesFrom position (.word pending) (w ++ t) =
      piecesFrom (position + w.length) (.word (w.reverse ++ pending)) t := by
  induction w generalizing position pending with
  | nil => rfl
  | cons c w ih =>
      obtain ⟨plain, further⟩ := Text.unbroken_cons.1 unbroken
      rw [List.cons_append, piecesFrom_word_plain _ _ _ plain, ih _ _ further]
      simp [Nat.add_assoc, Nat.add_comm 1]

/-- A scan goes over an unbroken count in one stride. -/
theorem piecesFrom_tail_append {w : Text} (unbroken : Text.Unbroken w) :
    piecesFrom position (.tail pending) (w ++ t) =
      piecesFrom (position + w.length) (.tail (w.reverse ++ pending)) t := by
  induction w generalizing position pending with
  | nil => rfl
  | cons c w ih =>
      obtain ⟨plain, further⟩ := Text.unbroken_cons.1 unbroken
      rw [List.cons_append, piecesFrom_tail_plain _ _ _ plain, ih _ _ further]
      simp [Nat.add_assoc, Nat.add_comm 1]

/-- A scan goes over what leaves the inside of a bracket open in one stride. -/
theorem piecesFrom_bracket_append {inner left : Nat} {z : Text}
    (stillOpen : Text.within inner z = some left) :
    piecesFrom position (.bracket pending inner) (z ++ t) =
      piecesFrom (position + z.length) (.bracket (z.reverse ++ pending) left) t := by
  have lengths : ∀ (position : Nat) (c : Char) (z : Text),
      position + (c :: z).length = position + 1 + z.length := by
    intro position c z
    rw [List.length_cons]
    omega
  have reversed : ∀ (pending : Text) (c : Char) (z : Text),
      (c :: z).reverse ++ pending = z.reverse ++ c :: pending := by simp
  induction inner, z using Text.within_induction generalizing position pending with
  | nil inner =>
      cases stillOpen
      rfl
  | opens inner z ih =>
      rw [Text.within_open] at stillOpen
      rw [List.cons_append, piecesFrom_bracket_cons, lengths, reversed]
      exact ih _ _ stillOpen
  | last z =>
      rw [Text.within_close_zero] at stillOpen
      cases stillOpen
  | closes outer z ih =>
      rw [Text.within_close_succ] at stillOpen
      rw [List.cons_append, piecesFrom_bracket_cons, lengths, reversed]
      exact ih _ _ stillOpen
  | other inner c z noOpen noClose ih =>
      rw [Text.within_other _ _ noOpen noClose] at stillOpen
      have stays : readInside pending inner c = .bracket (c :: pending) inner := by
        simp [readInside, noOpen, noClose]
      rw [List.cons_append, piecesFrom_bracket_cons, lengths, reversed, stays]
      exact ih _ _ stillOpen

/-! ## The end of a token -/

/-- A pending word is a token where whitespace or a bracket ends it, unless the bracket belongs to
the word. -/
theorem piecesFrom_word_end (nonempty : pending ≠ [])
    (stops : ∀ c ∈ t.head?, endsTail c = true)
    (free : t.head? = some '[' → Text.isIdentifier pending.reverse = false) :
    piecesFrom position (.word pending) t =
      .token pending.reverse :: piecesFrom position (.word []) t := by
  have some_pending : pending.isEmpty = false := by simpa using nonempty
  cases t with
  | nil => simp [piecesFrom, readAll, finish, flush, some_pending]
  | cons c t =>
      have stop : endsTail c = true := stops c rfl
      rw [piecesFrom_cons, piecesFrom_cons]
      by_cases blank : Text.isBlank c = true
      · simp [ScanMode.next, ScanMode.completes, readIn, readOutside, flush, blank, some_pending]
      · by_cases opens : c = '['
        · subst opens
          have noName : Text.isIdentifier pending.reverse = false := free rfl
          have empty : Text.isIdentifier [] = false := by decide
          simp [ScanMode.next, ScanMode.completes, readIn, readOutside, flush, blank, noName, empty,
            some_pending]
        · have closes : c = ']' := by
            simp only [endsTail, Bool.or_eq_true, decide_eq_true_eq] at stop
            rcases stop with (blank' | opens') | closes
            · exact absurd blank' blank
            · exact absurd opens' opens
            · exact closes
          subst closes
          simp [ScanMode.next, ScanMode.completes, readIn, readOutside, flush, blank, some_pending]

/-- A closed bracket is a token unless a count follows. -/
theorem piecesFrom_closed_end (nonempty : pending ≠ []) (stops : t.head? ≠ some '*') :
    piecesFrom position (.closed pending) t =
      .token pending.reverse :: piecesFrom position (.word []) t := by
  have some_pending : pending.isEmpty = false := by simpa using nonempty
  cases t with
  | nil => simp [piecesFrom, readAll, finish, flush, some_pending]
  | cons c t =>
      have noCount : c ≠ '*' := fun same => stops (same ▸ rfl)
      have outside : readOutside position (flush pending []) [] c =
          ((readOutside 0 [] [] c).1, (readOutside position [] [] c).2 ++ flush pending []) :=
        readOutside_eq position (flush pending []) [] c
      rw [piecesFrom_cons, piecesFrom_cons]
      simp only [ScanMode.next, ScanMode.completes, readIn, if_neg noCount, outside,
        readOutside_eq 0 (flush pending [])]
      simp [flush, some_pending]

/-- A closed bracket with its count is a token where whitespace or a bracket ends the count. -/
theorem piecesFrom_tail_end (nonempty : pending ≠ [])
    (stops : ∀ c ∈ t.head?, endsTail c = true) :
    piecesFrom position (.tail pending) t =
      .token pending.reverse :: piecesFrom position (.word []) t := by
  have some_pending : pending.isEmpty = false := by simpa using nonempty
  cases t with
  | nil => simp [piecesFrom, readAll, finish, flush, some_pending]
  | cons c t =>
      have stop : endsTail c = true := stops c rfl
      have outside : readOutside position (flush pending []) [] c =
          ((readOutside 0 [] [] c).1, (readOutside position [] [] c).2 ++ flush pending []) :=
        readOutside_eq position (flush pending []) [] c
      rw [piecesFrom_cons, piecesFrom_cons]
      simp only [ScanMode.next, ScanMode.completes, readIn, if_pos stop, outside,
        readOutside_eq 0 (flush pending [])]
      simp [flush, some_pending]

end Strides

end Scanner

end StepPattern
