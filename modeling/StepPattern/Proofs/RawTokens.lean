/-
# StepPattern.Proofs.RawTokens -- the raw tokens of texts put together

The pieces of a text do not depend on where it stands, but for the positions of
stray brackets (`Cut.moved`).  So where a text ends outside all brackets and
whitespace or a closing bracket follows, the pieces of the whole are those of the
two parts (`ofText_append`), and more generally a cut gives the raw tokens of a text
in two portions (`Cut.rawTokens_eq`).

The tokens that a text parses to come from its raw tokens alone, one by one
(`parseWithin_tokens`).
-/
import StepPattern.Proofs.Cut
import StepPattern.Tree

namespace StepPattern

set_option autoImplicit false

namespace Piece

open Text Scanner

def rawTokens (t : Text) : List Text :=
  tokens (ofText t)

/-- A piece found some characters further on. -/
def moved (distance : Nat) : Piece → Piece
  | stray position => stray (position + distance)
  | p => p

@[simp]
theorem text_moved (distance : Nat) (p : Piece) : (p.moved distance).text = p.text := by
  cases p <;> rfl

@[simp]
theorem token?_moved (distance : Nat) (p : Piece) : (p.moved distance).token? = p.token? := by
  cases p <;> rfl

@[simp]
theorem tokens_map_moved (distance : Nat) (pieces : List Piece) :
    tokens (pieces.map (moved distance)) = tokens pieces := by
  have same : token? ∘ moved distance = token? := funext (token?_moved distance)
  rw [tokens, List.filterMap_map, same, tokens]

@[simp]
theorem tokens_append (pieces more : List Piece) :
    tokens (pieces ++ more) = tokens pieces ++ tokens more :=
  List.filterMap_append

@[simp]
theorem errors_append (pieces more : List Piece) :
    errors (pieces ++ more) = errors pieces ++ errors more :=
  List.filterMap_append

theorem tokens_blanks (gap : Text) : tokens (gap.map .blank) = [] := by
  simp [tokens, token?]

theorem errors_blanks (gap : Text) : errors (gap.map .blank) = [] := by
  simp [errors, error?]

/-- Whitespace before a text is cut into blanks. -/
theorem Cut.blanks {position : Nat} {gap t rest : Text} {pieces : List Piece}
    (blank : ∀ c ∈ gap, isBlank c = true) (cut : Cut (position + gap.length) t pieces rest) :
    Cut position (gap ++ t) (gap.map .blank ++ pieces) rest := by
  induction gap generalizing position with
  | nil => exact cut
  | cons c gap ih =>
      obtain ⟨here, further⟩ := List.forall_mem_cons.1 blank
      rw [List.length_cons, Nat.add_comm gap.length, ← Nat.add_assoc] at cut
      exact .piece (.blank here) (ih further cut)

theorem First.moved {position : Nat} {p : Piece} {rest : Text} (first : First position p rest)
    (distance : Nat) : First (position + distance) (p.moved distance) rest := by
  cases first with
  | blank blank => exact .blank blank
  | stray => exact .stray
  | word nonempty unbroken stops free => exact .word nonempty unbroken stops free
  | bracket named balanced ends => exact .bracket named balanced ends
  | unfinished named stillOpen => exact .unfinished named stillOpen

theorem Cut.moved {position : Nat} {t rest : Text} {pieces : List Piece}
    (cut : Cut position t pieces rest) (distance : Nat) :
    Cut (position + distance) t (pieces.map (Piece.moved distance)) rest := by
  induction cut with
  | done => exact .done _ _
  | @piece position p t pieces rest first further ih =>
      rw [← text_moved distance p, List.map_cons]
      refine .piece (first.moved distance) ?_
      rw [text_moved, Nat.add_right_comm]
      exact ih

/-- The pieces of a text are those that are cut off, then those of the rest. -/
theorem Cut.ofText_eq {t rest : Text} {pieces : List Piece} (cut : Cut 0 t pieces rest) :
    ofText t = pieces ++ (ofText rest).map (Piece.moved (covered pieces).length) := by
  have further := (cut_ofText rest).moved (covered pieces).length
  exact (cut.append further).eq_ofText

/-- Where the first text ends outside all brackets, a character that separates keeps the pieces of
two texts apart. -/
theorem ofText_append {x y : Text} (outside : depth x = 0)
    (head : ∀ c ∈ y.head?, separates c = true) :
    ofText (x ++ y) = ofText x ++ (ofText y).map (Piece.moved x.length) := by
  rw [((cut_ofText x).before outside head).ofText_eq, covered_ofText]

theorem ofText_blank_cons {w : Char} (blank : isBlank w = true) (y : Text) :
    ofText (w :: y) = .blank w :: (ofText y).map (Piece.moved 1) := by
  have cut : Cut 0 ((Piece.blank w).text ++ y) [.blank w] y := .piece (.blank blank) (.done _ y)
  exact cut.ofText_eq

theorem rawTokens_append {x y : Text} (outside : depth x = 0)
    (head : ∀ c ∈ y.head?, separates c = true) :
    rawTokens (x ++ y) = rawTokens x ++ rawTokens y := by
  rw [rawTokens, ofText_append outside head, tokens_append, tokens_map_moved, rawTokens, rawTokens]

theorem rawTokens_blank_cons {w : Char} (blank : isBlank w = true) (y : Text) :
    rawTokens (w :: y) = rawTokens y := by
  have gap : tokens (.blank w :: (ofText y).map (Piece.moved 1)) =
      tokens ((ofText y).map (Piece.moved 1)) := rfl
  rw [rawTokens, ofText_blank_cons blank, gap, tokens_map_moved, rawTokens]

theorem rawTokens_append_blank {x : Text} (outside : depth x = 0) {w : Char}
    (blank : isBlank w = true) (y : Text) :
    rawTokens (x ++ w :: y) = rawTokens x ++ rawTokens y := by
  have head : ∀ c ∈ (w :: y).head?, separates c = true := by
    rintro c ⟨⟩
    rw [separates, blank, Bool.true_or]
  rw [rawTokens_append outside head, rawTokens_blank_cons blank]

theorem exists_first_of_rawToken {raw t : Text} (member : raw ∈ rawTokens t) :
    ∃ start after, First start (.token raw) after := by
  obtain ⟨p, found, same⟩ := List.mem_filterMap.1 member
  cases p with
  | blank | stray | unfinished => cases same
  | token _ =>
      cases same
      exact (cut_ofText t).exists_first found

theorem Cut.rawTokens_eq {t rest : Text} {pieces : List Piece} (cut : Cut 0 t pieces rest) :
    rawTokens t = tokens pieces ++ rawTokens rest := by
  rw [rawTokens, cut.ofText_eq, tokens_append, tokens_map_moved, rawTokens]

/-- A bracket that is never closed gives no token. -/
theorem rawTokens_unfinished {name inside : Text} {left : Nat} (named : Named name)
    (stillOpen : within 0 inside = some left) : rawTokens (name ++ '[' :: inside) = [] := by
  have cut : Cut 0 ((Piece.unfinished (left + 1) (name ++ '[' :: inside)).text ++ [])
      [.unfinished (left + 1) (name ++ '[' :: inside)] [] :=
    .piece (.unfinished named stillOpen) (.done _ [])
  rw [text, List.append_nil] at cut
  rw [cut.rawTokens_eq]
  rfl

/-- A bracket that is closed is cut off as one token, whose count is what follows directly. -/
theorem cut_bracket (position : Nat) {name inside tail : Text} (rest : Text) (named : Named name)
    (balanced : within 0 inside = some 0) (ends : Tail tail rest) :
    Cut position (name ++ '[' :: (inside ++ ']' :: (tail ++ rest)))
      [.token (name ++ '[' :: (inside ++ ']' :: tail))] rest := by
  have cut : Cut position ((Piece.token (name ++ '[' :: (inside ++ ']' :: tail))).text ++ rest)
      [.token (name ++ '[' :: (inside ++ ']' :: tail))] rest :=
    .piece (.bracket named balanced ends) (.done _ rest)
  have regrouped : (Piece.token (name ++ '[' :: (inside ++ ']' :: tail))).text ++ rest =
      name ++ '[' :: (inside ++ ']' :: (tail ++ rest)) := by simp [text]
  rwa [regrouped] at cut

theorem rawTokens_bracket {name inside tail rest : Text} (named : Named name)
    (balanced : within 0 inside = some 0) (ends : Tail tail rest) :
    rawTokens (name ++ '[' :: (inside ++ ']' :: (tail ++ rest))) =
      (name ++ '[' :: (inside ++ ']' :: tail)) :: rawTokens rest := by
  rw [(cut_bracket 0 rest named balanced ends).rawTokens_eq]
  rfl

end Piece

namespace Tree

/-- How an inside is parsed where so many levels are left. -/
def descend (s : CompileSettings) : Nat → Option (Text → Parsed)
  | 0 => none
  | levels + 1 => some (parseWithin s levels)

theorem parseWithin_eq (s : CompileSettings) (levels : Nat) (t : Text) :
    parseWithin s levels t = parseLevel s (descend s levels) t := by
  cases levels <;> rfl

/-- A whole text is parsed with all the levels of the limit. -/
theorem parse_eq_parseWithin (s : CompileSettings) (t : Text) :
    parse s t 0 = parseWithin s s.depthLimit t := by
  have levels : ((s.depthLimit : Int) - 0).toNat = s.depthLimit := by omega
  rw [parse, levels]

theorem parseWithin_tokens (s : CompileSettings) (levels : Nat) (t : Text) :
    (parseWithin s levels t).tokens =
      (Piece.rawTokens t).flatMap fun raw => (parseToken s (descend s levels) raw).tokens := by
  rw [parseWithin_eq, parseLevel, Parsed.concat, List.flatMap_map]
  rfl

end Tree

end StepPattern
