/-
# StepPattern.Proofs.Partition -- a text is its pieces, each of them where it belongs

`Stands pieces x p y` says that of some pieces one stands between a text and another.
A `Partition` of a text says which piece may stand where, in terms of the texts
before and behind it alone:

* outside brackets every whitespace character and every closing bracket is a piece
  of its own, and nothing else is such a piece;
* a token is a word or a bracket with its name and its count, and it ends only where
  the next character cannot belong to it;
* a last token is unfinished exactly where a bracket is open at the end.

The pieces that a scan finds are a partition, and there is no other
(`ofText_partition`).  One error is reported for each closing bracket that closes
nothing (`strays`), and one for the unfinished token.
-/
import StepPattern.Proofs.RawTokens

namespace StepPattern

set_option autoImplicit false

open Text Scanner

namespace Text

/-- Whether a text is a bracket with a name or nothing before it and a count or nothing behind it. -/
def Bracketed (raw : Text) : Prop :=
  ∃ name inside tail, raw = name ++ '[' :: (inside ++ ']' :: tail) ∧ Named name ∧ Balanced inside ∧
    (tail = [] ∨ ∃ count, tail = '*' :: count ∧ Unbroken count)

/-- The positions of the closing brackets in a text that close nothing. -/
def strays (t : Text) : List Nat :=
  (List.range t.length).filter fun i => t[i]? = some ']' ∧ depth (t.take i) = 0

theorem strays_append {x : Text} (outside : depth x = 0) (y : Text) :
    strays (x ++ y) = strays x ++ (strays y).map (x.length + ·) := by
  have deeperStill : ∀ i, depth (x ++ y.take i) = depth (y.take i) := fun i => by
    rw [depth_append, outside, depth]
  rw [strays, List.length_append, List.range_add, List.filter_append, List.filter_map, strays, strays]
  congr 1
  · refine List.filter_congr fun i inside => ?_
    have short : i < x.length := List.mem_range.1 inside
    rw [List.getElem?_append_left short, List.take_append_of_le_length (Nat.le_of_lt short)]
  · congr 1
    refine List.filter_congr fun i _ => ?_
    simp only [Function.comp_apply, List.getElem?_append_right (Nat.le_add_right x.length i),
      Nat.add_sub_cancel_left, List.take_length_add_append, deeperStill]

/-- Where no bracket is closed that was not opened, nothing is a stray. -/
theorem strays_of_within {left : Nat} {t : Text} (stillOpen : within 0 t = some left) :
    strays t = [] := by
  refine List.filter_eq_nil_iff.2 fun i _ stray => ?_
  obtain ⟨closes, outside⟩ := of_decide_eq_true stray
  obtain ⟨short, same⟩ := List.getElem?_eq_some_iff.1 closes
  have split : t = t.take i ++ ']' :: t.drop (i + 1) := by
    rw [← same, List.getElem_cons_drop, List.take_append_drop]
  rw [split, within_append] at stillOpen
  cases before : within 0 (t.take i) with
  | none => simp [before] at stillOpen
  | some open_ =>
      rw [depth_eq_of_within before] at outside
      subst outside
      simp [before] at stillOpen

end Text

namespace Piece

/-- `Stands pieces x p y`: one of the pieces is `p`, those before it cover `x` and those behind it
cover `y`. -/
def Stands (pieces : List Piece) (x : Text) (p : Piece) (y : Text) : Prop :=
  ∃ before after, pieces = before ++ p :: after ∧ covered before = x ∧ covered after = y

/-- The raw token of a piece, finished or not. -/
def raw? : Piece → Option Text
  | token raw | unfinished _ raw => some raw
  | _ => none

/-- Whether pieces are what a text falls into. -/
structure Partition (t : Text) (pieces : List Piece) : Prop where
  /-- Put back in order they are the text. -/
  whole : covered pieces = t
  /-- The blanks are the whitespace characters outside brackets. -/
  blank : ∀ x c y, Stands pieces x (.blank c) y ↔
    t = x ++ c :: y ∧ depth x = 0 ∧ isBlank c = true
  /-- The strays are the closing brackets outside brackets, with their positions. -/
  stray : ∀ x position y, Stands pieces x (.stray position) y ↔
    t = x ++ ']' :: y ∧ depth x = 0 ∧ position = x.length
  /-- An unfinished token is the last piece, and some brackets are open at its end. -/
  unfinished : ∀ x open_ raw y, Stands pieces x (.unfinished open_ raw) y →
    y = [] ∧ depth x = 0 ∧ open_ = depth t ∧ depth t ≠ 0 ∧
      ∃ name inside, raw = name ++ '[' :: inside ∧ Named name ∧ NeverCloses inside
  /-- Where brackets are open at the end, there is one. -/
  isUnfinished : depth t ≠ 0 → ∃ x raw, Stands pieces x (.unfinished (depth t) raw) []
  /-- A token stands outside brackets, and is a word or a bracket with its name and its count. -/
  token : ∀ x raw y, Stands pieces x (.token raw) y →
    depth x = 0 ∧ raw ≠ [] ∧ (Unbroken raw ∨ Bracketed raw)
  /-- Two tokens touch only behind a closing or before an opening bracket. -/
  touching : ∀ x raw y p z, Stands pieces x (.token raw) y → Stands pieces (x ++ raw) p z →
    ∀ next ∈ p.raw?, raw.getLast? = some ']' ∨ next.head? = some '['
  /-- A word directly before an opening bracket is no name. -/
  word : ∀ x raw y, Stands pieces x (.token raw) y → Unbroken raw → y.head? = some '[' →
    isIdentifier raw = false
  /-- Behind a closed bracket a count is part of the token. -/
  closed : ∀ x raw y, Stands pieces x (.token raw) y → raw.getLast? = some ']' →
    y.head? ≠ some '*'

variable {position : Nat} {t x y raw rest : Text} {p : Piece} {pieces : List Piece}

/-! ## Where pieces stand -/

/-- Every piece of a cut is the first one of what is left, outside all brackets. -/
theorem Cut.first_of_append {before after : List Piece}
    (cut : Cut position t (before ++ p :: after) rest) :
    depth (covered before) = 0 ∧
      First (position + (covered before).length) p (covered after ++ rest) := by
  induction before generalizing position t with
  | nil =>
      cases cut with
      | piece first further =>
          rw [further.covered_append]
          exact ⟨rfl, first⟩
  | cons q before ih =>
      cases cut with
      | piece first further =>
          obtain ⟨outside, here⟩ := ih further
          have complete : q.isComplete = true := by
            rw [← Bool.not_eq_false]
            intro incomplete
            obtain ⟨rfl, -⟩ := first.eq_nil_of_incomplete incomplete
            exact absurd further.eq_nil (by simp)
          rw [covered_cons, depth_append, first.depth_eq_zero complete, List.length_append,
            ← Nat.add_assoc]
          exact ⟨outside, here⟩

theorem first_of_stands (stands : Stands (ofText t) x p y) :
    t = x ++ (p.text ++ y) ∧ depth x = 0 ∧ First x.length p y := by
  obtain ⟨before, after, split, rfl, rfl⟩ := stands
  have cut := cut_ofText t
  have whole := covered_ofText t
  rw [split] at cut whole
  obtain ⟨outside, first⟩ := cut.first_of_append
  rw [Nat.zero_add, List.append_nil] at first
  exact ⟨by rw [← whole, covered_append, covered_cons], outside, first⟩

/-- A piece that separates is found where it stands, outside all brackets. -/
theorem stands_of_first (outside : depth x = 0) (first : First x.length p y)
    (head : ∀ c ∈ (p.text ++ y).head?, separates c = true) :
    Stands (ofText (x ++ (p.text ++ y))) x p y := by
  obtain ⟨after, further⟩ := exists_cut (x.length + p.text.length) y
  have here : Cut (0 + (covered (ofText x)).length) (p.text ++ y) (p :: after) [] := by
    rw [Nat.zero_add, covered_ofText]
    exact .piece first further
  have cut := ((cut_ofText x).before outside head).append here
  refine ⟨ofText x, after, cut.eq_ofText, covered_ofText x, ?_⟩
  simpa using further.covered_append

/-! ## Where tokens end -/

/-- A bracket without a count ends before anything but `*`, any other token before whitespace and
brackets. -/
theorem First.behind_token (first : First position (.token raw) rest) :
    raw.getLast? = some ']' ∧ rest.head? ≠ some '*' ∨
      raw.getLast? ≠ some ']' ∧ ∀ c ∈ rest.head?, endsTail c = true := by
  cases first with
  | word nonempty unbroken stops free =>
      exact .inr ⟨unbroken.getLast?_ne, stops⟩
  | @bracket name inside tail _ named balanced ends =>
      cases ends with
      | none stops => exact .inl ⟨getLast?_bracket name inside, stops⟩
      | count unbroken stops =>
          exact .inr ⟨getLast?_bracket_count name inside unbroken, stops⟩

theorem text_of_raw? {next : Text} (shown : next ∈ p.raw?) : p.text = next := by
  cases p <;> cases shown <;> rfl

/-- A token begins with an opening bracket, or with a character that no word ends at. -/
theorem First.head_token {next : Text} (first : First position p rest) (shown : next ∈ p.raw?)
    {c : Char} (head : c ∈ next.head?) : c = '[' ∨ endsTail c = false := by
  have named : ∀ {name t : Text}, Named name → c ∈ (name ++ '[' :: t).head? →
      c = '[' ∨ endsTail c = false := by
    intro name t named head
    cases name with
    | nil => exact .inl (Option.mem_some.1 head).symm
    | cons d name =>
        obtain rfl := Option.mem_some.1 head
        exact .inr (named.unbroken _ List.mem_cons_self)
  cases first with
  | blank | stray => cases shown
  | word nonempty unbroken =>
      cases shown
      exact .inr (unbroken c (List.mem_of_head? head))
  | bracket isNamed | unfinished isNamed =>
      cases shown
      exact named isNamed head

theorem First.token_form (first : First position (.token raw) rest) :
    raw ≠ [] ∧ (Unbroken raw ∨ Bracketed raw) := by
  refine ⟨first.text_ne_nil, ?_⟩
  cases first with
  | word nonempty unbroken => exact .inl unbroken
  | @bracket name inside tail _ named balanced ends =>
      refine .inr ⟨name, inside, tail, rfl, named, balanced_iff.2 balanced, ?_⟩
      cases ends with
      | none => exact .inl rfl
      | count unbroken => exact .inr ⟨_, rfl, unbroken⟩

/-! ## The pieces of a text are a partition -/

theorem unfinished_of_stands {open_ : Nat}
    (stands : Stands (ofText t) x (.unfinished open_ raw) y) :
    y = [] ∧ depth x = 0 ∧ open_ = depth t ∧ depth t ≠ 0 ∧
      ∃ name inside, raw = name ++ '[' :: inside ∧ Named name ∧ NeverCloses inside := by
  obtain ⟨rfl, outside, first⟩ := first_of_stands stands
  cases first with
  | @unfinished name inside left named stillOpen =>
      have deep : depth (x ++ ((Piece.unfinished (left + 1) (name ++ '[' :: inside)).text ++ [])) =
          left + 1 := by
        rw [List.append_nil, depth_append, outside]
        exact depth_unfinished named stillOpen
      rw [deep]
      exact ⟨rfl, outside, rfl, Nat.succ_ne_zero left, name, inside, rfl, named,
        (within_isSome_iff inside).1 (Option.isSome_of_eq_some stillOpen)⟩

theorem stands_blank_iff {c : Char} :
    Stands (ofText t) x (.blank c) y ↔ t = x ++ c :: y ∧ depth x = 0 ∧ isBlank c = true := by
  constructor
  · intro stands
    obtain ⟨rfl, outside, first⟩ := first_of_stands stands
    cases first with
    | blank blank => exact ⟨rfl, outside, blank⟩
  · rintro ⟨rfl, outside, blank⟩
    have first : First x.length (.blank c) y := .blank blank
    refine stands_of_first outside first ?_
    rintro d ⟨⟩
    rw [separates, blank, Bool.true_or]

theorem stands_stray_iff :
    Stands (ofText t) x (.stray position) y ↔
      t = x ++ ']' :: y ∧ depth x = 0 ∧ position = x.length := by
  constructor
  · intro stands
    obtain ⟨rfl, outside, first⟩ := first_of_stands stands
    cases first with
    | stray => exact ⟨rfl, outside, rfl⟩
  · rintro ⟨rfl, outside, rfl⟩
    have first : First x.length (.stray x.length) y := .stray
    refine stands_of_first outside first ?_
    rintro d ⟨⟩
    rfl

/-- A text that ends inside brackets has an unfinished token at its end. -/
theorem exists_stands_unfinished (inBrackets : depth t ≠ 0) :
    ∃ x raw, Stands (ofText t) x (.unfinished (depth t) raw) [] := by
  obtain ⟨before, name, inside, left, shown, rfl, named, stillOpen, cuts⟩ :=
    (cut_ofText t).exists_open inBrackets
  have covers : covered shown = before := by simpa using (cuts inside).covered_append
  have last : Cut (0 + (covered shown).length)
      ((Piece.unfinished (left + 1) (name ++ '[' :: inside)).text ++ [])
      [.unfinished (left + 1) (name ++ '[' :: inside)] [] :=
    .piece (.unfinished named stillOpen) (.done _ [])
  rw [text, List.append_nil] at last
  have stands : Stands (ofText (before ++ (name ++ '[' :: inside))) before
      (.unfinished (left + 1) (name ++ '[' :: inside)) [] :=
    ⟨shown, [], ((cuts inside).append last).eq_ofText, covers, rfl⟩
  obtain ⟨-, -, same, -⟩ := unfinished_of_stands stands
  exact ⟨before, _, same ▸ stands⟩

/-- A token that touches a token ends with a closing bracket, or the other begins with an opening
one. -/
theorem touching_of_stands {z next : Text} (stands : Stands (ofText t) x (.token raw) y)
    (further : Stands (ofText t) (x ++ raw) p z) (shown : next ∈ p.raw?) :
    raw.getLast? = some ']' ∨ next.head? = some '[' := by
  obtain ⟨split, -, first⟩ := first_of_stands stands
  obtain ⟨again, -, second⟩ := first_of_stands further
  have behind : y = next ++ z := by
    rw [split, List.append_assoc, text_of_raw? shown] at again
    exact List.append_cancel_left (List.append_cancel_left again)
  rcases first.behind_token with ⟨closed, -⟩ | ⟨-, stops⟩
  · exact .inl closed
  · have nonempty := second.text_ne_nil
    rw [text_of_raw? shown] at nonempty
    obtain ⟨c, more, rfl⟩ := List.exists_cons_of_ne_nil nonempty
    rcases second.head_token shown (c := c) rfl with rfl | plain
    · exact .inr rfl
    · rw [stops c (by rw [behind]; rfl)] at plain
      cases plain

theorem partition_ofText (t : Text) : Partition t (ofText t) where
  whole := covered_ofText t
  blank := fun _ _ _ => stands_blank_iff
  stray := fun _ _ _ => stands_stray_iff
  unfinished := fun _ _ _ _ stands => unfinished_of_stands stands
  isUnfinished := exists_stands_unfinished
  token := by
    intro x raw y stands
    obtain ⟨-, outside, first⟩ := first_of_stands stands
    exact ⟨outside, first.token_form⟩
  touching := fun _ _ _ _ _ stands further _ shown => touching_of_stands stands further shown
  word := by
    intro x raw y stands unbroken opened
    obtain ⟨-, -, first⟩ := first_of_stands stands
    cases first with
    | word _ _ _ free => exact free opened
    | bracket => exact absurd (by simp) unbroken.open_notMem
  closed := by
    intro x raw y stands closed
    obtain ⟨-, -, first⟩ := first_of_stands stands
    rcases first.behind_token with ⟨-, noCount⟩ | ⟨open_, -⟩
    · exact noCount
    · exact absurd closed open_

/-! ## There is no other partition -/

namespace Partition

variable {before after : List Piece}

/-- In a partition too, whitespace or a bracket stands behind a token that no bracket closes. -/
theorem endsTail_behind (partition : Partition t pieces)
    (split : pieces = before ++ .token raw :: after) (noClose : raw.getLast? ≠ some ']') :
    ∀ c ∈ (covered after).head?, endsTail c = true := by
  intro c head
  cases after with
  | nil => cases head
  | cons q after =>
      have here : Stands pieces (covered before) (.token raw) (covered (q :: after)) :=
        ⟨before, _, split, rfl, rfl⟩
      have behind : Stands pieces (covered before ++ raw) q (covered after) := by
        refine ⟨before ++ [.token raw], after, by rw [split]; simp, ?_, rfl⟩
        simp [text]
      have opens : ∀ next ∈ q.raw?, endsTail c = true := by
        intro next shown
        have opened := (partition.touching _ _ _ _ _ here behind next shown).resolve_left noClose
        obtain ⟨more, rfl⟩ := List.head?_eq_some_iff.1 opened
        rw [covered_cons, text_of_raw? shown] at head
        cases head
        rfl
      cases q with
      | blank d =>
          obtain ⟨-, -, blank⟩ := (partition.blank _ _ _).1 behind
          cases head
          simp [endsTail, blank]
      | stray =>
          cases head
          rfl
      | token next | unfinished _ next => exact opens next rfl

/-- Each piece of a partition is the first one of what is left. -/
theorem first (partition : Partition t pieces) (split : pieces = before ++ p :: after) :
    First (covered before).length p (covered after) := by
  have stands : Stands pieces (covered before) p (covered after) := ⟨before, after, split, rfl, rfl⟩
  cases p with
  | blank c => exact .blank ((partition.blank _ _ _).1 stands).2.2
  | stray position =>
      obtain ⟨-, -, rfl⟩ := (partition.stray _ _ _).1 stands
      exact .stray
  | token raw =>
      obtain ⟨-, nonempty, unbroken | bracketed⟩ := partition.token _ _ _ stands
      · exact .word nonempty unbroken (partition.endsTail_behind split unbroken.getLast?_ne)
          (partition.word _ _ _ stands unbroken)
      · obtain ⟨name, inside, tail, rfl, named, balanced, ends⟩ := bracketed
        refine .bracket named (balanced_iff.1 balanced) ?_
        rcases ends with rfl | ⟨count, rfl, unbroken⟩
        · exact .none (partition.closed _ _ _ stands (getLast?_bracket name inside))
        · exact .count unbroken
            (partition.endsTail_behind split (getLast?_bracket_count name inside unbroken))
  | unfinished open_ raw =>
      obtain ⟨nothing, outside, deep, -, name, inside, rfl, named, neverCloses⟩ :=
        partition.unfinished _ _ _ _ stands
      obtain ⟨left, stillOpen⟩ := Option.isSome_iff_exists.1 ((within_isSome_iff inside).2 neverCloses)
      have whole : t = covered before ++ (name ++ '[' :: inside) := by
        rw [← partition.whole, split, covered_append, covered_cons, nothing, List.append_nil, text]
      obtain rfl : open_ = left + 1 := by
        rw [deep, whole, depth_append, outside]
        exact depth_unfinished named stillOpen
      rw [nothing]
      exact .unfinished named stillOpen

theorem cut (partition : Partition t pieces) (before : List Piece)
    (split : pieces = before ++ after) :
    Cut (covered before).length (covered after) after [] := by
  induction after generalizing before with
  | nil => exact .done _ []
  | cons p after ih =>
      have further := ih (before ++ [p]) (by rw [split, List.append_cons])
      rw [covered_cons]
      refine .piece (partition.first split) ?_
      simpa using further

theorem eq_ofText (partition : Partition t pieces) : ofText t = pieces := by
  have cut := partition.cut [] (List.nil_append pieces).symm
  rw [partition.whole] at cut
  exact cut.eq_ofText

end Partition

/-! ## Errors -/

theorem errors_cons (p : Piece) (pieces : List Piece) :
    errors (p :: pieces) = p.error?.toList ++ errors pieces := by
  rw [errors, List.filterMap_cons]
  cases p.error? <;> rfl

theorem strays_blank {c : Char} (blank : isBlank c = true) : strays [c] = [] := by
  refine strays_of_within (within_of_forall_ne (fun d member => ?_) 0)
  rw [List.mem_singleton.1 member]
  exact ne_of_isBlank blank

/-- A complete piece reports the strays in it: its own bracket, if it is one. -/
theorem First.error?_eq (first : First position p rest) (complete : p.isComplete = true) :
    p.error?.toList = (strays p.text).map fun i => .strayBracket (position + i) := by
  cases first with
  | @blank c _ blank =>
      have nothing : strays (Piece.blank c).text = [] := strays_blank blank
      rw [nothing]
      rfl
  | stray => rfl
  | @word w _ _ unbroken =>
      have nothing : strays (Piece.token w).text = [] := strays_of_within (unbroken.within_eq 0)
      rw [nothing]
      rfl
  | @bracket name inside tail _ named balanced ends =>
      have whole : First position (.token (name ++ '[' :: (inside ++ ']' :: tail))) rest :=
        .bracket named balanced ends
      have nothing : strays (Piece.token (name ++ '[' :: (inside ++ ']' :: tail))).text = [] :=
        strays_of_within (whole.within_eq 0)
      rw [nothing]
      rfl
  | unfinished => simp [isComplete] at complete

/-- The pieces of a text report its strays, and then what is unfinished at its end. -/
theorem Cut.errors_eq (cut : Cut position t pieces []) :
    ∃ last, errors pieces = (strays t).map (fun i => .strayBracket (position + i)) ++ last ∧
      (depth t = 0 ∧ last = [] ∨ depth t ≠ 0 ∧ ∃ raw, last = [.unfinished (depth t) raw] ∧
        pieces.getLast? = some (.unfinished (depth t) raw)) := by
  generalize atEnd : ([] : Text) = stop at cut
  induction cut with
  | done position stop =>
      subst atEnd
      exact ⟨[], rfl, .inl ⟨rfl, rfl⟩⟩
  | @piece position p t pieces stop first further ih =>
      cases complete : p.isComplete with
      | false =>
          cases first with
          | blank | stray | word | bracket => simp [isComplete] at complete
          | @unfinished name inside left named stillOpen =>
              have noStray := strays_of_within (within_unfinished named stillOpen)
              have deep := depth_unfinished named stillOpen
              rw [text, List.append_nil, further.eq_nil, noStray, deep]
              exact ⟨_, rfl, .inr ⟨Nat.succ_ne_zero left, _, rfl, rfl⟩⟩
      | true =>
          obtain ⟨last, reported, ends⟩ := ih atEnd
          refine ⟨last, ?_, ?_⟩
          · rw [errors_cons, reported, first.error?_eq complete,
              strays_append (first.depth_eq_zero complete), List.map_append, List.map_map,
              List.append_assoc]
            simp only [Function.comp_def, Nat.add_assoc]
          · rw [depth_eq_of_complete first complete]
            rcases ends with outside | ⟨inBrackets, raw, same, lastly⟩
            · exact .inl outside
            · refine .inr ⟨inBrackets, raw, same, ?_⟩
              rw [List.getLast?_cons, lastly, Option.getD_some]

/-- **The specification of the scan.**  The pieces of a text are the one partition of it: in order
they give exactly the text, and each is what may stand where it does.  The scan reports each closing
bracket that closes nothing, with its position, and last the token that is unfinished, if there is
one, with the number of brackets that are open in it. -/
theorem ofText_partition (t : Text) :
    (∀ pieces, ofText t = pieces ↔ Partition t pieces) ∧
    (∃ last, errors (ofText t) = (strays t).map .strayBracket ++ last ∧
      (depth t = 0 ∧ last = [] ∨ depth t ≠ 0 ∧ ∃ raw, last = [.unfinished (depth t) raw] ∧
        (ofText t).getLast? = some (.unfinished (depth t) raw))) ∧
    (∀ position, (PatternError.strayBracket position).errorClass = .malformedToken) ∧
    ∀ open_ raw, (PatternError.unfinished open_ raw).errorClass = .unbalancedBrackets := by
  refine ⟨fun pieces => ⟨?_, Partition.eq_ofText⟩, ?_, fun _ => rfl, fun _ _ => rfl⟩
  · rintro rfl
    exact partition_ofText t
  · have reported := (cut_ofText t).errors_eq
    simp only [Nat.zero_add] at reported
    exact reported

example : ofText "1 up[2]] [3".toList =
    [.token "1".toList, .blank ' ', .token "up[2]".toList, .stray 7, .blank ' ',
      .unfinished 1 "[3".toList] := by
  decide +kernel

end Piece

end StepPattern
