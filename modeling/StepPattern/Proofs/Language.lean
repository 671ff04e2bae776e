/-
# StepPattern.Proofs.Language -- parsing decides the grammar

A text is parsed without a diagnostic exactly when it is a pattern, and the tokens
are then those that it stands for (`Tree.parse_eq_iff`).  Both directions go level
by level: inside a level, a derivation gives a cut of the text into pieces and a cut
gives a derivation, item by item.
-/
import Mathlib.Data.List.Basic
import StepPattern.Proofs.Classify
import StepPattern.Proofs.RawTokens

namespace StepPattern

set_option autoImplicit false

open Text Scanner Piece

namespace Grammar

/-! ## The texts of items and patterns -/

section Texts

variable {restSymbol : Text} {levels : Nat}

theorem Name.named {t : Text} {call : Option Call} (names : Name t call) : Named t := by
  cases names with
  | none => exact .inl rfl
  | plain letters =>
      have identifier := isIdentifier_append letters (List.forall_mem_nil _)
      rw [List.append_nil] at identifier
      exact .inr identifier
  | fused letters decimal => exact .inr (isIdentifier_append letters decimal.2.1)

theorem Times.unbroken {t : Text} {count : Option Nat} (times : Times t count) : Unbroken t := by
  cases times with
  | none => exact unbroken_nil
  | count counts => exact unbroken_cons.2 ⟨by decide, counts.1.unbroken⟩

theorem Times.tail {t : Text} {count : Option Nat} (times : Times t count) : Tail t [] := by
  cases times with
  | none => exact .none (by simp)
  | count counts => exact .count counts.1.unbroken (by simp)

theorem Item.ne_nil (allowed : isRestSymbol restSymbol = true) {token : Token} {t : Text}
    (item : Item restSymbol levels token t) : t ≠ [] := by
  cases item with
  | value value => exact value.ne_nil allowed
  | repeated | bracket => simp

/-- No item begins with a character that a bracket or a stray bracket would claim. -/
theorem Item.head_ne (allowed : isRestSymbol restSymbol = true) {token : Token} {t : Text}
    (item : Item restSymbol levels token t) {c : Char} (claimed : c = '*' ∨ c = ']') :
    t.head? ≠ some c := by
  have noClaim : ∀ {w : Text}, Unbroken w → '*' ∉ w → w.head? ≠ some c := by
    intro w unbroken noStar head
    have member := List.mem_of_head? head
    rcases claimed with rfl | rfl
    · exact noStar member
    · exact unbroken.close_notMem member
  cases item with
  | value value => exact noClaim (value.unbroken allowed) (value.star_notMem allowed)
  | @repeated _ _ t _ value =>
      rw [List.head?_append_of_ne_nil _ (value.ne_nil allowed)]
      exact noClaim (value.unbroken allowed) (value.star_notMem allowed)
  | @bracket _ name inside tail call tokens count names pattern times =>
      cases name with
      | nil => rcases claimed with rfl | rfl <;> simp
      | cons d name =>
          have letter : d.isAlpha = true := by
            rcases names.named with empty | identifier
            · cases empty
            · cases starts : d.isAlpha with
              | true => rfl
              | false => simp [isIdentifier, starts] at identifier
          rintro ⟨⟩
          rcases claimed with rfl | rfl <;> exact absurd letter (by decide)

theorem Pattern.head_ne (allowed : isRestSymbol restSymbol = true) {tokens : List Token} {t : Text}
    (pattern : Pattern restSymbol levels tokens t) {c : Char} (claimed : c = '*' ∨ c = ']') :
    t.head? ≠ some c := by
  have noBlank : isBlank c = false := by rcases claimed with rfl | rfl <;> decide
  have noGap : ∀ {gap : Text}, (∀ d ∈ gap, isBlank d = true) → gap.head? ≠ some c := by
    intro gap blank head
    rw [blank c (List.mem_of_head? head)] at noBlank
    cases noBlank
  cases pattern with
  | gap blank => exact noGap blank
  | @item _ gap first rest token tokens blank item =>
      cases gap with
      | nil =>
          rw [List.nil_append, List.head?_append_of_ne_nil _ (item.ne_nil allowed)]
          exact item.head_ne allowed claimed
      | cons d gap =>
          rw [List.head?_append_of_ne_nil _ (List.cons_ne_nil d gap)]
          exact noGap blank

/-- A pattern closes as many brackets as it opens, and none before. -/
theorem Pattern.within_eq (allowed : isRestSymbol restSymbol = true) {tokens : List Token}
    {t : Text} (pattern : Pattern restSymbol levels tokens t) (inner : Nat) :
    within inner t = some inner := by
  revert inner
  refine @Pattern.rec restSymbol (fun _ _ t _ => ∀ inner, within inner t = some inner)
    (fun _ _ t _ => ∀ inner, within inner t = some inner) ?value ?repeated ?bracket ?gap ?item
    levels tokens t pattern
  case value =>
    intro levels t value inner
    exact (value.unbroken allowed).within_eq inner
  case repeated =>
    intro levels n t count value counts inner
    have unbroken : Unbroken ('*' :: count) := (Times.count counts).unbroken
    rw [within_append, (value.unbroken allowed).within_eq, Option.bind_some, unbroken.within_eq]
  case bracket =>
    intro levels name inside tail call tokens count names pattern times ih inner
    rw [within_append, names.named.unbroken.within_eq, Option.bind_some, within_open,
      within_append, ih, Option.bind_some, within_close_succ, times.unbroken.within_eq]
  case gap =>
    intro levels gap blank inner
    exact within_of_forall_ne (fun c member => ne_of_isBlank (blank c member)) inner
  case item =>
    intro levels gap first rest token tokens blank item separated further ihItem ih inner
    have gapCount := within_of_forall_ne (fun c member => ne_of_isBlank (blank c member)) inner
    rw [within_append, gapCount, Option.bind_some, within_append, ihItem, Option.bind_some, ih]

/-! ## An item is the first piece of its text -/

/-- What may follow an item lets the scan end it there. -/
theorem Separated.stops {first rest : Text} (separated : Separated restSymbol first rest)
    (notClosed : first.getLast? ≠ some ']') {c : Char} (next : c ∈ rest.head?) :
    endsTail c = true := by
  rcases separated with rfl | ⟨d, head, blank⟩ | closed | ⟨opened, -⟩
  · cases next
  · cases Option.mem_unique head next
    simp [endsTail, blank]
  · exact absurd closed notClosed
  · cases Option.mem_unique opened next
    decide

theorem Separated.free {first rest : Text} (separated : Separated restSymbol first rest)
    (notClosed : first.getLast? ≠ some ']') (opened : rest.head? = some '[') :
    ¬(first = restSymbol ∧ isIdentifier first = true) := by
  rcases separated with rfl | ⟨d, head, blank⟩ | closed | ⟨-, free⟩
  · cases opened
  · cases Option.mem_unique head opened
    exact absurd blank (by decide)
  · exact absurd closed notClosed
  · exact free

theorem Item.first (allowed : isRestSymbol restSymbol = true) {token : Token} {t rest : Text}
    (item : Item restSymbol levels token t) (separated : Separated restSymbol t rest)
    (unclaimed : rest.head? ≠ some '*') (position : Nat) : First position (.token t) rest := by
  cases item with
  | value value =>
      have notClosed := (value.unbroken allowed).getLast?_ne
      refine .word (value.ne_nil allowed) (value.unbroken allowed)
        (fun c next => separated.stops notClosed next) fun opened => ?_
      rcases value with rfl | ⟨n, numeral⟩
      · exact Bool.eq_false_iff.2 fun identifier =>
          separated.free notClosed opened ⟨rfl, identifier⟩
      · exact numeral.isIdentifier_eq_false
  | @repeated _ _ t count value counts =>
      have unbroken : Unbroken (t ++ '*' :: count) :=
        unbroken_append.2 ⟨value.unbroken allowed, (Times.count counts).unbroken⟩
      refine .word (by simp) unbroken
        (fun c next => separated.stops unbroken.getLast?_ne next) fun _ => ?_
      exact Bool.eq_false_iff.2 fun identifier => star_notMem_of_isIdentifier identifier (by simp)
  | @bracket _ name inside tail call tokens count names pattern times =>
      refine .bracket names.named (pattern.within_eq allowed 0) ?_
      cases times with
      | none => exact .none unclaimed
      | @count count _ counts =>
          have plain : Unbroken count := counts.1.unbroken
          exact .count plain fun c next =>
            separated.stops (getLast?_bracket_count name inside plain) next

/-! ## A cut as a derivation -/

theorem Separated.of_stops {first rest : Text}
    (stops : ∀ c ∈ rest.head?, endsTail c = true) (free : rest.head? = some '[' →
      isIdentifier first = false) (noStray : rest.head? ≠ some ']') :
    Separated restSymbol first rest := by
  cases rest with
  | nil => exact .inl rfl
  | cons c rest =>
      have stop := stops c rfl
      simp only [endsTail, Bool.or_eq_true, decide_eq_true_eq] at stop
      rcases stop with (blank | rfl) | rfl
      · exact .inr (.inl ⟨c, rfl, blank⟩)
      · refine .inr (.inr (.inr ⟨rfl, fun taken => ?_⟩))
        exact absurd taken.2 (Bool.eq_false_iff.1 (free rfl))
      · exact absurd rfl noStray

theorem Pattern.blank_cons {t : Text} {tokens : List Token}
    (pattern : Pattern restSymbol levels tokens t) {c : Char} (here : isBlank c = true) :
    Pattern restSymbol levels tokens (c :: t) := by
  have longer : ∀ {gap : Text}, (∀ d ∈ gap, isBlank d = true) →
      ∀ d ∈ c :: gap, isBlank d = true := by
    intro gap blank d member
    rcases List.mem_cons.1 member with rfl | further
    · exact here
    · exact blank d further
  cases pattern with
  | gap blank => exact .gap (longer blank)
  | item blank item separated further => exact .item (longer blank) item separated further

/-- An item is a pattern. -/
theorem Item.pattern {token : Token} {t : Text} (item : Item restSymbol levels token t) :
    Pattern restSymbol levels [token] t := by
  have nothing : ∀ c ∈ ([] : Text), isBlank c = true := List.forall_mem_nil _
  have pattern := Pattern.item nothing item (.inl rfl) (.gap nothing)
  rwa [List.append_nil, List.nil_append] at pattern

end Texts

end Grammar

/-- A bracket with a name and a count is accepted, with any balanced inside. -/
theorem Token.classify_of_name_of_times {restSymbol name inside tail : Text} {call : Option Call}
    {count : Option Nat} (names : Grammar.Name name call) (balanced : within 0 inside = some 0)
    (times : Grammar.Times tail count) :
    Token.classify restSymbol (name ++ '[' :: (inside ++ ']' :: tail)) =
      .ok (.bracket call inside [] count) :=
  (Token.classify_bracket_eq_ok_iff names.named balanced times.tail).2
    ⟨call, count, names, times, rfl⟩

namespace Piece

/-- Where the scan ends a token, the grammar can tell the item from what follows it. -/
theorem First.separated {position : Nat} {restSymbol raw rest : Text}
    (first : First position (.token raw) rest) (noStray : rest.head? ≠ some ']') :
    Grammar.Separated restSymbol raw rest := by
  cases first with
  | word _ _ stops free => exact .of_stops stops free noStray
  | @bracket name inside tail _ named balanced ends =>
      cases ends with
      | none => exact .inr (.inr (.inl (getLast?_bracket name inside)))
      | count unbroken stops =>
          refine .of_stops stops (fun _ => Bool.eq_false_iff.2 fun identifier => ?_) noStray
          exact (unbroken_of_isIdentifier identifier).open_notMem (by simp)

end Piece

namespace Tree

open Grammar

variable {s : CompileSettings}

/-! ## A derivation parses without a diagnostic -/

/-- An item parses to its token if the insides of brackets one level down do. -/
theorem parseToken_of_item {levels : Nat} {token : Token} {t : Text}
    (inside : ∀ {lower tokens u}, lower + 1 = levels → Pattern s.restSymbol lower tokens u →
      parseWithin s lower u = { tokens, log := [] })
    (item : Item s.restSymbol levels token t) :
    parseToken s (descend s levels) t = .one token [] := by
  have allowed := s.restSymbol_ok
  cases item with
  | value value =>
      have plain := value.unbroken allowed
      have accepted : Token.classify s.restSymbol t = .ok (.literal t) := by
        rw [Token.classify_word plain, if_neg (value.star_notMem allowed)]
        exact (Token.classifyLiteral_eq_ok_iff plain).2 ⟨value, rfl⟩
      rw [parseToken, accepted]
  | @repeated _ n t count value counts =>
      have plain : Unbroken (t ++ '*' :: count) :=
        unbroken_append.2 ⟨value.unbroken allowed, (Times.count counts).unbroken⟩
      have accepted : Token.classify s.restSymbol (t ++ '*' :: count) = .ok (.repeated t n) := by
        rw [Token.classify_word plain, if_pos (by simp)]
        exact (Token.classifyRepeat_eq_ok_iff allowed plain (value.star_notMem allowed)).2
          ⟨n, value, counts, rfl⟩
      rw [parseToken, accepted]
  | @bracket lower name inner tail call tokens count names pattern times =>
      rw [parseToken, Token.classify_of_name_of_times names (pattern.within_eq allowed 0) times]
      simp only [descend, inside rfl pattern]

/-- A derivation gives a cut of its text in which every raw token parses to the token derived. -/
theorem exists_cut_of_pattern {levels : Nat} {tokens : List Token} {t : Text}
    (inside : ∀ {lower tokens u}, lower + 1 = levels → Pattern s.restSymbol lower tokens u →
      parseWithin s lower u = { tokens, log := [] })
    (pattern : Pattern s.restSymbol levels tokens t) (position : Nat) :
    ∃ pieces, Cut position t pieces [] ∧ errors pieces = [] ∧
      (Piece.tokens pieces).map (parseToken s (descend s levels)) =
        tokens.map fun token => .one token [] := by
  induction tokens generalizing t position with
  | nil =>
      cases pattern with
      | gap blank =>
          have cut := Cut.blanks blank (.done (position + t.length) [])
          rw [List.append_nil, List.append_nil] at cut
          exact ⟨t.map .blank, cut, errors_blanks t, by rw [tokens_blanks]; rfl⟩
  | cons token tokens ih =>
      cases pattern with
      | @item _ gap first rest _ _ blank item separated further =>
          obtain ⟨pieces, cut, silent, parsed⟩ := ih further (position + gap.length + first.length)
          have start := item.first s.restSymbol_ok separated
            (further.head_ne s.restSymbol_ok (.inl rfl)) (position + gap.length)
          have whole : Cut (position + gap.length) (first ++ rest) (.token first :: pieces) [] :=
            .piece start cut
          refine ⟨gap.map .blank ++ .token first :: pieces, Cut.blanks blank whole, ?_, ?_⟩
          · rw [errors_append, errors_blanks]
            exact silent
          · rw [Piece.tokens_append, tokens_blanks, List.nil_append]
            have here := parseToken_of_item inside item
            simp only [Piece.tokens, List.filterMap_cons, token?, List.map_cons, here]
            exact congrArg _ parsed

theorem parseWithin_of_pattern {levels : Nat} {tokens : List Token} {t : Text}
    (pattern : Pattern s.restSymbol levels tokens t) :
    parseWithin s levels t = { tokens, log := [] } := by
  -- An inside has a level less, so the levels carry the induction and not the derivation.
  induction levels using Nat.strongRecOn generalizing tokens t with
  | _ levels ih =>
      obtain ⟨pieces, cut, silent, parsed⟩ := exists_cut_of_pattern
        (fun below further => ih _ (by omega) further) pattern 0
      rw [parseWithin_eq, parseLevel, cut.eq_ofText]
      simp only [silent, parsed, Parsed.concat, Parsed.one, List.flatMap_map, List.map_nil,
        List.nil_append]
      simp

/-! ## What parses without a diagnostic has a derivation -/

/-- A raw token that parses without a diagnostic is an item, if the insides of brackets that do are
patterns. -/
theorem item_of_parseToken {levels position : Nat} {raw rest : Text}
    (inside : ∀ {lower u}, lower + 1 = levels → (parseWithin s lower u).log = [] →
      Pattern s.restSymbol lower (parseWithin s lower u).tokens u)
    (first : First position (.token raw) rest)
    (silent : (parseToken s (descend s levels) raw).log = []) :
    ∃ token, (parseToken s (descend s levels) raw).tokens = [token] ∧
      Item s.restSymbol levels token raw := by
  cases classified : Token.classify s.restSymbol raw with
  | error error =>
      rw [parseToken, classified] at silent
      cases silent
  | ok token =>
      rw [parseToken, classified] at silent ⊢
      cases Token.raw_of_classify s.restSymbol_ok first classified with
      | value value => exact ⟨.literal raw, rfl, .value value⟩
      | @repeated n t count value counts => exact ⟨.repeated t n, rfl, .repeated value counts⟩
      | bracket names times =>
          cases levels with
          | zero => cases silent
          | succ lower => exact ⟨_, rfl, .bracket names (inside rfl silent) times⟩

/-- A cut without errors whose raw tokens all parse without a diagnostic gives a derivation. -/
theorem pattern_of_cut {levels position : Nat} {t : Text} {pieces : List Piece}
    (inside : ∀ {lower u}, lower + 1 = levels → (parseWithin s lower u).log = [] →
      Pattern s.restSymbol lower (parseWithin s lower u).tokens u)
    (cut : Cut position t pieces []) (complete : errors pieces = [])
    (silent : ∀ raw ∈ Piece.tokens pieces, (parseToken s (descend s levels) raw).log = []) :
    Pattern s.restSymbol levels
      ((Piece.tokens pieces).flatMap fun raw => (parseToken s (descend s levels) raw).tokens)
      t := by
  have nothing : ∀ c ∈ ([] : Text), isBlank c = true := List.forall_mem_nil _
  generalize atEnd : ([] : Text) = rest at cut
  induction cut with
  | done =>
      subst atEnd
      exact .gap nothing
  | @piece position p t pieces rest first further ih =>
      cases p with
      | blank c =>
          have blank : isBlank c = true := by
            cases first
            assumption
          exact (ih complete silent atEnd).blank_cons blank
      | stray | unfinished => cases complete
      | token raw =>
          have pattern := ih complete (fun raw member => silent raw (List.mem_cons_of_mem _ member))
            atEnd
          obtain ⟨token, shown, item⟩ :=
            item_of_parseToken inside first (silent raw List.mem_cons_self)
          have separated : Separated s.restSymbol raw t :=
            first.separated (pattern.head_ne s.restSymbol_ok (.inr rfl))
          have whole := Pattern.item nothing item separated pattern
          rw [List.nil_append] at whole
          simp only [Piece.tokens, List.filterMap_cons, token?, List.flatMap_cons, shown]
          exact whole

theorem pattern_of_parseWithin {levels : Nat} {t : Text}
    (silent : (parseWithin s levels t).log = []) :
    Pattern s.restSymbol levels (parseWithin s levels t).tokens t := by
  induction levels using Nat.strongRecOn generalizing t with
  | _ levels ih =>
      rw [parseWithin_eq] at silent ⊢
      simp only [parseLevel, Parsed.concat, List.append_eq_nil_iff, List.map_eq_nil_iff,
        List.flatMap_map, List.flatMap_eq_nil_iff] at silent ⊢
      obtain ⟨complete, silent⟩ := silent
      exact pattern_of_cut (fun below => ih _ (by omega)) (cut_ofText t) complete silent

/-! ## The language -/

/-- A text parses to tokens without a diagnostic exactly when it is a pattern of those tokens. -/
theorem parse_eq_iff (s : CompileSettings) (tokens : List Token) (t : Text) :
    parse s t 0 = { tokens, log := [] } ↔ Pattern s.restSymbol s.depthLimit tokens t := by
  rw [parse_eq_parseWithin]
  constructor
  · intro parsed
    have silent : (parseWithin s s.depthLimit t).log = [] := by rw [parsed]
    have pattern := pattern_of_parseWithin silent
    rwa [parsed] at pattern
  · exact parseWithin_of_pattern

/-- There is nothing in the empty text. -/
theorem parse_nil (s : CompileSettings) : parse s [] 0 = { tokens := [], log := [] } :=
  (parse_eq_iff s [] []).2 (.gap (List.forall_mem_nil _))

/-- **Parsing accepts exactly the grammar**: no diagnostic is logged for a text exactly when it is a
pattern within the depth limit. -/
theorem parse_silent_iff (s : CompileSettings) (t : Text) :
    (parse s t 0).log = [] ↔ ∃ tokens, Pattern s.restSymbol s.depthLimit tokens t := by
  constructor
  · intro silent
    refine ⟨(parse s t 0).tokens, (parse_eq_iff s _ t).1 ?_⟩
    rw [← silent]
  · rintro ⟨tokens, pattern⟩
    rw [(parse_eq_iff s tokens t).2 pattern]

end Tree

end StepPattern
