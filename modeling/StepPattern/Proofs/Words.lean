/-
# StepPattern.Proofs.Words -- the two readings of words agree

A text without brackets falls into words at its whitespace (`Text.words`), and these are
its raw tokens (`rawTokens_eq_words`).  Where no word has a count, each of them is a value,
which is kept, or is dropped with one diagnostic (`parseWithin_words`).

A value of a text is read as a step in the same way as a loose value: the rest symbol
is looked for first, then a numeral within the digit limit (`toValue_ofText`).  So a
text of words is compiled to what its values are normalized to.
-/
import StepPattern.Proofs.RoundTrip

namespace StepPattern

set_option autoImplicit false

open Text

/-! ## The words of a text -/

namespace Text

/-- The words of a text: all that is between whitespace, where it is not empty. -/
def words (t : Text) : List Text :=
  (List.splitOnP isBlank t).filter (· ≠ [])

theorem Unbroken.isBlank_eq_false {w : Text} (unbroken : Unbroken w) {c : Char} (member : c ∈ w) :
    isBlank c = false :=
  (endsTail_eq_false.1 (unbroken c member)).1

theorem words_append_blank (t : Text) {c : Char} (blank : isBlank c = true) (u : Text) :
    words (t ++ c :: u) = words t ++ words u := by
  simp only [words, List.splitOnP_append_cons _ _ blank, List.filter_append]

theorem words_of_unbroken {w : Text} (unbroken : Unbroken w) :
    words w = if w = [] then [] else [w] := by
  rw [words, List.splitOnP_eq_singleton fun _ => unbroken.isBlank_eq_false]
  by_cases empty : w = [] <;> simp [empty]

/-- A text without brackets is taken apart into its first word, the whitespace character behind it
and what follows. -/
theorem words_induction {motive : Text → Prop} (word : ∀ w, Unbroken w → motive w)
    (further : ∀ w c t, Unbroken w → isBlank c = true → motive t → motive (w ++ c :: t))
    {t : Text} (plain : ∀ c ∈ t, c ≠ '[' ∧ c ≠ ']') : motive t := by
  induction bound : t.length using Nat.strongRecOn generalizing t with
  | _ n ih =>
      obtain ⟨w, rest, rfl, unbroken, stops⟩ := Piece.exists_word t
      cases rest with
      | nil =>
          rw [List.append_nil]
          exact word w unbroken
      | cons c rest =>
          obtain ⟨-, later⟩ := List.forall_mem_append.1 plain
          obtain ⟨⟨noOpen, noClose⟩, later⟩ := List.forall_mem_cons.1 later
          have blank : isBlank c = true := by
            simpa [Scanner.endsTail, noOpen, noClose] using stops c rfl
          have shorter : rest.length < n := by
            rw [List.length_append, List.length_cons] at bound
            omega
          exact further w c rest unbroken blank (ih _ shorter later rfl)

theorem mem_words {t w : Text} (plain : ∀ c ∈ t, c ≠ '[' ∧ c ≠ ']') :
    w ∈ words t → w ≠ [] ∧ Unbroken w ∧ w ⊆ t := by
  refine words_induction (motive := fun t => w ∈ words t → w ≠ [] ∧ Unbroken w ∧ w ⊆ t)
    ?_ ?_ plain
  · intro v unbroken member
    rw [words_of_unbroken unbroken] at member
    split at member
    · cases member
    · rename_i nonempty
      rw [List.mem_singleton.1 member]
      exact ⟨nonempty, unbroken, List.Subset.refl v⟩
  · intro v c t unbroken blank ih member
    rw [words_append_blank v blank, words_of_unbroken unbroken, List.mem_append] at member
    rcases member with first | later
    · split at first
      · cases first
      · rename_i nonempty
        rw [List.mem_singleton.1 first]
        exact ⟨nonempty, unbroken, List.subset_append_left v _⟩
    · obtain ⟨nonempty, wordUnbroken, among⟩ := ih later
      exact ⟨nonempty, wordUnbroken, fun d member =>
        List.mem_append_right v (List.mem_cons_of_mem c (among member))⟩

end Text

namespace Piece

theorem exists_cut_word {w : Text} (unbroken : Unbroken w) (rest : Text)
    (stops : ∀ c ∈ rest.head?, isBlank c = true) (position : Nat) :
    ∃ pieces, Cut position (w ++ rest) pieces rest ∧ tokens pieces = words w ∧
      errors pieces = [] := by
  by_cases empty : w = []
  · subst empty
    exact ⟨[], .done _ _, rfl, rfl⟩
  · have ends : ∀ c ∈ rest.head?, Scanner.endsTail c = true := by
      intro c head
      simp [Scanner.endsTail, stops c head]
    have noBracket : rest.head? ≠ some '[' := fun opened =>
      absurd (stops '[' opened) (by decide)
    have first : First position (.token w) rest :=
      .word empty unbroken ends fun opened => absurd opened noBracket
    rw [words_of_unbroken unbroken, if_neg empty]
    exact ⟨[.token w], .piece first (.done _ _), rfl, rfl⟩

/-- A text without brackets is cut into its words and the whitespace between them. -/
theorem exists_cut_words {t : Text} (plain : ∀ c ∈ t, c ≠ '[' ∧ c ≠ ']') (position : Nat) :
    ∃ pieces, Cut position t pieces [] ∧ tokens pieces = words t ∧ errors pieces = [] := by
  revert position
  refine words_induction (motive := fun t => ∀ position, ∃ pieces, Cut position t pieces [] ∧
    tokens pieces = words t ∧ errors pieces = []) ?_ ?_ plain
  · intro w unbroken position
    have word := exists_cut_word unbroken [] (by simp) position
    rwa [List.append_nil] at word
  · intro w c t unbroken blank ih position
    obtain ⟨first, word, found, silent⟩ :=
      exists_cut_word unbroken (c :: t) (by simpa using blank) position
    obtain ⟨later, cut, foundLater, silentLater⟩ := ih (position + (covered first).length + 1)
    have gap : Cut (position + (covered first).length) (c :: t) (.blank c :: later) [] :=
      .piece (.blank blank) cut
    refine ⟨first ++ .blank c :: later, word.append gap, ?_, ?_⟩
    · rw [tokens_append, found, words_append_blank w blank, ← foundLater]
      rfl
    · rw [errors_append, silent, List.nil_append]
      exact silentLater

/-- **The raw tokens of a text without brackets are its words**, and nothing is wrong in between. -/
theorem rawTokens_eq_words {t : Text} (plain : ∀ c ∈ t, c ≠ '[' ∧ c ≠ ']') :
    rawTokens t = words t ∧ errors (ofText t) = [] := by
  obtain ⟨pieces, cut, found, silent⟩ := exists_cut_words plain 0
  rw [rawTokens, cut.eq_ofText]
  exact ⟨found, silent⟩

end Piece

/-! ## Words that are values, and others -/

instance Grammar.decidableValue (restSymbol w : Text) : Decidable (Grammar.Value restSymbol w) :=
  decidable_of_iff (w = restSymbol ∨ (numeralValue? w).isSome = true)
    (or_congr_right (by simp only [Option.isSome_iff_exists, Grammar.numeral_iff]))

namespace Token

/-- What is wrong with a word that is no value: its digits are too many, or it is no integer. -/
def wordError (w : Text) : PatternError :=
  if isInteger w then .integerTooLong w else .tokenUnknown w

/-- A word without a count is a literal if it is a value, and else an error. -/
theorem classify_plain (restSymbol : Text) {w : Text} (unbroken : Unbroken w) (noCount : '*' ∉ w) :
    classify restSymbol w =
      if Grammar.Value restSymbol w then .ok (.literal w) else .error (wordError w) := by
  rw [classify_word unbroken, if_neg noCount]
  split
  · rename_i value
    exact (classifyLiteral_eq_ok_iff unbroken).2 ⟨value, rfl⟩
  · rename_i other
    rw [value_iff unbroken, not_or, not_and] at other
    rw [classifyLiteral, wordError, if_neg other.1]
    cases integer : isInteger w with
    | false => rfl
    | true =>
        have unreadable : (integer? w).isNone = true := by simpa using other.2 integer
        simp [unreadable]

end Token

namespace Tree

/-- **A text of words parses to its values.**  Each word that is none leaves a diagnostic. -/
theorem parseWithin_words (s : CompileSettings) (levels : Nat) {t : Text}
    (plain : ∀ c ∈ t, c ≠ '[' ∧ c ≠ ']' ∧ c ≠ '*') :
    parseWithin s levels t =
      { tokens := ((words t).filter (Grammar.Value s.restSymbol)).map .literal
        log := ((words t).filter fun w => ¬Grammar.Value s.restSymbol w).map fun w =>
          .diagnostic s.loud (Token.wordError w) } := by
  have noBrackets : ∀ c ∈ t, c ≠ '[' ∧ c ≠ ']' := fun c member =>
    ⟨(plain c member).1, (plain c member).2.1⟩
  have classified : ∀ w ∈ words t, Token.classify s.restSymbol w =
      if Grammar.Value s.restSymbol w then .ok (.literal w) else .error (Token.wordError w) := by
    intro w member
    obtain ⟨-, unbroken, among⟩ := mem_words noBrackets member
    exact Token.classify_plain _ unbroken fun starred => (plain '*' (among starred)).2.2 rfl
  obtain ⟨raw, silent⟩ := Piece.rawTokens_eq_words noBrackets
  rw [Piece.rawTokens] at raw
  rw [parseWithin_eq, parseLevel, raw, silent, List.map_nil, List.nil_append]
  -- What is left is said of any words that are classified so.
  generalize words t = ws at classified
  induction ws with
  | nil => rfl
  | cons w ws ih =>
      obtain ⟨here, further⟩ := List.forall_mem_cons.1 classified
      have rest := ih further
      simp only [Parsed.concat, Parsed.mk.injEq] at rest
      by_cases value : Grammar.Value s.restSymbol w <;>
        simp [Parsed.concat, parseToken, here, value, rest, Parsed.one, Parsed.dropped]

end Tree

/-! ## Words as loose values -/

namespace Text

theorem strip_of_unbroken {w : Text} (unbroken : Unbroken w) : strip w = w := by
  have noBlank : ∀ c ∈ w, isBlank c = false := fun _ => unbroken.isBlank_eq_false
  have kept : ∀ u : Text, (∀ c ∈ u, isBlank c = false) → u.dropWhile isBlank = u := by
    intro u plain
    cases u with
    | nil => rfl
    | cons c u => simp [plain c List.mem_cons_self]
  rw [strip, stripBy, kept w noBlank, kept w.reverse (by simpa using noBlank), List.reverse_reverse]

end Text

/-- A value of the grammar stands for the same step in a text and by itself. -/
theorem Grammar.Value.toValue_ofText {restSymbol w : Text} (unbroken : Unbroken w)
    (value : Grammar.Value restSymbol w) :
    (Step.ofText restSymbol w).toValue = literalValue restSymbol w := by
  by_cases rest : w = restSymbol
  · subst rest
    simp [Step.ofText, literalValue, strip_of_unbroken unbroken, Step.toValue]
  · obtain ⟨n, numeral⟩ := value.resolve_left rest
    have read : numeralValue? w = some n := Grammar.numeral_iff.1 numeral
    simp [Step.ofText, literalValue, strip_of_unbroken unbroken, rest, read,
      Token.integer?_of_numeral numeral, Step.toValue]

theorem normalizeFrom_texts (restSymbol : Text) (done : List Step) (texts : List Text) :
    normalizeFrom restSymbol done (texts.map .text) =
      .ok (done.reverse ++ texts.map (Step.ofText restSymbol)) := by
  refine normalizeFrom_eq_ok_iff.2 ⟨_, ?_, rfl⟩
  rw [List.forall₂_map_left_iff, List.forall₂_map_right_iff, List.forall₂_same]
  exact fun t _ => rfl

/-- **The two readings of values agree.**  With any rest symbol, a text of at most as many words as
steps are allowed, without brackets and counts, compiles to what those of its words are normalized
to that are the rest symbol or a numeral within the digit limit.  Every other word leaves one
diagnostic, and nothing else is logged, but that a text of no characters is no pattern. -/
theorem compile_eq_normalize (r : Registry) (source : Option Twister) (host : Host)
    {restSymbol t : Text} (allowed : isRestSymbol restSymbol = true)
    (plain : ∀ c ∈ t, c ≠ '[' ∧ c ≠ ']' ∧ c ≠ '*') (few : (words t).length ≤ maxSteps) :
    ∃ steps,
      normalize restSymbol (((words t).filter (Grammar.Value restSymbol)).map .text) =
        .ok steps ∧
      compile r (.loose (.dict [(.text "rest_symbol".toList, .text restSymbol)])) (.text t) source
        host = .ok
          { sequence := steps.map Step.toValue
            log :=
              if t = [] then [.diagnostic false (.patternUnusable (Text.quote []))]
              else ((words t).filter fun w => ¬Grammar.Value restSymbol w).map fun w =>
                .diagnostic false (Token.wordError w)
            source } := by
  have noBrackets : ∀ c ∈ t, c ≠ '[' ∧ c ≠ ']' := fun c member =>
    ⟨(plain c member).1, (plain c member).2.1⟩
  have normal := normalizeFrom_texts restSymbol [] ((words t).filter (Grammar.Value restSymbol))
  have accepted := compileSettings_restSymbol allowed host
  refine ⟨_, normal, ?_⟩
  rw [compile_of_accepted r accepted]
  by_cases empty : t = []
  · subst empty
    rfl
  · have parsed := Tree.parseWithin_words (.withRest restSymbol allowed)
      (CompileSettings.withRest restSymbol allowed).depthLimit plain
    rw [← Tree.parse_eq_parseWithin] at parsed
    have fits : ((words t).filter (Grammar.Value restSymbol)).length ≤ maxSteps :=
      Nat.le_trans (List.length_filter_le _ _) few
    have same : ((words t).filter (Grammar.Value restSymbol)).map (literalValue restSymbol) =
        (((words t).filter (Grammar.Value restSymbol)).map (Step.ofText restSymbol)).map
          Step.toValue := by
      rw [List.map_map]
      refine List.map_congr_left fun w member => ?_
      obtain ⟨among, value⟩ := List.mem_filter.1 member
      obtain ⟨-, unbroken, -⟩ := mem_words noBrackets among
      exact ((of_decide_eq_true value).toValue_ofText unbroken).symm
    rw [if_neg empty, List.reverse_nil, List.nil_append, ← same]
    exact compileChecked_of_drawless r empty (compileText_literals r parsed fits) fun _ =>
      ⟨host.fresh, rfl⟩

/-- A rest symbol that looks like an integer, a digit of another script, and two words that are no
values. -/
theorem compile_eq_normalize_numeral_rest :
    compile Registry.builtin (.loose (.dict [(.text "rest_symbol".toList, .text ['1'])]))
        (.text ['1', ' ', '+', '1', '\t', 'x', ' ', '-', '٢', ' ', '1', '.']) none =
      .ok
        { sequence := [.rest, .note 1, .note (-2)]
          log := [.diagnostic false (.tokenUnknown ['x']),
            .diagnostic false (.tokenUnknown ['1', '.'])]
          source := none } := by
  have allowed : isRestSymbol ['1'] = true := by decide
  have plain : ∀ c ∈ ['1', ' ', '+', '1', '\t', 'x', ' ', '-', '٢', ' ', '1', '.'],
      c ≠ '[' ∧ c ≠ ']' ∧ c ≠ '*' := by simp
  have found : words ['1', ' ', '+', '1', '\t', 'x', ' ', '-', '٢', ' ', '1', '.'] =
      [['1'], ['+', '1'], ['x'], ['-', '٢'], ['1', '.']] := by decide
  obtain ⟨steps, normal, compiled⟩ :=
    compile_eq_normalize Registry.builtin none .default allowed plain (by rw [found]; decide)
  rw [found] at normal compiled
  have kept : normalize ['1'] (([['1'], ['+', '1'], ['x'], ['-', '٢'], ['1', '.']].filter
      (Grammar.Value ['1'])).map .text) = .ok [.rest, .note 1, .note (-2)] := by
    decide
  obtain rfl : steps = [.rest, .note 1, .note (-2)] := Except.ok.inj (normal.symm.trans kept)
  have dropped : [['1'], ['+', '1'], ['x'], ['-', '٢'], ['1', '.']].filter
      (fun w => ¬Grammar.Value ['1'] w) = [['x'], ['1', '.']] := by
    decide
  rw [compiled, dropped]
  rfl

end StepPattern
