/-
# StepPattern.Proofs.RestSymbol -- what may stand for a rest

The settings look at a rest symbol by themselves: it is no empty text, and has no
whitespace, no bracket and no `*`.  The scan and the classification never see this
check.  It is the right one all the same: it accepts a text exactly where the text is
one raw token and classified as the literal that it is (`isRestSymbol_iff_literal`).

So with any accepted settings the rest symbol is a rest, may be repeated, and is found
wherever it stands between whitespace outside brackets.
-/
import StepPattern.Proofs.Concatenation
import StepPattern.Proofs.Repetition
import StepPattern.Proofs.Words

namespace StepPattern

set_option autoImplicit false

open Text

variable {restSymbol : Text}

/-! ## What the scan and the classification accept -/

theorem Piece.rawTokens_of_unbroken {w : Text} (nonempty : w ≠ []) (unbroken : Unbroken w) :
    rawTokens w = [w] := by
  obtain ⟨found, -⟩ := rawTokens_eq_words fun c member =>
    (endsTail_eq_false.1 (unbroken c member)).2
  rw [found, words_of_unbroken unbroken, if_neg nonempty]

theorem Token.classify_restSymbol (allowed : isRestSymbol restSymbol = true) :
    classify restSymbol restSymbol = .ok (.literal restSymbol) := by
  obtain ⟨-, unbroken, noStar⟩ := isRestSymbol_iff.1 allowed
  rw [classify_word unbroken, if_neg noStar, classifyLiteral, if_pos rfl]

theorem Token.classifyBracket_ne_literal (raw t : Text) :
    classifyBracket raw ≠ .ok (.literal t) := by
  rw [classifyBracket]
  rcases splitBrackets raw with error | ⟨name, inner, tail⟩
  · simp [bind, Except.bind]
  · cases counted : readTail tail raw with
    | error error => simp [bind, Except.bind, counted]
    | ok count =>
        cases named : readName name raw <;>
          simp [bind, Except.bind, pure, Except.pure, counted, named]

theorem Token.classifyRepeat_ne_literal {raw : Text} (starred : '*' ∈ raw) (t : Text) :
    classifyRepeat restSymbol raw ≠ .ok (.literal t) := by
  obtain ⟨value, count, rfl, noStar⟩ := List.eq_append_cons_of_mem starred
  rw [classifyRepeat_append noStar]
  cases readCount count (value ++ '*' :: count) with
  | error error =>
      simp only [Except.bind]
      split <;> simp
  | ok n =>
      simp only [Except.bind]
      split_ifs <;> simp

/-- Only a word without brackets and `*` is a literal. -/
theorem Token.notMem_of_classify_literal {raw t : Text}
    (accepted : classify restSymbol raw = .ok (.literal t)) :
    '[' ∉ raw ∧ ']' ∉ raw ∧ '*' ∉ raw := by
  rw [classify] at accepted
  split at accepted
  · exact absurd accepted (classifyBracket_ne_literal raw t)
  · rename_i noBrackets
    split at accepted
    · rename_i starred
      exact absurd accepted (classifyRepeat_ne_literal starred t)
    · rename_i noStar
      exact ⟨fun opened => noBrackets (.inl opened), fun closed => noBrackets (.inr closed), noStar⟩

/-- **What may stand for a rest is one raw token and the literal that it is**, and nothing else. -/
theorem isRestSymbol_iff_literal (t : Text) :
    isRestSymbol t = true ↔
      Piece.rawTokens t = [t] ∧ Token.classify t t = .ok (.literal t) := by
  constructor
  · intro allowed
    obtain ⟨nonempty, unbroken, -⟩ := isRestSymbol_iff.1 allowed
    exact ⟨Piece.rawTokens_of_unbroken nonempty unbroken, Token.classify_restSymbol allowed⟩
  · rintro ⟨alone, literal⟩
    obtain ⟨noOpen, noClose, noStar⟩ := Token.notMem_of_classify_literal literal
    have member : t ∈ Piece.rawTokens t := by
      rw [alone]
      exact List.mem_singleton_self t
    -- A word of a text without brackets is unbroken, and here it is the whole text.
    have plain : ∀ c ∈ t, c ≠ '[' ∧ c ≠ ']' := fun c among =>
      ⟨fun opened => noOpen (opened ▸ among), fun closed => noClose (closed ▸ among)⟩
    rw [(Piece.rawTokens_eq_words plain).1] at member
    obtain ⟨nonempty, unbroken, -⟩ := mem_words plain member
    exact isRestSymbol_iff.2 ⟨nonempty, unbroken, noStar⟩

/-! ## What the settings accept -/

/-- The settings accept a rest symbol, as it is, exactly where it may stand for a rest. -/
theorem compileSettings_restSymbol_iff (t : Text) (host : Host) :
    ((∃ s, (Given.loose (.dict [(.text "rest_symbol".toList, .text t)])).compileSettings host =
      .ok s) ↔ isRestSymbol t = true) ∧
    ∀ s, (Given.loose (.dict [(.text "rest_symbol".toList, .text t)])).compileSettings host =
      .ok s → s.restSymbol = t := by
  by_cases allowed : isRestSymbol t = true
  · have accepted := compileSettings_restSymbol allowed host
    refine ⟨iff_of_true ⟨_, accepted⟩ allowed, fun s same => ?_⟩
    rw [← Except.ok.inj (accepted.symm.trans same)]
    rfl
  · have refused : ∃ fault, CompileSettings.readRestSymbol (.text t) = .error fault := by
      rw [CompileSettings.readRestSymbol]
      split <;> exact ⟨_, rfl⟩
    obtain ⟨fault, refused⟩ := refused
    have looked : (Given.loose (.dict [(.text "rest_symbol".toList, .text t)])).compileSettings
        host = CompileSettings.build host
          ((CompileSettings.schema host).effective [("rest_symbol".toList, .text t)]) :=
      (CompileSettings.schema host).ofValue_single "rest_symbol" rfl (.text t) host
    have symbol : (CompileSettings.schema host).effective [("rest_symbol".toList, .text t)]
        "rest_symbol" = .text t := rfl
    have failed : (Given.loose
        (.dict [(.text "rest_symbol".toList, .text t)])).compileSettings host = .error fault := by
      rw [looked, CompileSettings.build, symbol, refused]
      rfl
    rw [failed]
    simp [allowed]

/-! ## Rests in texts -/

section Rests

variable (s : CompileSettings)

theorem literalValue_restSymbol (t : Text) : literalValue t t = .rest := if_pos rfl

/-- The rest symbol compiles to a rest. -/
theorem compileText_restSymbol (r : Registry) (source : Twister) :
    compileText r s s.restSymbol source = ⟨[.rest], [], source⟩ := by
  have item : Grammar.Item s.restSymbol s.depthLimit (.literal s.restSymbol) s.restSymbol :=
    .value (.inl rfl)
  have parsed : Tree.parse s s.restSymbol 0 =
      { tokens := [s.restSymbol].map .literal, log := [] } :=
    (Tree.parse_eq_iff s _ _).2 item.pattern
  have one : 1 ≤ maxSteps := by decide
  have compiled := compileText_literals r parsed one source
  rwa [List.map_singleton, literalValue_restSymbol] at compiled

/-- The rest symbol with a count compiles to as many rests. -/
theorem compileText_restSymbol_counted (r : Registry) {count : Text} {n : Nat}
    (counts : Grammar.Count count n) (source : Twister) :
    compileText r s (s.restSymbol ++ '*' :: count) source =
      ⟨List.replicate n .rest, [], source⟩ := by
  have item : Grammar.Item s.restSymbol s.depthLimit (.repeated s.restSymbol n)
      (s.restSymbol ++ '*' :: count) := .repeated (.inl rfl) counts
  have parsed := (Tree.parse_eq_iff s [.repeated s.restSymbol n] _).2 item.pattern
  have few : n ≤ maxSteps := Nat.le_trans counts.2.2 (by decide)
  have yields := Tree.yield_singleton s r (.repeated s.restSymbol n) source
  rw [Token.alone_repeated _ _ _ few] at yields
  have rests : literalValue (s.setting r).restSymbol s.restSymbol = .rest :=
    literalValue_restSymbol s.restSymbol
  rw [rests] at yields
  have steps := replicate_literalValue_allSteps s.restSymbol s.restSymbol n
  rw [literalValue_restSymbol] at steps
  refine compileText_of_not_fails r parsed yields steps fun failure => ?_
  rintro (inside | ⟨long, -⟩ | further)
  · exact inside
  · rw [Token.once, Token.count, Yield.length_times, List.length_singleton, Nat.one_mul,
      Yield.start, List.length_nil, Nat.zero_add] at long
    omega
  · exact further

/-- The rest symbol between two texts, outside brackets, is a literal between their tokens. -/
theorem Tree.parse_restSymbol_between {x : Text} (outside : depth x = 0) (y : Text) (level : Int) :
    (parse s (x ++ ' ' :: (s.restSymbol ++ ' ' :: y)) level).tokens =
      (parse s x level).tokens ++ .literal s.restSymbol :: (parse s y level).tokens := by
  have space : isBlank ' ' = true := by decide
  obtain ⟨nonempty, unbroken, -⟩ := isRestSymbol_iff.1 s.restSymbol_ok
  have balanced : depth s.restSymbol = 0 := depth_eq_of_within (unbroken.within_eq 0)
  have alone : (parse s s.restSymbol level).tokens = [.literal s.restSymbol] := by
    rw [parse, parseWithin_tokens, Piece.rawTokens_of_unbroken nonempty unbroken,
      List.flatMap_singleton, parseToken, Token.classify_restSymbol s.restSymbol_ok]
    rfl
  rw [parse_append_blank s outside space, parse_append_blank s balanced space, alone,
    List.singleton_append]

end Rests

/-! ## The check of a rest symbol -/

/-- **The check of a rest symbol is exactly right.**  The settings accept a text for a rest symbol,
and take it as it is, exactly where it is one raw token and classified as the literal that it is.
With any accepted settings that have it, it compiles to one rest, and with a count to as many;
nothing is logged and nothing drawn.  Behind a text that ends outside all brackets, and before any
other text, with spaces between, it parses at every depth to one more literal. -/
theorem restSymbol_exact (restSymbol : Text) (host : Host) :
    ((∃ s, (Given.loose (.dict [(.text "rest_symbol".toList,
          .text restSymbol)])).compileSettings host = .ok s) ↔
        Piece.rawTokens restSymbol = [restSymbol] ∧
          Token.classify restSymbol restSymbol = .ok (.literal restSymbol)) ∧
      (∀ s, (Given.loose (.dict [(.text "rest_symbol".toList,
          .text restSymbol)])).compileSettings host = .ok s → s.restSymbol = restSymbol) ∧
      ∀ (given : Given CompileSettings) (s : CompileSettings), given.compileSettings host = .ok s →
        s.restSymbol = restSymbol →
          (∀ (r : Registry) (source : Option Twister),
            (source = none → ∃ start, Twister.ofSeedValue s.seed host = .ok start) →
              compile r given (.text restSymbol) source host = .ok ⟨[.rest], [], source⟩ ∧
              ∀ n, 1 ≤ n → n ≤ maxCount →
                compile r given (.text (restSymbol ++ '*' :: Nat.toDigits 10 n)) source host =
                  .ok ⟨List.replicate n .rest, [], source⟩) ∧
          ∀ x y level, depth x = 0 →
            (Tree.parse s (x ++ ' ' :: (restSymbol ++ ' ' :: y)) level).tokens =
              (Tree.parse s x level).tokens ++ .literal restSymbol ::
                (Tree.parse s y level).tokens := by
  obtain ⟨accepts, kept⟩ := compileSettings_restSymbol_iff restSymbol host
  refine ⟨accepts.trans (isRestSymbol_iff_literal restSymbol), kept, ?_⟩
  rintro given s accepted rfl
  refine ⟨fun r source seeded => ⟨?_, fun n positive few => ?_⟩,
    fun x y level outside => Tree.parse_restSymbol_between s outside y level⟩
  · rw [compile_of_accepted r accepted]
    exact compileChecked_of_drawless r (isRestSymbol_iff.1 s.restSymbol_ok).1
      (compileText_restSymbol s r) seeded
  · rw [compile_of_accepted r accepted]
    exact compileChecked_of_drawless r (List.append_ne_nil_of_right_ne_nil _ (List.cons_ne_nil _ _))
      (compileText_restSymbol_counted s r (Grammar.count_toDigits positive few)) seeded

/-- A rest symbol that looks like a number, between a stray bracket and an open one. -/
theorem restSymbol_exact_number :
    compile Registry.builtin (.loose (.dict [(.text "rest_symbol".toList, .text "0.5".toList)]))
        (.text "0.5*12".toList) none = .ok ⟨List.replicate 12 .rest, [], none⟩ ∧
      ∃ s : CompileSettings, s.restSymbol = "0.5".toList ∧
        (Tree.parse s "1 ] 0.5 [2".toList 0).tokens = [.literal ['1'], .literal "0.5".toList] := by
  have allowed : isRestSymbol "0.5".toList = true := by decide
  obtain ⟨-, -, rests⟩ := restSymbol_exact "0.5".toList .default
  obtain ⟨compiles, parses⟩ := rests _ _ (compileSettings_restSymbol allowed .default) rfl
  have counted := (compiles Registry.builtin none fun _ => ⟨Host.default.fresh, rfl⟩).2 12
  exact ⟨counted (by decide) (by decide), _, rfl, parses "1 ]".toList "[2".toList 0 rfl⟩

end StepPattern
