/-
# StepPattern.Proofs.Phrases -- texts that compile to something, and quietly

A phrase is a pattern whose tokens sound: wherever there is room for so many steps,
they add at least one step and no more than these, and nothing goes wrong
(`Token.Sounds`).  Phrases are made of smaller ones:

* written steps are a phrase (`Phrase.steps`);
* a phrase in brackets is one, with a count or inside a call that takes every
  sequence and at most doubles it (`Phrase.bracket`);
* phrases with a space between neighbours are one (`Phrase.join`).

A phrase that keeps to the step limit compiles to a sequence that is not empty, and
nothing is logged (`Phrase.compilesClean`).
-/
import StepPattern.Proofs.Limits
import StepPattern.Proofs.RoundTrip

namespace StepPattern

set_option autoImplicit false

open Text

/-! ## Patterns side by side -/

namespace Grammar

variable {restSymbol : Text} {levels : Nat}

theorem Pattern.blanks_append {tokens : List Token} {gap t : Text}
    (blank : ∀ c ∈ gap, isBlank c = true) (pattern : Pattern restSymbol levels tokens t) :
    Pattern restSymbol levels tokens (gap ++ t) := by
  induction gap with
  | nil => exact pattern
  | cons c gap ih =>
      have further := ih fun d member => blank d (List.mem_cons_of_mem c member)
      exact further.blank_cons (blank c List.mem_cons_self)

theorem Separated.append_space {first rest : Text} (separated : Separated restSymbol first rest)
    (more : Text) : Separated restSymbol first (rest ++ ' ' :: more) := by
  cases rest with
  | nil => exact .inr (.inl ⟨' ', rfl, by decide⟩)
  | cons c rest =>
      rcases separated with empty | blank | closed | opened
      · cases empty
      · exact .inr (.inl blank)
      · exact .inr (.inr (.inl closed))
      · exact .inr (.inr (.inr opened))

/-- Two patterns with a space between them are a pattern of the tokens of both. -/
theorem Pattern.append {first second : List Token} {t u : Text}
    (one : Pattern restSymbol levels first t) (two : Pattern restSymbol levels second u) :
    Pattern restSymbol levels (first ++ second) (t ++ ' ' :: u) := by
  induction first generalizing t with
  | nil =>
      cases one with
      | gap blank => exact (two.blank_cons (by decide)).blanks_append blank
  | cons token first ih =>
      cases one with
      | @item _ gap here rest _ _ blank item separated further =>
          have whole := Pattern.item blank item (separated.append_space u) (ih further)
          simpa using whole

end Grammar

/-! ## Tokens that sound -/

namespace Token

theorem fails_append (c : Setting) (y : Yield) (failure : Failure) (first second : List Token) :
    Fails c y failure (first ++ second) ↔
      Fails c y failure first ∨ Fails c (yieldFrom c y first) failure second := by
  induction first generalizing y with
  | nil => simp [Fails, yieldFrom]
  | cons token first ih => simp only [List.cons_append, Fails, yieldFrom, ih, or_assoc]

/-- Whether tokens, with the built-in transforms, add at least one step and at most `n` steps where
there is room for `n`, and nothing goes wrong. -/
def Sounds (restSymbol : Text) (n : Nat) (tokens : List Token) : Prop :=
  ∀ (c : Setting) (y : Yield), c.registry = .builtin → c.restSymbol = restSymbol →
    y.sequence.length + n ≤ maxSteps →
      (∀ failure, ¬Fails c y failure tokens) ∧
        y.sequence.length < (yieldFrom c y tokens).sequence.length ∧
        (yieldFrom c y tokens).sequence.length ≤ y.sequence.length + n

variable {restSymbol : Text}

theorem Sounds.mono {m n : Nat} {tokens : List Token} (sounds : Sounds restSymbol m tokens)
    (le : m ≤ n) : Sounds restSymbol n tokens := by
  intro c y builtIn same room
  obtain ⟨quiet, longer, short⟩ := sounds c y builtIn same (by omega)
  exact ⟨quiet, longer, by omega⟩

theorem Sounds.append {m n : Nat} {first second : List Token} (one : Sounds restSymbol m first)
    (two : Sounds restSymbol n second) : Sounds restSymbol (m + n) (first ++ second) := by
  intro c y builtIn same room
  obtain ⟨quiet, longer, short⟩ := one c y builtIn same (by omega)
  obtain ⟨quietToo, longerStill, shortToo⟩ := two c (yieldFrom c y first) builtIn same (by omega)
  refine ⟨fun failure fails => ?_, ?_, ?_⟩
  · rcases (fails_append c y failure first second).1 fails with here | there
    · exact quiet failure here
    · exact quietToo failure there
  · rw [yieldFrom_append]
    omega
  · rw [yieldFrom_append]
    omega

theorem sounds_literals {words : List Text} (nonempty : words ≠ []) :
    Sounds restSymbol words.length (words.map .literal) := by
  intro c y _ _ room
  have positive := List.length_pos_iff.2 nonempty
  rw [yieldFrom_literals y words room, List.length_append, List.length_map]
  exact ⟨fun failure => not_fails_literals y words room, by omega, Nat.le_refl _⟩

/-- Whether a built-in call takes every sequence that it may double, and makes it neither shorter
nor longer than twice as long. -/
def Smooth (call : Call) : Prop :=
  ∀ (loud : Bool) (s : Sequence) (g : Twister), 2 * s.length ≤ maxSteps →
    (∀ failure, ¬Registry.builtin.Refuses call s g failure) ∧
      s.length ≤ (Registry.builtin.call loud call .none s g).sequence.length ∧
      (Registry.builtin.call loud call .none s g).sequence.length ≤ 2 * s.length

/-- The most steps that a call, if there is one, makes of `n` steps. -/
def calledAtMost (call : Option Call) (n : Nat) : Nat :=
  if call.isSome then 2 * n else n

/-- Where a call is smooth, or there is none, nothing goes wrong in it. -/
theorem called_smooth {c : Setting} (builtIn : c.registry = .builtin) {call : Option Call}
    (smooth : ∀ named ∈ call, Smooth named) {n : Nat} {y : Yield} (short : y.sequence.length ≤ n)
    (small : 2 * n ≤ maxSteps) :
    (∀ failure, ¬∃ named ∈ call, c.registry.Refuses named y.sequence y.source failure) ∧
      y.sequence.length ≤ (c.called call y).sequence.length ∧
      (c.called call y).sequence.length ≤ calledAtMost call n := by
  cases call with
  | none =>
      refine ⟨?_, Nat.le_refl _, short⟩
      rintro failure ⟨named, ⟨⟩, -⟩
  | some call =>
      obtain ⟨taken, noShorter, doubled⟩ :=
        smooth call rfl c.loud y.sequence y.source (by omega)
      simp only [Setting.called, builtIn]
      refine ⟨?_, noShorter, ?_⟩
      · rintro failure ⟨named, ⟨⟩, refused⟩
        exact taken failure refused
      · show _ ≤ 2 * n
        omega

/-- A bracket token sounds if its inside does. -/
theorem Sounds.bracket {n : Nat} {children : List Token} (sounds : Sounds restSymbol n children)
    {call : Option Call} (smooth : ∀ named ∈ call, Smooth named) (inner : Text)
    {count : Option Nat} (positive : 1 ≤ count.getD 1) (small : 2 * n ≤ maxSteps) :
    Sounds restSymbol (calledAtMost call n * count.getD 1)
      [.bracket call inner children count] := by
  intro c y builtIn same room
  have begun : (Yield.start y.source).sequence.length = 0 := rfl
  obtain ⟨quiet, longer, short⟩ := sounds c (.start y.source) builtIn same (by omega)
  rw [begun] at longer short
  rw [Nat.zero_add] at short
  obtain ⟨taken, noShorter, bounded⟩ := called_smooth builtIn smooth short small
  have once_eq : once c y.source (.bracket call inner children count) =
      c.called call (yieldFrom c (.start y.source) children) := by
    rw [once]
  have copies : (c.called call (yieldFrom c (.start y.source) children)).sequence.length *
      count.getD 1 ≤ calledAtMost call n * count.getD 1 := Nat.mul_le_mul_right _ bounded
  have some_copies : 0 < (c.called call (yieldFrom c (.start y.source) children)).sequence.length *
      count.getD 1 := Nat.mul_pos (by omega) positive
  have added : yieldFrom c y [.bracket call inner children count] =
      ((c.called call (yieldFrom c (.start y.source) children)).times
        (count.getD 1)).behind y.sequence := by
    rw [yieldFrom, yieldFrom, once_eq, Token.count]
    apply Yield.add_of_le
    rw [Yield.length_times]
    omega
  rw [added, Yield.length_behind, Yield.length_times]
  refine ⟨fun failure fails => ?_, by omega, by omega⟩
  rw [Fails, OnceFails, once_eq, Token.count, Yield.length_times] at fails
  rcases fails with (inside | refused) | ⟨long, -⟩ | nothing
  · exact quiet failure inside
  · exact taken failure refused
  · omega
  · exact nothing

end Token

/-! ## Phrases -/

/-- `Phrase restSymbol levels n t`: a text is a pattern on so many levels of brackets whose tokens
add at least one step and at most `n`, and nothing goes wrong in them. -/
def Phrase (restSymbol : Text) (levels n : Nat) (t : Text) : Prop :=
  ∃ tokens, (∀ more, levels ≤ more → Grammar.Pattern restSymbol more tokens t) ∧
    Token.Sounds restSymbol n tokens

namespace Phrase

variable {restSymbol t : Text} {levels n : Nat}

theorem mono {m : Nat} (phrase : Phrase restSymbol levels n t) (le : n ≤ m) :
    Phrase restSymbol levels m t := by
  obtain ⟨tokens, pattern, sounds⟩ := phrase
  exact ⟨tokens, pattern, sounds.mono le⟩

theorem deeper {more : Nat} (phrase : Phrase restSymbol levels n t) (le : levels ≤ more) :
    Phrase restSymbol more n t := by
  obtain ⟨tokens, pattern, sounds⟩ := phrase
  exact ⟨tokens, fun most further => pattern most (Nat.le_trans le further), sounds⟩

/-- Values with a space between neighbours are a phrase. -/
theorem values {words : List Text} (nonempty : words ≠ [])
    (values : ∀ word ∈ words, Grammar.Value restSymbol word) :
    Phrase restSymbol 0 words.length (Text.join [' '] words) :=
  ⟨words.map .literal, fun more _ => Grammar.pattern_join more values,
    Token.sounds_literals nonempty⟩

/-- Written steps are a phrase. -/
theorem steps {steps : List Step} (nonempty : steps ≠ []) (short : ∀ step ∈ steps, step.Short) :
    Phrase restSymbol 0 steps.length (Text.join [' '] (steps.map (Step.word restSymbol))) := by
  have words : ∀ word ∈ steps.map (Step.word restSymbol), Grammar.Value restSymbol word := by
    intro word member
    obtain ⟨step, among, rfl⟩ := List.mem_map.1 member
    exact Grammar.value_word (short step among)
  have whole := values (by simpa using nonempty) words
  rwa [List.length_map] at whole

/-- A phrase in brackets is a phrase one level up. -/
theorem bracket (phrase : Phrase restSymbol levels n t) {name tail : Text} {call : Option Call}
    {count : Option Nat} (named : Grammar.Name name call)
    (smooth : ∀ one ∈ call, Token.Smooth one) (times : Grammar.Times tail count)
    (small : 2 * n ≤ maxSteps) :
    Phrase restSymbol (levels + 1) (Token.calledAtMost call n * count.getD 1)
      (name ++ '[' :: (t ++ ']' :: tail)) := by
  obtain ⟨tokens, pattern, sounds⟩ := phrase
  have positive : 1 ≤ count.getD 1 := by
    cases times with
    | none => exact Nat.le_refl 1
    | count counts => exact counts.2.1
  refine ⟨[.bracket call t tokens count], fun more le => ?_,
    sounds.bracket smooth t positive small⟩
  obtain ⟨lower, rfl⟩ : ∃ lower, more = lower + 1 := ⟨more - 1, by omega⟩
  exact (Grammar.Item.bracket named (pattern lower (by omega)) times).pattern

theorem append {m : Nat} {u : Text} (first : Phrase restSymbol levels m t)
    (second : Phrase restSymbol levels n u) : Phrase restSymbol levels (m + n) (t ++ ' ' :: u) := by
  obtain ⟨tokens, pattern, sounds⟩ := first
  obtain ⟨others, further, soundsToo⟩ := second
  exact ⟨tokens ++ others, fun more le => (pattern more le).append (further more le),
    sounds.append soundsToo⟩

/-- Phrases with a space between neighbours are a phrase. -/
theorem join {parts : List Text} (nonempty : parts ≠ [])
    (phrases : ∀ part ∈ parts, Phrase restSymbol levels n part) :
    Phrase restSymbol levels (n * parts.length) (Text.join [' '] parts) := by
  induction parts with
  | nil => exact absurd rfl nonempty
  | cons part parts ih =>
      have here := phrases part List.mem_cons_self
      cases parts with
      | nil => simpa [Text.join, List.intercalate] using here
      | cons next parts =>
          have further := ih (List.cons_ne_nil next parts)
            fun other member => phrases other (List.mem_cons_of_mem _ member)
          have total : n + n * (next :: parts).length = n * (part :: next :: parts).length := by
            rw [List.length_cons (a := part), Nat.mul_succ, Nat.add_comm]
          have whole := here.append further
          rw [total] at whole
          simpa [Text.join, List.intercalate] using whole

end Phrase

/-! ## Compilations of phrases -/

/-- Whether a text compiles with the built-in transforms to a sequence that is not empty, and
nothing is logged. -/
def CompilesClean (s : CompileSettings) (t : Text) : Prop :=
  ∀ source : Twister, ∃ compiled,
    compile .builtin (.checked s) (.text t) (some source) = .ok compiled ∧
      compiled.sequence ≠ [] ∧ compiled.log = []

theorem compileText_log_eq_nil {s : CompileSettings} {t : Text} {source : Twister}
    (silent : (Tree.parse s t 0).log = [])
    (quiet : ∀ failure,
      ¬Token.Fails (s.setting .builtin) (.start source) failure (Tree.parse s t 0).tokens) :
    (compileText .builtin s t source).log = [] := by
  refine List.eq_nil_iff_forall_not_mem.2 fun entry => ?_
  rw [mem_compileText_log, silent, s.finish_of_allSteps (Tree.yield_builtin_allSteps s _ source)]
  rintro (flaw | ⟨failure, failed, -⟩ | ⟨fault, unfinished, -⟩)
  · cases flaw
  · exact quiet failure failed
  · cases unfinished

/-- **Phrases compile cleanly** where the settings have their rest symbol and enough levels. -/
theorem Phrase.compilesClean {s : CompileSettings} {levels n : Nat} {t : Text}
    (phrase : Phrase s.restSymbol levels n t) (deep : levels ≤ s.depthLimit) (few : n ≤ maxSteps) :
    CompilesClean s t := by
  intro source
  obtain ⟨tokens, pattern, sounds⟩ := phrase
  have parsed := (Tree.parse_eq_iff s tokens t).2 (pattern _ deep)
  obtain ⟨quiet, longer, -⟩ := sounds (s.setting .builtin) (.start source) rfl rfl (by
    show 0 + n ≤ maxSteps
    omega)
  have nonempty : t ≠ [] := by
    rintro rfl
    rw [Tree.parse_nil] at parsed
    cases parsed
    exact absurd longer (Nat.lt_irrefl _)
  have silent : (compileText .builtin s t source).log = [] := by
    apply compileText_log_eq_nil
    · rw [parsed]
    · rw [parsed]
      exact quiet
  obtain ⟨log, compiled⟩ := compileText_eq .builtin s t source
  refine ⟨_, compileChecked_text_some .builtin s nonempty source, ?_, silent⟩
  rw [compiled, parsed, s.finished_eq_self (Tree.yield_builtin_allSteps s tokens source)]
  exact List.length_pos_iff.1 (Nat.lt_of_le_of_lt (Nat.zero_le _) longer)

end StepPattern
