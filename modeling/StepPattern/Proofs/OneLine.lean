/-
# StepPattern.Proofs.OneLine -- what is printed stands on one line

A text stands on one line if spaces are the only whitespace in it (`Text.OneLine`).  Steps
are written so whatever the rest symbol is, as long as it is on one line itself, and a
composer writes nothing else: segments, counts, names of transforms and templates
(`Composer.byName_lines`).
-/
import StepPattern.Proofs.Notation
import StepPattern.Proofs.Words

namespace StepPattern

set_option autoImplicit false

open Text

/-! ## Texts on one line -/

/-- Whether a text stands on one line: it has no whitespace other than spaces. -/
def Text.OneLine (t : Text) : Prop :=
  ∀ c ∈ t, isBlank c = true → c = ' '

namespace Text

-- The characters of the text are gone through, not all that there are.
instance (t : Text) : Decidable (OneLine t) :=
  List.decidableBAll (fun c => isBlank c = true → c = ' ') t

variable {t u : Text}

theorem oneLine_append : OneLine (t ++ u) ↔ OneLine t ∧ OneLine u :=
  List.forall_mem_append

theorem oneLine_cons {c : Char} :
    OneLine (c :: t) ↔ (isBlank c = true → c = ' ') ∧ OneLine t :=
  List.forall_mem_cons

theorem oneLine_of_unbroken (unbroken : Unbroken t) : OneLine t := fun c among blank => by
  rw [unbroken.isBlank_eq_false among] at blank
  cases blank

theorem oneLine_join {parts : List Text} (all : ∀ part ∈ parts, OneLine part) :
    OneLine (join [' '] parts) := by
  induction parts with
  | nil => exact nofun
  | cons part parts ih =>
      obtain ⟨first, others⟩ := List.forall_mem_cons.1 all
      cases parts with
      | nil => simpa [join, List.intercalate] using first
      | cons next parts =>
          have row : join [' '] (part :: next :: parts) =
              part ++ ' ' :: join [' '] (next :: parts) := by
            simp [join, List.intercalate]
          rw [row, oneLine_append, oneLine_cons]
          exact ⟨first, fun _ => rfl, ih others⟩

theorem oneLine_toDigits (n : Nat) : OneLine (Nat.toDigits 10 n) :=
  oneLine_of_unbroken fun _ member =>
    endsTail_of_isDecimal (isDecimal_of_isDigit
      (Nat.isDigit_of_mem_toDigits (by decide) (by decide) member))

theorem oneLine_replaceChar {c : Char} {by_ : Text} (replaced : OneLine t) (by_oneLine : OneLine by_) :
    OneLine (replaceChar c by_ t) := by
  intro d among blank
  obtain ⟨e, member, piece⟩ := List.mem_flatMap.1 among
  split at piece
  · exact by_oneLine d piece blank
  · obtain rfl := List.mem_singleton.1 piece
    exact replaced d member blank

/-- What may stand for a rest is on one line. -/
theorem oneLine_of_isRestSymbol (allowed : isRestSymbol t = true) : OneLine t :=
  oneLine_of_unbroken (isRestSymbol_iff.1 allowed).2.1

/-- Steps are written on one line, if they are written at all. -/
theorem oneLine_of_writeSteps {restSymbol : Text} {steps : List Step} (symbol : OneLine restSymbol)
    (written : writeSteps restSymbol steps = .ok t) : OneLine t := by
  by_cases short : ∀ step ∈ steps, step.Short
  · rw [writeSteps_eq restSymbol short] at written
    cases written
    refine oneLine_join fun word among => ?_
    obtain ⟨step, member, rfl⟩ := List.mem_map.1 among
    cases step with
    | note n => exact oneLine_of_unbroken (Grammar.numeral_numeral (short _ member)).unbroken
    | rest => exact symbol
  · rw [writeSteps, wordsFrom_eq_error restSymbol [] short] at written
    cases written

end Text

/-! ## What a composer writes -/

/-- Whether a drawing writes nothing that is not on one line. -/
def Drawing.WritesLines (drawing : Drawing) : Prop :=
  ∀ g t later, drawing g = (.ok t, later) → OneLine t

namespace Drawing

variable {drawing : Drawing}

theorem WritesLines.rowFrom (lines : drawing.WritesLines) {done : List Text} (count : Nat)
    (before : ∀ part ∈ done, OneLine part) : (drawing.rowFrom done count).WritesLines := by
  induction count generalizing done with
  | zero =>
      intro g t later drawn
      cases drawn
      exact oneLine_join fun part among => before part (List.mem_reverse.1 among)
  | succ count ih =>
      intro g t later drawn
      rw [Drawing.rowFrom] at drawn
      split at drawn
      case h_1 => cases drawn
      case h_2 first next written =>
        exact ih (List.forall_mem_cons.2 ⟨lines _ _ _ written, before⟩) _ _ _ drawn

theorem WritesLines.asGroup (lines : drawing.WritesLines) :
    (Composer.asGroup drawing).WritesLines := by
  intro g t later drawn
  unfold Composer.asGroup at drawn
  split at drawn
  case h_1 => cases drawn
  case h_2 inside next written =>
    obtain ⟨count, start, chosen, -⟩ := next.exists_between 2 4 (by decide)
    rw [chosen] at drawn
    cases drawn
    simp only [Composer.repeated, Composer.bracketed, List.cons_append, oneLine_cons,
      oneLine_append]
    exact ⟨by decide, ⟨lines _ _ _ written, by decide⟩, by decide, oneLine_toDigits _⟩

theorem WritesLines.asCall {name : Text} (named : OneLine name) (lines : drawing.WritesLines) :
    (Composer.asCall name drawing).WritesLines := by
  intro g t later drawn
  rw [Composer.asCall] at drawn
  split at drawn
  case h_1 => cases drawn
  case h_2 inside next written =>
    cases drawn
    simp only [Composer.bracketed, List.cons_append, oneLine_cons, oneLine_append]
    exact ⟨named, by decide, lines _ _ _ written, by decide⟩

end Drawing

namespace Composer

variable {c : Composer} (symbol : OneLine c.restSymbol)

include symbol

theorem writeShape_lines (shape : Except Fault Shape) : (c.writeShape shape).WritesLines := by
  intro g t later drawn
  simp only [writeShape] at drawn
  split at drawn
  case h_1 => cases drawn
  case h_2 sh =>
    rcases given : sh.draw g with ⟨_ | steps, next⟩
    · rw [given] at drawn
      cases drawn
    · rw [given] at drawn
      exact oneLine_of_writeSteps symbol (Prod.mk.inj drawn).1

theorem segment_lines (length : Nat) (restChance repeatChance : Value) :
    (c.segment length restChance repeatChance).WritesLines :=
  writeShape_lines symbol _

theorem simpleSection_lines : c.simpleSection.WritesLines := by
  intro g t later drawn
  obtain ⟨length, start, chosen, -⟩ := g.exists_between 2 5 (by decide)
  unfold simpleSection at drawn
  rw [chosen] at drawn
  dsimp only at drawn
  split at drawn
  case h_1 => cases drawn
  case h_2 text next written =>
    have line := segment_lines symbol _ _ _ _ _ _ written
    split at drawn
    case isTrue =>
      have plain : Drawing.WritesLines fun g => (.ok text, g) := fun g u later same => by
        cases same
        exact line
      exact plain.asGroup _ _ _ drawn
    case isFalse =>
      rw [← Except.ok.inj (Prod.mk.inj drawn).1]
      exact line

theorem groupedSection_lines : c.groupedSection.WritesLines := by
  intro g t later drawn
  obtain ⟨length, start, chosen, -⟩ := g.exists_between 2 4 (by decide)
  unfold groupedSection at drawn
  rw [chosen] at drawn
  exact (segment_lines symbol _ _ _).asGroup _ _ _ drawn

theorem transformSection_lines : c.transformSection.WritesLines := by
  intro g t later drawn
  obtain ⟨name, next, picked, among⟩ := g.exists_choose sectionTransforms.1 sectionTransforms.2
  obtain ⟨length, start, chosen, -⟩ := next.exists_between 3 6 (by decide)
  unfold transformSection at drawn
  rw [picked] at drawn
  dsimp only at drawn
  rw [chosen] at drawn
  have named : ∀ name ∈ sectionTransforms.1 :: sectionTransforms.2, OneLine name.toList := by
    decide +kernel
  exact (segment_lines symbol _ _ _).asCall (named name among) _ _ _ drawn

theorem anySection_lines : c.anySection.WritesLines := by
  intro g t later drawn
  obtain ⟨kind, next, among, chosen⟩ := exists_kind g
  rw [anySection, chosen c] at drawn
  simp only [kinds, List.map_cons, List.map_nil, List.mem_cons, List.not_mem_nil, or_false] at among
  rcases among with rfl | rfl | rfl
  · exact simpleSection_lines symbol _ _ _ drawn
  · exact groupedSection_lines symbol _ _ _ drawn
  · exact transformSection_lines symbol _ _ _ drawn

theorem styled_lines (name : Text) : (c.styled (.text name)).WritesLines := by
  intro g t later drawn
  simp only [styled] at drawn
  split at drawn
  case h_1 => exact segment_lines symbol _ _ _ _ _ _ drawn
  case h_2 style found =>
    obtain ⟨template, next, chosen, among⟩ := g.exists_choose style.first style.others
    rw [chosen] at drawn
    cases drawn
    have templates : ∀ style ∈ Style.all, ∀ template ∈ style.first :: style.others,
        OneLine template.toList := by
      decide +kernel
    exact oneLine_replaceChar (templates style (List.mem_of_find?_eq_some found) template among)
      symbol

theorem simple_lines (fields : Fields) : (c.simple fields).WritesLines := by
  intro g t later drawn
  simp only [simple] at drawn
  split at drawn
  case h_1 => exact writeShape_lines symbol _ _ _ _ drawn
  case h_2 => cases drawn

/-- **Whatever a composer is asked for by name, it writes one line.** -/
theorem byName_lines (name : Text) : (c.byName (.text name)).WritesLines := by
  intro g t later drawn
  simp only [byName] at drawn
  split at drawn
  case isTrue => exact styled_lines symbol name _ _ _ drawn
  case isFalse =>
    split at drawn
    case isTrue =>
      have nothing : ∀ part ∈ ([] : List Text), OneLine part := List.forall_mem_nil _
      exact (anySection_lines symbol).rowFrom _ nothing _ _ _ drawn
    case isFalse => exact simple_lines symbol [] _ _ _ drawn

end Composer

end StepPattern
