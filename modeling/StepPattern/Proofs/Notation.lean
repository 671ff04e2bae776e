/-
# StepPattern.Proofs.Notation -- the rest symbol of a composer is only notation

Two composers with different rest symbols draw the same words, fail alike, and write
transcripts of each other (`Drawing.Transcribed`), as long as no integer is written
like one of their symbols:

* what is drawn of a shape is written by both, as its numerals are short or not
  whatever the symbol is (`Composer.writeShape_transcribed`);
* a section wraps transcripts in the same name or count;
* a template is steps of one character each, so another symbol in the place of each
  `-` writes the same steps (`Composer.template_transcript`).

As transcripts compile alike, the symbol cannot be heard (`composed_restSymbol`).
-/
import StepPattern.Proofs.Compositions
import StepPattern.Proofs.Transcripts

namespace StepPattern

set_option autoImplicit false

open Text

/-! ## Writing -/

/-- A step that is not short cannot be written, nor can steps with it. -/
theorem wordsFrom_eq_error (restSymbol : Text) (done : List Text) {steps : List Step}
    (long : ¬∀ step ∈ steps, step.Short) :
    wordsFrom restSymbol done steps = .error Value.overLimit := by
  induction steps generalizing done with
  | nil => exact absurd (List.forall_mem_nil _) long
  | cons step steps ih =>
      by_cases short : step.Short
      · have further : ¬∀ other ∈ steps, other.Short := fun all =>
          long (List.forall_mem_cons.2 ⟨short, all⟩)
        cases written : step.word? restSymbol with
        | none => rw [wordsFrom, written]
        | some word =>
            rw [wordsFrom, written]
            exact ih (word :: done) further
      · cases step with
        | rest => exact absurd trivial short
        | note n =>
            have unwritten : numeral? n = none := by
              rw [numeral?, if_neg]
              rwa [← length_toDigits_le_maxDigits_iff]
            rw [wordsFrom, Step.word?, unwritten]

/-! ## Drawings -/

/-- Whether two drawings fail alike or draw transcripts from every source, and leave the same
source. -/
def Drawing.Transcribed (one other : Text) (levels : Nat) (drawing copy : Drawing) : Prop :=
  ∀ g, ∃ later,
    (∃ fault, drawing g = (.error fault, later) ∧ copy g = (.error fault, later)) ∨
    ∃ t u, drawing g = (.ok t, later) ∧ copy g = (.ok u, later) ∧ Transcript one other levels t u

namespace Drawing.Transcribed

variable {one other : Text} {levels : Nat} {drawing copy : Drawing}

theorem deeper {more : Nat} (transcribed : Transcribed one other levels drawing copy)
    (le : levels ≤ more) : Transcribed one other more drawing copy := by
  intro g
  obtain ⟨later, failed | ⟨t, u, drawn, copied, transcript⟩⟩ := transcribed g
  · exact ⟨later, .inl failed⟩
  · exact ⟨later, .inr ⟨t, u, drawn, copied, transcript.deeper le⟩⟩

/-- Drawings that fail at once fail alike. -/
theorem failing (fault : Fault) :
    Transcribed one other levels (fun g => (.error fault, g)) (fun g => (.error fault, g)) :=
  fun g => ⟨g, .inl ⟨fault, rfl, rfl⟩⟩

/-- Texts drawn one after the other are transcripts with the texts before them. -/
theorem rowFrom (transcribed : Transcribed one other levels drawing copy) (count : Nat)
    {done written : List Text} (before : List.Forall₂ (Transcript one other levels) done written) :
    Transcribed one other levels (drawing.rowFrom done count) (copy.rowFrom written count) := by
  induction count generalizing done written with
  | zero =>
      intro g
      exact ⟨g, .inr ⟨_, _, rfl, rfl, .join (List.rel_reverse before)⟩⟩
  | succ count ih =>
      intro g
      obtain ⟨next, ⟨fault, failed, alsoFailed⟩ | ⟨t, u, drawn, copied, transcript⟩⟩ := transcribed g
      · refine ⟨next, .inl ⟨fault, ?_, ?_⟩⟩
        · rw [Drawing.rowFrom, failed]
        · rw [Drawing.rowFrom, alsoFailed]
      · rw [Drawing.rowFrom, Drawing.rowFrom, drawn, copied]
        exact ih (.cons transcript before) next

end Drawing.Transcribed

namespace Composer

variable {c d : Composer}

/-- Transcripts with a count behind their brackets are transcripts. -/
theorem repeated_transcript {one other t u : Text} (transcript : Transcript one other 0 t u)
    {count : Nat} (positive : 1 ≤ count) (few : count ≤ maxCount) :
    Transcript one other 1 (repeated t count) (repeated u count) := by
  have counts := Grammar.count_toDigits positive few
  have whole := transcript.bracket .none (.count counts)
  simpa [repeated, bracketed] using whole

/-- Transcripts in a call are transcripts. -/
theorem called_transcript {one other t u name : Text} (transcript : Transcript one other 0 t u)
    {call : Call} (named : Grammar.Name name (some call)) :
    Transcript one other 1 (name ++ bracketed t) (name ++ bracketed u) := by
  have whole := transcript.bracket named .none
  simpa [bracketed] using whole

/-- **What is drawn of a shape is transcribed**: with any two symbols that no integer is written
like. -/
theorem writeShape_transcribed (clear : Unambiguous c.restSymbol)
    (alsoClear : Unambiguous d.restSymbol) (shape : Except Fault Shape) :
    Drawing.Transcribed c.restSymbol d.restSymbol 0 (c.writeShape shape) (d.writeShape shape) := by
  intro g
  cases shape with
  | error fault => exact ⟨g, .inl ⟨fault, rfl, rfl⟩⟩
  | ok sh =>
      rcases drawn : sh.draw g with ⟨fault | steps, later⟩
      · refine ⟨later, .inl ⟨fault, ?_, ?_⟩⟩ <;> simp only [writeShape, drawn, Except.bind]
      · by_cases short : ∀ step ∈ steps, step.Short
        · refine ⟨later, .inr ⟨_, _, ?_, ?_, .steps clear alsoClear short⟩⟩ <;>
            simp only [writeShape, drawn, Except.bind, writeSteps_eq _ short]
        · refine ⟨later, .inl ⟨Value.overLimit, ?_, ?_⟩⟩ <;>
            simp only [writeShape, drawn, Except.bind, writeSteps, wordsFrom_eq_error _ [] short,
              Except.map]

/-! ## Sections -/

variable {drawing copy : Drawing}

theorem asGroup_transcribed
    (transcribed : Drawing.Transcribed c.restSymbol d.restSymbol 0 drawing copy) :
    Drawing.Transcribed c.restSymbol d.restSymbol 1 (asGroup drawing) (asGroup copy) := by
  intro g
  obtain ⟨next, ⟨fault, failed, alsoFailed⟩ | ⟨t, u, drawn, copied, transcript⟩⟩ := transcribed g
  · exact ⟨next, .inl ⟨fault, by simp only [asGroup, failed], by simp only [asGroup, alsoFailed]⟩⟩
  · obtain ⟨count, later, chosen, least, most⟩ := next.exists_between 2 4 (by decide)
    have positive : 1 ≤ count := by omega
    have few : count ≤ maxCount := Nat.le_trans most (by decide)
    refine ⟨later, .inr ⟨_, _, ?_, ?_, repeated_transcript transcript positive few⟩⟩ <;>
      simp only [asGroup, drawn, copied, chosen]

theorem asCall_transcribed {name : Text} {call : Call} (named : Grammar.Name name (some call))
    (transcribed : Drawing.Transcribed c.restSymbol d.restSymbol 0 drawing copy) :
    Drawing.Transcribed c.restSymbol d.restSymbol 1 (asCall name drawing) (asCall name copy) := by
  intro g
  obtain ⟨later, ⟨fault, failed, alsoFailed⟩ | ⟨t, u, drawn, copied, transcript⟩⟩ := transcribed g
  · exact ⟨later, .inl ⟨fault, by simp only [asCall, failed], by simp only [asCall, alsoFailed]⟩⟩
  · refine ⟨later, .inr ⟨_, _, ?_, ?_, called_transcript transcript named⟩⟩ <;>
      simp only [asCall, drawn, copied]

section Clear

variable (clear : Unambiguous c.restSymbol) (alsoClear : Unambiguous d.restSymbol)

include clear alsoClear

theorem segment_transcribed (length : Nat) (restChance repeatChance : Value) :
    Drawing.Transcribed c.restSymbol d.restSymbol 0 (c.segment length restChance repeatChance)
      (d.segment length restChance repeatChance) :=
  writeShape_transcribed clear alsoClear _

theorem simpleSection_transcribed :
    Drawing.Transcribed c.restSymbol d.restSymbol 1 c.simpleSection d.simpleSection := by
  intro g
  obtain ⟨length, start, chosen, -⟩ := g.exists_between 2 5 (by decide)
  unfold simpleSection
  rw [chosen]
  obtain ⟨next, ⟨fault, failed, alsoFailed⟩ | ⟨t, u, drawn, copied, transcript⟩⟩ :=
    segment_transcribed clear alsoClear length (RandomSettings.tenths 3) (RandomSettings.tenths 4)
      start
  · exact ⟨next, .inl ⟨fault, by simp only [failed], by simp only [alsoFailed]⟩⟩
  · simp only [drawn, copied]
    split
    · have plain : Drawing.Transcribed c.restSymbol d.restSymbol 0 (fun g => (.ok t, g))
          (fun g => (.ok u, g)) := fun g => ⟨g, .inr ⟨t, u, rfl, rfl, transcript⟩⟩
      exact asGroup_transcribed plain _
    · exact ⟨_, .inr ⟨t, u, rfl, rfl, transcript.deeper (Nat.zero_le 1)⟩⟩

theorem groupedSection_transcribed :
    Drawing.Transcribed c.restSymbol d.restSymbol 1 c.groupedSection d.groupedSection := by
  intro g
  obtain ⟨length, start, chosen, -⟩ := g.exists_between 2 4 (by decide)
  have segment := segment_transcribed clear alsoClear length (RandomSettings.tenths 2)
    (RandomSettings.tenths 2)
  have grouped := asGroup_transcribed segment start
  unfold groupedSection
  rw [chosen]
  exact grouped

theorem transformSection_transcribed :
    Drawing.Transcribed c.restSymbol d.restSymbol 1 c.transformSection d.transformSection := by
  intro g
  obtain ⟨transform, next, picked, among⟩ :=
    g.exists_choose sectionTransforms.1 sectionTransforms.2
  obtain ⟨call, named, -⟩ := Token.smooth_sectionTransforms _ among
  obtain ⟨length, start, chosen, -⟩ := next.exists_between 3 6 (by decide)
  have segment := segment_transcribed clear alsoClear length (RandomSettings.tenths 2)
    (RandomSettings.tenths 2)
  have called := asCall_transcribed named segment start
  unfold transformSection
  rw [picked]
  dsimp only
  rw [chosen]
  exact called

theorem anySection_transcribed :
    Drawing.Transcribed c.restSymbol d.restSymbol 1 c.anySection d.anySection := by
  intro g
  obtain ⟨kind, next, among, chosen⟩ := exists_kind g
  have each : ∀ kind ∈ kinds.map (·.1),
      Drawing.Transcribed c.restSymbol d.restSymbol 1 (kind c) (kind d) := by
    simp only [kinds, List.map_cons, List.map_nil, List.forall_mem_cons]
    exact ⟨simpleSection_transcribed clear alsoClear, groupedSection_transcribed clear alsoClear,
      transformSection_transcribed clear alsoClear, List.forall_mem_nil _⟩
  rw [anySection, anySection, chosen c, chosen d]
  exact each kind among next

theorem complex_transcribed (count : Value) :
    Drawing.Transcribed c.restSymbol d.restSymbol 1 (c.complex count) (d.complex count) := by
  unfold complex
  cases count.number? with
  | none => exact .failing _
  | some number =>
      cases number with
      | int n => exact (anySection_transcribed clear alsoClear).rowFrom n.toNat .nil
      | _ => exact .failing _

/-! ## Named texts -/

/-- **A template with two symbols gives transcripts.** -/
theorem template_transcript {t : Text} (template : Style.isTemplate t = true) :
    Transcript c.restSymbol d.restSymbol 1 (replaceChar '-' c.restSymbol t)
      (replaceChar '-' d.restSymbol t) := by
  obtain ⟨steps, -, -, short, form⟩ := Style.exists_steps_of_isTemplate template
  have transcript := Transcript.steps clear alsoClear short
  rcases form with plain | ⟨count, positive, most, group⟩ | ⟨name, call, named, -, called⟩
  · rw [plain, plain]
    exact transcript.deeper (Nat.zero_le 1)
  · rw [group, group]
    exact repeated_transcript transcript positive (Nat.le_trans most (by decide))
  · rw [called, called]
    exact called_transcript transcript named

theorem styled_transcribed (name : Value) :
    Drawing.Transcribed c.restSymbol d.restSymbol 1 (c.styled name) (d.styled name) := by
  have segment := (segment_transcribed clear alsoClear 8 (RandomSettings.tenths 3)
    (RandomSettings.tenths 4)).deeper (Nat.zero_le 1)
  cases name with
  | bytes octets =>
      intro g
      simp only [styled]
      exact segment g
  | text name =>
      cases found : Style.find? name with
      | none =>
          intro g
          simp only [styled, found]
          exact segment g
      | some style =>
          intro g
          obtain ⟨template, later, chosen, among⟩ := g.exists_choose style.first style.others
          have known : style ∈ Style.all := List.mem_of_find?_eq_some found
          have form := Style.all_isTemplate style known template among
          refine ⟨later, .inr ⟨_, _, ?_, ?_, template_transcript clear alsoClear form⟩⟩ <;>
            simp only [styled, found, chosen]
  | _ => exact .failing _

theorem simple_transcribed (fields : Fields) :
    Drawing.Transcribed c.restSymbol d.restSymbol 0 (c.simple fields) (d.simple fields) := by
  intro g
  simp only [simple]
  split
  · exact writeShape_transcribed clear alsoClear _ g
  · exact Drawing.Transcribed.failing _ g

theorem byName_transcribed (name : Value) :
    Drawing.Transcribed c.restSymbol d.restSymbol 1 (c.byName name) (d.byName name) := by
  have simple := (simple_transcribed clear alsoClear []).deeper (Nat.zero_le 1)
  cases name with
  | bytes octets => exact simple
  | text name =>
      intro g
      simp only [byName]
      split
      · exact styled_transcribed clear alsoClear (.text name) g
      split
      · exact complex_transcribed clear alsoClear (.int 3) g
      · exact simple g
  | _ => exact .failing _

end Clear

/-! ## All of it -/

/-- A method of a composer, with its arguments. -/
inductive Method where
  | simple (fields : Fields)
  | simpleSection
  | groupedSection
  | transformSection
  | complex (count : Value)
  | styled (name : Value)
  | byName (name : Value)

def run (c : Composer) : Method → Drawing
  | .simple fields => c.simple fields
  | .simpleSection => c.simpleSection
  | .groupedSection => c.groupedSection
  | .transformSection => c.transformSection
  | .complex count => c.complex count
  | .styled name => c.styled name
  | .byName name => c.byName name

/-- **Whatever is composed is transcribed** by a composer with another rest symbol. -/
theorem run_transcribed (clear : Unambiguous c.restSymbol) (alsoClear : Unambiguous d.restSymbol)
    (method : Method) :
    Drawing.Transcribed c.restSymbol d.restSymbol 1 (c.run method) (d.run method) := by
  cases method with
  | simple fields => exact (simple_transcribed clear alsoClear fields).deeper (Nat.zero_le 1)
  | simpleSection => exact simpleSection_transcribed clear alsoClear
  | groupedSection => exact groupedSection_transcribed clear alsoClear
  | transformSection => exact transformSection_transcribed clear alsoClear
  | complex count => exact complex_transcribed clear alsoClear count
  | styled name => exact styled_transcribed clear alsoClear name
  | byName name => exact byName_transcribed clear alsoClear name

end Composer

/-- **The rest symbol of a composer is only notation.**  Take any rest symbol that settings accept and
that no integer is written like, as it is with every symbol other than digits with an optional sign,
and any method with its arguments.  From the same source a composer with this symbol and one with
the default symbol leave the same source, and fail alike or give two texts.  These compile, each
under its own symbol and with any other settings, to the same sequence, whatever source the
compilations draw from, and leave the same source. -/
theorem composed_restSymbol (s : CompileSettings) (symbol : RestSymbol)
    (clear : Unambiguous symbol) (method : Composer.Method) (g : Twister) :
    ∃ later,
      (∃ fault, Composer.run ⟨symbol⟩ method g = (.error fault, later) ∧
        Composer.run ⟨defaultRestSymbol⟩ method g = (.error fault, later)) ∨
      ∃ t u, Composer.run ⟨symbol⟩ method g = (.ok t, later) ∧
        Composer.run ⟨defaultRestSymbol⟩ method g = (.ok u, later) ∧
        ∀ source : Twister, ∃ sequence log copied after,
          compile .builtin (.checked (s.withRestSymbol symbol)) (.text t) (some source) =
            .ok ⟨sequence, log, some after⟩ ∧
          compile .builtin (.checked (s.withRestSymbol .default)) (.text u) (some source) =
            .ok ⟨sequence, copied, some after⟩ := by
  obtain ⟨later, failed | ⟨t, u, drawn, copied, transcript⟩⟩ :=
    Composer.run_transcribed (c := ⟨symbol⟩) (d := ⟨defaultRestSymbol⟩) clear
      (.of_not_isNumeral (by decide)) method g
  · exact ⟨later, .inl failed⟩
  · have symbols : Transcript symbol RestSymbol.default 1 t u := transcript
    exact ⟨later, .inr ⟨t, u, drawn, copied, symbols.compile_eq s⟩⟩

/-- The symbol may be the name of a call, in templates that have one. -/
theorem composed_restSymbol_call_name :
    let symbol : RestSymbol := ⟨"rotate3".toList, by decide⟩
    let style := Composer.Method.styled (.text "glitch".toList)
    Unambiguous symbol ∧
      ∃ t u later, Composer.run ⟨symbol⟩ style (.ofSeed 5) = (.ok t, later) ∧
        Composer.run ⟨defaultRestSymbol⟩ style (.ofSeed 5) = (.ok u, later) ∧
        ∀ source : Twister, ∃ sequence log copied after,
          compile .builtin (.checked (CompileSettings.default.withRestSymbol symbol)) (.text t)
              (some source) = .ok ⟨sequence, log, some after⟩ ∧
          compile .builtin (.checked (CompileSettings.default.withRestSymbol .default)) (.text u)
              (some source) = .ok ⟨sequence, copied, some after⟩ := by
  intro symbol style
  have clear : Unambiguous symbol := .of_not_isNumeral (by decide)
  refine ⟨clear, ?_⟩
  obtain ⟨later, ⟨fault, failed, -⟩ | ⟨t, u, given⟩⟩ :=
    composed_restSymbol .default symbol clear style (.ofSeed 5)
  · -- A style always gives a text.
    obtain ⟨text, next, drawn, -⟩ := Composer.styled_gives ⟨symbol⟩ "glitch".toList (.ofSeed 5)
    cases failed.symm.trans drawn
  · exact ⟨t, u, later, given⟩

end StepPattern
