/-
# StepPattern.Proofs.Compositions -- everything that is composed compiles cleanly

Whatever a composer draws, its texts compile under its rest symbol to sequences that
are not empty, and nothing is logged (`composed_compilesClean`).

* A template is steps written with `-` for a rest, alone, as a repeated group or in a
  call (`isTemplate`).  As no name, count or note in it has a `-`, another symbol in
  the place of each `-` writes the same steps with that symbol
  (`replaceChar_words`).
* A simple text is written steps.  Its slots are at most `simpleSlots`, so the steps
  that fill them keep to the step limit even if every group is written as often as it
  can be.
-/
import StepPattern.Proofs.Checks
import StepPattern.Proofs.Sections

namespace StepPattern

set_option autoImplicit false

open Text

/-! ## Rests written with another symbol -/

namespace Text

variable {c : Char} {by_ : Text}

theorem replaceChar_append (t u : Text) :
    replaceChar c by_ (t ++ u) = replaceChar c by_ t ++ replaceChar c by_ u :=
  List.flatMap_append

theorem replaceChar_cons_of_ne {d : Char} (other : d ≠ c) (t : Text) :
    replaceChar c by_ (d :: t) = d :: replaceChar c by_ t := by
  simp [replaceChar, other]

/-- Where a character is not, nothing is replaced. -/
theorem replaceChar_of_notMem {t : Text} (absent : c ∉ t) : replaceChar c by_ t = t := by
  induction t with
  | nil => rfl
  | cons d t ih =>
      obtain ⟨other, further⟩ := not_or.1 (List.mem_cons.not.1 absent)
      rw [replaceChar_cons_of_ne (Ne.symm other), ih further]

theorem replaceChar_join {gap : Text} (absent : c ∉ gap) (parts : List Text) :
    replaceChar c by_ (join gap parts) = join gap (parts.map (replaceChar c by_)) := by
  induction parts with
  | nil => rfl
  | cons part parts ih =>
      cases parts with
      | nil => simp [join, List.intercalate]
      | cons next parts =>
          have split : ∀ first second : Text, ∀ more : List Text,
              join gap (first :: second :: more) = first ++ gap ++ join gap (second :: more) := by
            intro first second more
            simp [join, List.intercalate]
          rw [List.map_cons] at ih
          rw [split, replaceChar_append, replaceChar_append, replaceChar_of_notMem absent, ih,
            List.map_cons, List.map_cons, split]

end Text

namespace Step

/-- Whether a step is written with one character where a rest is: a rest, or a note of one digit. -/
def isSingle : Step → Bool
  | note n => 0 ≤ n && n ≤ 9
  | rest => true

theorem exists_digit {n : Int} (single : (note n).isSingle = true) : ∃ d : Nat, d ≤ 9 ∧ n = d := by
  simp only [isSingle, Bool.and_eq_true, decide_eq_true_eq] at single
  exact ⟨n.toNat, by omega, by omega⟩

theorem short_of_isSingle {step : Step} (single : step.isSingle = true) : step.Short := by
  cases step with
  | rest => trivial
  | note n =>
      obtain ⟨d, digit, rfl⟩ := exists_digit single
      exact length_toDigits_le_maxDigits_iff.2 (Nat.lt_of_le_of_lt digit (by decide +kernel))

theorem replaceChar_word (restSymbol : Text) {step : Step} (single : step.isSingle = true) :
    replaceChar '-' restSymbol (step.word defaultRestSymbol) = step.word restSymbol := by
  cases step with
  | rest => simp [word, defaultRestSymbol, replaceChar]
  | note n =>
      obtain ⟨d, -, rfl⟩ := exists_digit single
      refine replaceChar_of_notMem fun member => ?_
      have digit := Nat.isDigit_of_mem_toDigits (by decide) (by decide) member
      exact absurd digit (by decide)

end Step

theorem replaceChar_bracketed (restSymbol t : Text) :
    replaceChar '-' restSymbol (Composer.bracketed t) =
      Composer.bracketed (replaceChar '-' restSymbol t) := by
  rw [Composer.bracketed, List.cons_append, replaceChar_cons_of_ne (by decide), replaceChar_append,
    replaceChar_cons_of_ne (by decide)]
  rfl

theorem replaceChar_repeated (restSymbol t : Text) (count : Nat) :
    replaceChar '-' restSymbol (Composer.repeated t count) =
      Composer.repeated (replaceChar '-' restSymbol t) count := by
  have digits : '-' ∉ Nat.toDigits 10 count := fun member =>
    absurd (Nat.isDigit_of_mem_toDigits (by decide) (by decide) member) (by decide)
  rw [Composer.repeated, replaceChar_append, replaceChar_bracketed,
    replaceChar_cons_of_ne (by decide), replaceChar_of_notMem digits, Composer.repeated]

/-- Steps written with `-` for a rest and without signs are written with another symbol by putting it
in the place of each `-`. -/
theorem replaceChar_words (restSymbol : Text) {steps : List Step}
    (single : ∀ step ∈ steps, step.isSingle = true) :
    replaceChar '-' restSymbol (Text.join [' '] (steps.map (Step.word defaultRestSymbol))) =
      Text.join [' '] (steps.map (Step.word restSymbol)) := by
  rw [replaceChar_join (by decide), List.map_map]
  congr 1
  exact List.map_congr_left fun step member => Step.replaceChar_word restSymbol (single step member)

/-! ## Templates -/

namespace Style

def bodySteps : Nat := 16

def readSteps (t : Text) : List Step :=
  (t.splitOn ' ').map (Step.ofText defaultRestSymbol)

/-- Whether a text is a few steps as they are written, with rests and notes of one digit. -/
def isWritten (t : Text) : Bool :=
  let steps := readSteps t
  t = Text.join [' '] (steps.map (Step.word defaultRestSymbol)) && steps.all Step.isSingle &&
    !steps.isEmpty && steps.length ≤ bodySteps

def body (t : Text) : Text :=
  match Token.splitBrackets t with
  | .ok (_, inside, _) => inside
  | .error _ => t

def callNames : List String := ["scramble", "rotate3"]

def isTemplate (t : Text) : Bool :=
  isWritten (body t) &&
    (t = body t || (List.range' 1 8).any (fun count => t = Composer.repeated (body t) count) ||
      callNames.any fun name => t = name.toList ++ Composer.bracketed (body t))

theorem all_isTemplate :
    ∀ style ∈ all, ∀ template ∈ style.first :: style.others, isTemplate template.toList = true := by
  decide +kernel

/-- The calls in templates are smooth, and no rest is in their names. -/
theorem smooth_callNames : ∀ name ∈ callNames, '-' ∉ name.toList ∧
    ∃ call, Grammar.Name name.toList (some call) ∧ Token.Smooth call := by
  simp only [callNames, List.forall_mem_cons]
  exact ⟨⟨by decide, _, Token.name_of_readName (by decide) rfl, Token.smooth_scramble⟩,
    ⟨by decide, _, Token.name_of_readName (by decide) rfl, Token.smooth_rotate (some 3)⟩,
    List.forall_mem_nil _⟩

/-- Written steps are steps with any other symbol in the place of each rest. -/
theorem exists_steps_of_isWritten {t : Text} (written : isWritten t = true) :
    ∃ steps : List Step, steps ≠ [] ∧ steps.length ≤ bodySteps ∧ (∀ step ∈ steps, step.Short) ∧
      ∀ restSymbol, replaceChar '-' restSymbol t =
        Text.join [' '] (steps.map (Step.word restSymbol)) := by
  simp only [isWritten, Bool.and_eq_true, decide_eq_true_eq, List.all_eq_true,
    Bool.not_eq_true', List.isEmpty_eq_false_iff] at written
  obtain ⟨⟨⟨same, single⟩, nonempty⟩, few⟩ := written
  refine ⟨readSteps t, nonempty, few, fun step member => Step.short_of_isSingle (single step member),
    fun restSymbol => ?_⟩
  conv_lhs => rw [same]
  exact replaceChar_words restSymbol single

/-- **A template is a few steps with any rest symbol**, alone, as a repeated group or in a call. -/
theorem exists_steps_of_isTemplate {t : Text} (template : isTemplate t = true) :
    ∃ steps : List Step, steps ≠ [] ∧ steps.length ≤ bodySteps ∧ (∀ step ∈ steps, step.Short) ∧
      let body := fun restSymbol => Text.join [' '] (steps.map (Step.word restSymbol))
      (∀ restSymbol, replaceChar '-' restSymbol t = body restSymbol) ∨
      (∃ count, 1 ≤ count ∧ count ≤ 8 ∧ ∀ restSymbol,
        replaceChar '-' restSymbol t = Composer.repeated (body restSymbol) count) ∨
      ∃ name call, Grammar.Name name (some call) ∧ Token.Smooth call ∧ ∀ restSymbol,
        replaceChar '-' restSymbol t = name ++ Composer.bracketed (body restSymbol) := by
  simp only [isTemplate, Bool.and_eq_true, Bool.or_eq_true, decide_eq_true_eq,
    List.any_eq_true, List.mem_range'_1] at template
  obtain ⟨written, form⟩ := template
  obtain ⟨steps, nonempty, few, short, replaced⟩ := exists_steps_of_isWritten written
  refine ⟨steps, nonempty, few, short, ?_⟩
  rcases form with (plain | ⟨count, bounds, group⟩) | ⟨name, among, called⟩
  · refine .inl fun restSymbol => ?_
    rw [plain]
    exact replaced restSymbol
  · refine .inr (.inl ⟨count, bounds.1, by omega, fun restSymbol => ?_⟩)
    rw [group, replaceChar_repeated, replaced]
  · obtain ⟨absent, call, named, smooth⟩ := smooth_callNames name among
    refine .inr (.inr ⟨name.toList, call, named, smooth, fun restSymbol => ?_⟩)
    rw [called, replaceChar_append, replaceChar_of_notMem absent, replaceChar_bracketed, replaced]

def templateSteps : Nat := bodySteps * 8

/-- **A template with any rest symbol is a phrase.** -/
theorem phrase_of_isTemplate (restSymbol : Text) {t : Text} (template : isTemplate t = true) :
    Phrase restSymbol 1 templateSteps (replaceChar '-' restSymbol t) := by
  obtain ⟨steps, nonempty, few, short, form⟩ := exists_steps_of_isTemplate template
  have phrase : Phrase restSymbol 0 bodySteps _ := (Phrase.steps nonempty short).mono few
  rcases form with plain | ⟨count, positive, most, group⟩ | ⟨name, call, named, smooth, called⟩
  · rw [plain]
    exact (phrase.deeper (Nat.zero_le 1)).mono (by decide)
  · rw [group]
    have whole := phrase.repeated positive (Nat.le_trans most (by decide)) (by decide)
    exact whole.mono (Nat.mul_le_mul_left _ most)
  · rw [called]
    exact (phrase.called named smooth (by decide)).mono (by decide)

end Style

namespace Composer

/-- A named style gives one of its templates, any other name a segment of eight slots. -/
theorem styled_gives (c : Composer) (name : Text) :
    (c.styled (.text name)).Gives (Phrase c.restSymbol 1 Style.templateSteps) := by
  intro g
  cases found : Style.find? name with
  | none =>
      have positive : 1 ≤ 8 := by decide
      obtain ⟨text, later, drawn, phrase⟩ :=
        c.segment_gives positive (RandomSettings.tenths 4) probabilitySum_three g
      refine ⟨text, later, ?_, (phrase.deeper (Nat.zero_le 1)).mono (by decide)⟩
      simp only [styled, found, drawn]
  | some style =>
      obtain ⟨template, later, chosen, among⟩ := g.exists_choose style.first style.others
      have known : style ∈ Style.all := List.mem_of_find?_eq_some found
      have form := Style.all_isTemplate style known template among
      refine ⟨_, later, ?_, Style.phrase_of_isTemplate c.restSymbol form⟩
      simp only [styled, found, chosen]

end Composer

/-! ## Simple texts -/

namespace Shape

/-- Between two integers a range of notes goes from the one to the other. -/
theorem eq_of_noteRange {low high : Value} {a b first : Int} {width : Nat}
    (lowest : low.integer? = some a) (highest : high.integer? = some b)
    (range : noteRange low high = .ok (first, width)) : first = a ∧ first + width = b + 1 := by
  by_cases order : a ≤ b
  · rw [noteRange_eq lowest highest order] at range
    cases range
    omega
  · simp only [noteRange, Value.number_of_integer? lowest, Value.number_of_integer? highest, bind,
      Except.bind, Number.add, wholeBound] at range
    rw [if_neg (by omega)] at range
    cases range

end Shape

namespace RandomSettings

/-- Whether random settings have a length of at least one slot and at most so many, and integers that
can be written for bounds. -/
structure Moderate (given : RandomSettings) (slots : Nat) : Prop where
  length : ∃ length q, given.length.number = .ok length ∧ length.toRat? = some q ∧ 1 ≤ q ∧ q ≤ slots
  low : ∃ n, given.low.integer? = some n ∧ (Nat.toDigits 10 n.natAbs).length ≤ maxDigits
  high : ∃ n, given.high.integer? = some n ∧ (Nat.toDigits 10 n.natAbs).length ≤ maxDigits

end RandomSettings

namespace Composer

/-- The most slots of a simple text that keeps to the step limit whatever is drawn. -/
def simpleSlots : Nat := 250000

/-- Whether the settings of a simple text, with some fields replaced, are accepted and what they then
are. -/
def Accepts (fields : Fields) (given : RandomSettings) : Prop :=
  RandomSettings.schema.unknown (fields.map (·.1)) = [] ∧
    RandomSettings.schema.build
      (RandomSettings.schema.effective (simpleSettings.fields.override fields)) = .ok given

theorem simple_eq (c : Composer) {fields : Fields} {given : RandomSettings}
    (accepts : Accepts fields given) :
    c.simple fields = c.writeShape (Shape.ofSettings given) := by
  funext g
  simp only [simple, accepts.1, accepts.2, Except.bind]

/-- The shape of moderate settings is sound, with as many slots as there may be, and its notes can be
written. -/
theorem exists_shape {given : RandomSettings} {slots : Nat} (moderate : given.Moderate slots)
    (few : slots ≤ 2 ^ 52) : ∃ sh, Shape.ofSettings given = .ok sh ∧ sh.Sound ∧
      1 ≤ sh.slots.count ∧ sh.slots.count ≤ slots ∧ ∀ step, sh.Draws step → step.Short := by
  obtain ⟨length, q, number, finite, least, most⟩ := moderate.length
  obtain ⟨low, lowest, lowDigits⟩ := moderate.low
  obtain ⟨high, highest, highDigits⟩ := moderate.high
  have within : q ≤ 2 ^ 52 := most.trans (by exact_mod_cast few)
  refine ⟨_, Shape.ofSettings_eq number finite, ?_, ?_, ?_, ?_⟩
  · exact ⟨Slots.sound_of_le finite least within, fun _ _ => Shape.width_pos_of_noteRange⟩
  · have above : (1 : Rat) ≤ q.ceil := least.trans Rat.le_ceil
    have positive : 1 ≤ q.ceil := by exact_mod_cast above
    show 1 ≤ q.ceil.toNat
    omega
  · have below : q.ceil ≤ slots := Rat.ceil_le_iff.2 (by exact_mod_cast most)
    show q.ceil.toNat ≤ slots
    omega
  · intro step draws
    cases step with
    | rest => trivial
    | note n =>
        obtain ⟨first, width, range, atLeast, atMost⟩ := draws
        have bounds := Shape.eq_of_noteRange lowest highest range
        rw [length_toDigits_le_maxDigits_iff] at lowDigits highDigits
        exact length_toDigits_le_maxDigits_iff.2 (by omega)

/-- **A simple text is a phrase** that keeps to the step limit, if there is one. -/
theorem phrase_of_simple {c : Composer} {fields : Fields} {given : RandomSettings}
    (accepts : Accepts fields given) (moderate : given.Moderate simpleSlots) {g later : Twister}
    {text : Text} (drawn : c.simple fields g = (.ok text, later)) :
    Phrase c.restSymbol 0 maxSteps text := by
  obtain ⟨sh, shaped, sound, some_, few, short⟩ := exists_shape moderate (by decide)
  rw [simple_eq c accepts, shaped] at drawn
  obtain ⟨n, phrase, bound, -⟩ := phrase_of_writeShape sound some_ short drawn
  have most : maxRun * sh.slots.count ≤ maxSteps := Nat.mul_le_mul_left 4 few
  exact phrase.mono (Nat.le_trans bound most)

/-- There is one where the length is an integer and the probabilities can be added. -/
theorem simple_gives (c : Composer) {fields : Fields} {given : RandomSettings}
    (accepts : Accepts fields given) (moderate : given.Moderate simpleSlots) {n : Int} {sum : Rat}
    (integer : given.length.integer? = some n)
    (added : Shape.probabilitySum given.rest given.group = .ok sum) :
    (c.simple fields).Gives (Phrase c.restSymbol 0 maxSteps) := by
  intro g
  obtain ⟨sh, shaped, sound, some_, few, short⟩ := exists_shape moderate (by decide)
  have whole : sh.Whole := by
    obtain ⟨low, lowest, -⟩ := moderate.low
    obtain ⟨high, highest, -⟩ := moderate.high
    have order := (RandomSettings.build_eq_ok_iff.1 accepts.2).1.order lowest highest
    obtain ⟨length, q, number, finite, least, -⟩ := moderate.length
    cases number.symm.trans (Value.number_of_integer? integer)
    cases finite
    have positive : (1 : Int) ≤ n := by exact_mod_cast least
    rw [Shape.ofSettings_eq number rfl] at shaped
    cases shaped
    refine ⟨⟨n.toNat, ?_⟩, ⟨_, _, Shape.noteRange_eq lowest highest order⟩, ⟨sum, added⟩⟩
    show Slots.mk (.int n) (n : Rat).ceil.toNat = ⟨.int n.toNat, n.toNat⟩
    rw [Rat.ceil_intCast, Int.toNat_of_nonneg (by omega)]
  obtain ⟨text, later, written⟩ := writeShape_succeeds (c := c) whole sound short g
  have drawn : c.simple fields g = (.ok text, later) := by rw [simple_eq c accepts, shaped, written]
  exact ⟨text, later, drawn, phrase_of_simple accepts moderate drawn⟩

/-- Without any settings a simple text has those that the composer has for it. -/
theorem accepts_nil : Accepts [] simpleSettings :=
  ⟨by decide +kernel, RandomSettings.build_of_checks (by decide +kernel)⟩

theorem moderate_simpleSettings : simpleSettings.Moderate simpleSlots where
  length := ⟨.int 16, 16, rfl, rfl, by norm_num, by norm_num [simpleSlots]⟩
  low := ⟨1, rfl, by decide +kernel⟩
  high := ⟨99, rfl, by decide +kernel⟩

/-- A name gives a text of its style, three sections or a simple text. -/
theorem byName_gives (c : Composer) (name : Text) :
    (c.byName (.text name)).Gives (Phrase c.restSymbol 1 maxSteps) := by
  intro g
  simp only [byName]
  split
  · obtain ⟨text, later, drawn, phrase⟩ := c.styled_gives name g
    exact ⟨text, later, drawn, phrase.mono (by decide)⟩
  split
  · have positive : 1 ≤ 3 := by decide
    obtain ⟨text, later, drawn, phrase⟩ := c.complex_gives positive g
    exact ⟨text, later, drawn, phrase.mono (by decide)⟩
  · obtain ⟨text, later, drawn, phrase⟩ :=
      c.simple_gives accepts_nil moderate_simpleSettings rfl rfl g
    exact ⟨text, later, drawn, phrase.deeper (Nat.zero_le 1)⟩

end Composer

theorem Drawing.Gives.imp {drawing : Drawing} {P Q : Text → Prop} (gives : drawing.Gives P)
    (implies : ∀ text, P text → Q text) : drawing.Gives Q := by
  intro g
  obtain ⟨text, later, drawn, holds⟩ := gives g
  exact ⟨text, later, drawn, implies text holds⟩

/-- The most sections that keep to the step limit whatever is drawn. -/
def Composer.maxSections : Nat := 50000

/-- **Everything that is composed compiles cleanly.**  Under the rest symbol of the composer, with any
other settings that allow one level of brackets, whatever is drawn:

* sections of each kind, texts of any style and of any name, and up to 50000 sections are always
  given, and compile to a sequence that is not empty, without a record;
* so does every simple text with settings that are accepted, of 1 to 250000 slots and with integers
  that can be written for bounds; and there always is one where the length is an integer and the
  probabilities can be added. -/
theorem composed_compilesClean (s : CompileSettings) (deep : 1 ≤ s.depthLimit) :
    let c : Composer := ⟨s.restSymbol⟩
    c.simpleSection.Gives (CompilesClean s) ∧ c.groupedSection.Gives (CompilesClean s) ∧
    c.transformSection.Gives (CompilesClean s) ∧
    (∀ name, (c.styled (.text name)).Gives (CompilesClean s)) ∧
    (∀ name, (c.byName (.text name)).Gives (CompilesClean s)) ∧
    (∀ count : Nat, 1 ≤ count → count ≤ Composer.maxSections →
      (c.complex (.int count)).Gives (CompilesClean s)) ∧
    ∀ fields given, Composer.Accepts fields given → given.Moderate Composer.simpleSlots →
      (∀ g text later, c.simple fields g = (.ok text, later) → CompilesClean s text) ∧
      ((∃ n, given.length.integer? = some n) →
        (∃ sum, Shape.probabilitySum given.rest given.group = .ok sum) →
          (c.simple fields).Gives (CompilesClean s)) := by
  intro c
  have clean : ∀ {n : Nat} (_ : n ≤ maxSteps) (text : Text),
      Phrase s.restSymbol 1 n text → CompilesClean s text :=
    fun few _ phrase => phrase.compilesClean deep few
  have cleanSection := clean (show Composer.sectionSteps ≤ maxSteps by decide)
  refine ⟨c.simpleSection_gives.imp cleanSection, c.groupedSection_gives.imp cleanSection,
    c.transformSection_gives.imp cleanSection, fun name => ?styled, fun name => ?byName,
    fun count positive few => ?complex, fun fields given accepts moderate => ⟨?any, ?always⟩⟩
  case styled => exact (c.styled_gives name).imp (clean (by decide))
  case byName => exact (c.byName_gives name).imp (clean (Nat.le_refl _))
  case complex =>
    have most : Composer.sectionSteps * count ≤ maxSteps := Nat.mul_le_mul_left 20 few
    exact (c.complex_gives positive).imp (clean most)
  case any =>
    intro g text later drawn
    have phrase := Composer.phrase_of_simple accepts moderate drawn
    exact phrase.compilesClean (Nat.zero_le _) (Nat.le_refl _)
  case always =>
    rintro ⟨n, integer⟩ ⟨sum, added⟩
    exact (c.simple_gives accepts moderate integer added).imp fun _ phrase =>
      phrase.compilesClean (Nat.zero_le _) (Nat.le_refl _)

/-- The rest symbol may be a digit, and one level of brackets is enough: sections are given, and so
is a simple text of 12 slots from 3 on. -/
theorem composed_compilesClean_digit_rest :
    let s : CompileSettings := { depthLimit := 1, restSymbol := ['1'] }
    let c : Composer := ⟨['1']⟩
    1 ≤ s.depthLimit ∧ (c.complex (.int 3)).Gives (CompilesClean s) ∧
      (c.simple [("length".toList, .int 12), ("min_value".toList, .int 3)]).Gives
        (CompilesClean s) := by
  intro s c
  have deep : 1 ≤ s.depthLimit := Nat.le_refl 1
  obtain ⟨-, -, -, -, -, complex, simple⟩ := composed_compilesClean s deep
  have accepts : Composer.Accepts [("length".toList, .int 12), ("min_value".toList, .int 3)]
      { Composer.simpleSettings with length := .int 12, low := .int 3 } :=
    ⟨by decide +kernel, RandomSettings.build_of_checks (by decide +kernel)⟩
  refine ⟨deep, complex 3 (by decide) (by decide), (simple _ _ accepts ?_).2 ⟨12, rfl⟩ ⟨_, rfl⟩⟩
  exact {
    length := ⟨.int 12, 12, rfl, rfl, by norm_num, by norm_num [Composer.simpleSlots]⟩
    low := ⟨3, rfl, by decide +kernel⟩
    high := ⟨99, rfl, by decide +kernel⟩ }

end StepPattern
