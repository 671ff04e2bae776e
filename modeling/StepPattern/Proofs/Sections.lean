/-
# StepPattern.Proofs.Sections -- random sections are phrases

A segment is written steps, and a section is a segment, a segment in brackets with
a count, or a segment in a call.  The transforms that sections are wrapped in take
every sequence that they may double (`Token.smooth_sectionTransforms`), so all of
them are phrases of at most `sectionSteps` steps, whatever is drawn.  Sections with
a space between neighbours are a phrase of at most so many steps each.
-/
import StepPattern.Composer
import StepPattern.Proofs.Phrases
import StepPattern.Proofs.RandomSteps

namespace StepPattern

set_option autoImplicit false

open Text

/-! ## Smooth calls -/

namespace Token

/-- A call is smooth where its transform takes every sequence that it may double, and makes it no
shorter and at most twice as long. -/
theorem smooth_of_run {call : Call} {d : Definition} {param : Value}
    (found : Registry.builtin.find? call.name = some d)
    (given : Registry.parameter d call.name call.fused = .ok param)
    (runs : ∀ (s : Sequence) (g : Twister), 2 * s.length ≤ maxSteps →
      ∃ t, (d.run s param g).1 = .ok t ∧ s.length ≤ t.length ∧ t.length ≤ 2 * s.length) :
    Smooth call := by
  intro loud s g room
  obtain ⟨t, ran, noShorter, doubled⟩ := runs s g room
  constructor
  · rintro failure (absent | ⟨foundToo, lacking⟩ | ⟨foundToo, givenToo, failed⟩)
    · rw [found] at absent
      cases absent
    · cases found.symm.trans foundToo
      rw [given] at lacking
      cases lacking
    · cases found.symm.trans foundToo
      cases given.symm.trans givenToo
      rw [ran] at failed
      cases failed
  · have called : (Registry.builtin.call loud call .none s g).sequence = t := by
      have unexplained : Value.none.orElse call.fused = call.fused := rfl
      rw [Registry.call, found]
      simp only [Registry.run, unexplained, given]
      rcases result : d.run s param g with ⟨_ | _, later⟩
      · rw [result] at ran
        cases ran
      · rw [result] at ran
        cases ran
        rfl
    rw [called]
    exact ⟨noShorter, doubled⟩

/-- A call whose transform keeps the length of every sequence is smooth. -/
theorem smooth_of_length_eq {call : Call} {d : Definition} {param : Value}
    (found : Registry.builtin.find? call.name = some d)
    (given : Registry.parameter d call.name call.fused = .ok param)
    (runs : ∀ (s : Sequence) (g : Twister),
      ∃ t, (d.run s param g).1 = .ok t ∧ t.length = s.length) : Smooth call := by
  refine smooth_of_run found given fun s g _ => ?_
  obtain ⟨t, ran, same⟩ := runs s g
  exact ⟨t, ran, by omega, by omega⟩

/-- Calls of `invert`, `scale` and `offset` with a parameter are smooth. -/
theorem smooth_valuewise {name : Text} (n : Nat) {f : Int → Int → Int}
    {compute : Number → Int → Except Fault Number}
    (found : Registry.builtin.find? name = some
      (.requiring (Transform.valuewise (fun p => Transform.mapNotes (f p)) compute))) :
    Smooth ⟨name, some n⟩ :=
  smooth_of_length_eq found rfl fun s _ => ⟨_, rfl, Transform.length_mapNotes _ s⟩

theorem smooth_quantize {n : Nat} (positive : n ≠ 0) : Smooth ⟨"quantize".toList, some n⟩ := by
  refine smooth_of_length_eq rfl rfl fun s _ => ?_
  have nonzero : (n : Int) ≠ 0 := Int.natCast_ne_zero.2 positive
  have ran : Transform.quantizeBy (.int n) s = Transform.quantize n s := rfl
  rw [Transform.quantize, if_neg nonzero] at ran
  exact ⟨_, ran, Transform.length_mapNotes _ s⟩

theorem smooth_rotate (param : Option Nat) : Smooth ⟨"rotate".toList, param⟩ := by
  cases param with
  | none => exact smooth_of_length_eq rfl rfl fun s _ => ⟨_, rfl, Transform.length_rotate 1 s⟩
  | some n => exact smooth_of_length_eq rfl rfl fun s _ => ⟨_, rfl, Transform.length_rotate n s⟩

theorem smooth_reverse : Smooth ⟨"reverse".toList, none⟩ :=
  smooth_of_length_eq rfl rfl fun _ _ => ⟨_, rfl, List.length_reverse⟩

theorem smooth_scramble : Smooth ⟨"scramble".toList, none⟩ :=
  smooth_of_length_eq rfl rfl fun s g => ⟨_, rfl, (Twister.shuffle_perm g s).length_eq⟩

theorem smooth_mirror : Smooth ⟨"mirror".toList, none⟩ := by
  refine smooth_of_run rfl rfl fun s g _ => ⟨_, rfl, ?_, Transform.length_mirror_le s⟩
  rw [Transform.mirror, List.length_append]
  exact Nat.le_add_right _ _

theorem smooth_repeat_two : Smooth ⟨"repeat".toList, some 2⟩ := by
  refine smooth_of_run rfl rfl fun s g room => ?_
  have few : ¬((2 : Int) > maxCopies ∨ s.length * 2 > (maxSteps : Int)) := by
    have : (2 : Int) ≤ maxCopies := by decide
    omega
  have ran : Transform.copiesBy (.int 2) s = Transform.copies 2 s := rfl
  rw [Transform.copies, if_neg few] at ran
  have length : (s.flatMap fun v => List.replicate (2 : Int).toNat v).length = s.length * 2 := by
    simp
  exact ⟨_, ran, by omega, by omega⟩

/-- What is read before a bracket is the name of a call. -/
theorem name_of_readName {name : Text} {call : Call} (identifier : isIdentifier name = true)
    (read : readName name [] = .ok (some call)) : Grammar.Name name (some call) :=
  (readName_eq_ok_iff (.inr identifier)).1 read

/-- **The transforms of sections** are calls that are smooth. -/
theorem smooth_sectionTransforms :
    ∀ name ∈ sectionTransforms.1 :: sectionTransforms.2,
      ∃ call, Grammar.Name name.toList (some call) ∧ Smooth call := by
  simp only [sectionTransforms, List.forall_mem_cons]
  exact ⟨⟨⟨"invert".toList, some 5⟩, name_of_readName (by decide) rfl, smooth_valuewise 5 rfl⟩,
    ⟨⟨"scale".toList, some 2⟩, name_of_readName (by decide) rfl, smooth_valuewise 2 rfl⟩,
    ⟨⟨"offset".toList, some 3⟩, name_of_readName (by decide) rfl, smooth_valuewise 3 rfl⟩,
    ⟨_, name_of_readName (by decide) rfl, smooth_mirror⟩,
    ⟨_, name_of_readName (by decide) rfl, smooth_repeat_two⟩,
    ⟨_, name_of_readName (by decide) rfl, smooth_quantize (by decide)⟩,
    ⟨_, name_of_readName (by decide) rfl, smooth_reverse⟩,
    ⟨_, name_of_readName (by decide) rfl, smooth_rotate (some 1)⟩, List.forall_mem_nil _⟩

end Token

/-! ## Phrases in brackets -/

namespace Phrase

variable {restSymbol t : Text} {levels n : Nat}

/-- A phrase in brackets with a count is a phrase. -/
theorem repeated (phrase : Phrase restSymbol levels n t) {count : Nat} (positive : 1 ≤ count)
    (few : count ≤ maxCount) (small : 2 * n ≤ maxSteps) :
    Phrase restSymbol (levels + 1) (n * count) (Composer.repeated t count) := by
  have counts := Grammar.count_toDigits positive few
  have whole := phrase.bracket .none (fun _ named => nomatch named) (.count counts) small
  simpa [Composer.repeated, Composer.bracketed, Token.calledAtMost] using whole

/-- A phrase in a call that is smooth is a phrase. -/
theorem called (phrase : Phrase restSymbol levels n t) {name : Text} {call : Call}
    (named : Grammar.Name name (some call)) (smooth : Token.Smooth call)
    (small : 2 * n ≤ maxSteps) :
    Phrase restSymbol (levels + 1) (2 * n) (name ++ Composer.bracketed t) := by
  have whole := phrase.bracket named
    (fun one same => by cases same; exact smooth) .none small
  simpa [Composer.bracketed, Token.calledAtMost] using whole

end Phrase

/-! ## Texts of shapes -/

namespace Shape

variable {sh : Shape}

/-- Between bounds that can be written, every step can be. -/
theorem short_of_draws {low : Int} {width : Nat} (range : sh.notes = .ok (low, width))
    (lowest : low.natAbs < numeralBound) (highest : (low + width - 1).natAbs < numeralBound)
    {step : Step} (draws : sh.Draws step) : step.Short := by
  cases step with
  | rest => trivial
  | note n =>
      obtain ⟨least, some_, same, atLeast, atMost⟩ := draws
      cases range.symm.trans same
      exact length_toDigits_le_maxDigits_iff.2 (by omega)

end Shape

/-- Short steps can be written. -/
theorem writeSteps_eq (restSymbol : Text) {steps : List Step}
    (short : ∀ step ∈ steps, step.Short) :
    writeSteps restSymbol steps = .ok (Text.join [' '] (steps.map (Step.word restSymbol))) := by
  rw [writeSteps, wordsFrom_eq [] short]
  rfl

namespace Twister

theorem exists_between (g : Twister) (low high : Nat) (order : low ≤ high) :
    ∃ n later, g.between low high = (n, later) ∧ low ≤ n ∧ n ≤ high :=
  ⟨(g.between low high).1, (g.between low high).2, rfl, g.between_bounds order⟩

theorem exists_choose {α : Type} (g : Twister) (first : α) (others : List α) :
    ∃ item later, g.choose first others = (item, later) ∧ item ∈ first :: others := by
  refine ⟨(g.choose first others).1, (g.choose first others).2, rfl, ?_⟩
  have below := g.below_lt (Nat.succ_pos others.length)
  show (first :: others).getD (g.below (others.length + 1)).1 first ∈ first :: others
  rw [List.getD_eq_getElem?_getD, List.getElem?_eq_getElem (by simpa using below)]
  exact List.getElem_mem _

end Twister

/-- Whether a drawing always gives a text with a property. -/
def Drawing.Gives (drawing : Drawing) (P : Text → Prop) : Prop :=
  ∀ g, ∃ text later, drawing g = (.ok text, later) ∧ P text

/-- Texts drawn one after the other are put behind those there are, all of them with the property. -/
theorem Drawing.Gives.rowFrom {drawing : Drawing} {P : Text → Prop} (gives : drawing.Gives P)
    (done : List Text) (count : Nat) (g : Twister) :
    ∃ parts later, drawing.rowFrom done count g =
        (.ok (Text.join [' '] (done.reverse ++ parts)), later) ∧
      parts.length = count ∧ ∀ part ∈ parts, P part := by
  induction count generalizing done g with
  | zero =>
      refine ⟨[], g, ?_, rfl, List.forall_mem_nil _⟩
      rw [Drawing.rowFrom, List.append_nil]
  | succ count ih =>
      obtain ⟨text, next, drawn, holds⟩ := gives g
      obtain ⟨parts, later, further, length, all⟩ := ih (text :: done) next
      refine ⟨text :: parts, later, ?_, ?_, List.forall_mem_cons.2 ⟨holds, all⟩⟩
      · rw [Drawing.rowFrom, drawn]
        simp only [further, List.reverse_cons, List.append_assoc, List.singleton_append]
      · rw [List.length_cons, length]

namespace Composer

variable {c : Composer} {sh : Shape}

/-- **What is written of a shape is a phrase** of as many steps as the shape fills its slots with. -/
theorem phrase_of_writeShape (sound : sh.Sound) (some_ : 1 ≤ sh.slots.count)
    (short : ∀ step, sh.Draws step → step.Short) {g later : Twister} {text : Text}
    (written : c.writeShape (.ok sh) g = (.ok text, later)) :
    ∃ n, Phrase c.restSymbol 0 n text ∧ n ≤ maxRun * sh.slots.count ∧
      (sh.Even → n = sh.slots.count) := by
  simp only [writeShape] at written
  rcases drawn : sh.draw g with ⟨_ | steps, next⟩
  · rw [drawn] at written
    cases written
  · have filled := Shape.draw_filled sound drawn
    have allShort : ∀ step ∈ steps, step.Short := fun step member =>
      short step (filled.draws step member)
    have nonempty : steps ≠ [] :=
      List.length_pos_iff.1 (Nat.lt_of_lt_of_le some_ filled.noFewer)
    rw [drawn] at written
    simp only [Except.bind, writeSteps_eq c.restSymbol allShort] at written
    cases written
    exact ⟨steps.length, .steps nonempty allShort, filled.noMore, filled.even⟩

/-- A shape that is whole, with bounds that can be written, is written. -/
theorem writeShape_succeeds (whole : sh.Whole) (sound : sh.Sound)
    (short : ∀ step, sh.Draws step → step.Short) (g : Twister) :
    ∃ text later, c.writeShape (.ok sh) g = (.ok text, later) := by
  obtain ⟨steps, later, drawn⟩ := Shape.draw_succeeds whole g
  have filled := Shape.draw_filled sound drawn
  have written := writeSteps_eq c.restSymbol fun step member =>
    short step (filled.draws step member)
  simp only [writeShape, drawn, Except.bind, written]
  exact ⟨_, _, rfl⟩

/-! ## Segments and sections -/

def sectionSteps : Nat := 20

/-- A segment is a phrase of as many steps as it is long, where nothing is added to the probability
of a rest by that of a group, which is zero. -/
theorem segment_gives (c : Composer) {length : Nat} (positive : 1 ≤ length) {restChance : Value}
    (repeatChance : Value)
    (sum : Shape.probabilitySum restChance (.double (.finite 0)) =
      .ok (Shape.probability restChance)) :
    (c.segment length restChance repeatChance).Gives (Phrase c.restSymbol 0 length) := by
  intro g
  have slots : ((length : Int) : Rat).ceil.toNat = length := by
    rw [Rat.ceil_intCast, Int.toNat_natCast]
  have number : (Value.int length).number = .ok (.int length) := rfl
  have shaped := Shape.ofSettings_eq (s := { RandomSettings.default with
    length := .int length
    rest := restChance
    group := .double (.finite 0)
    repetition := repeatChance }) number rfl
  rw [slots, sum] at shaped
  generalize built : (Shape.mk _ _ _ _ _) = sh at shaped
  have sameSlots : sh.slots = ⟨.int length, length⟩ := by rw [← built]
  have range : sh.notes = .ok (1, 99) := by
    rw [← built]
    rfl
  have sameSum : sh.restOrGroup = .ok sh.rest := by rw [← built]
  have sound : sh.Sound := by
    refine ⟨sameSlots ▸ Slots.sound_natCast length, fun low width bounds => ?_⟩
    rw [range] at bounds
    cases bounds
    decide
  have short : ∀ step, sh.Draws step → step.Short := fun step draws =>
    Shape.short_of_draws range (by decide +kernel) (by decide +kernel) draws
  have whole : sh.Whole := ⟨⟨length, sameSlots⟩, ⟨1, 99, range⟩, ⟨_, sameSum⟩⟩
  have even : sh.Even := .inr fun limit same => by
    rw [sameSum] at same
    exact le_of_eq (Except.ok.inj same).symm
  have count : sh.slots.count = length := by rw [sameSlots]
  obtain ⟨text, later, written⟩ := writeShape_succeeds (c := c) whole sound short g
  obtain ⟨n, phrase, -, same⟩ := phrase_of_writeShape sound (by omega) short written
  refine ⟨text, later, ?_, by rwa [same even, count] at phrase⟩
  rw [segment, shaped]
  exact written

/-- What always gives phrases gives phrases as a repeated group. -/
theorem asGroup_gives {drawing : Drawing} {restSymbol : Text} {n : Nat}
    (gives : drawing.Gives (Phrase restSymbol 0 n)) (small : 2 * n ≤ maxSteps) :
    (asGroup drawing).Gives (Phrase restSymbol 1 (n * 4)) := by
  intro g
  obtain ⟨text, next, drawn, phrase⟩ := gives g
  have order : 2 ≤ 4 := by decide
  have count := next.between_bounds order
  have positive : 1 ≤ (next.between 2 4).1 := by omega
  have whole := phrase.repeated positive (Nat.le_trans count.2 (by decide)) small
  refine ⟨_, (next.between 2 4).2, ?_, whole.mono (Nat.mul_le_mul_left n count.2)⟩
  simp only [asGroup, drawn]

/-- What always gives phrases gives phrases inside a transform that is smooth. -/
theorem asCall_gives {drawing : Drawing} {restSymbol name : Text} {n : Nat} {call : Call}
    (gives : drawing.Gives (Phrase restSymbol 0 n)) (named : Grammar.Name name (some call))
    (smooth : Token.Smooth call) (small : 2 * n ≤ maxSteps) :
    (asCall name drawing).Gives (Phrase restSymbol 1 (2 * n)) := by
  intro g
  obtain ⟨text, next, drawn, phrase⟩ := gives g
  refine ⟨_, next, ?_, phrase.called named smooth small⟩
  simp only [asCall, drawn]

theorem probabilitySum_two :
    Shape.probabilitySum (RandomSettings.tenths 2) (.double (.finite 0)) =
      .ok (Shape.probability (RandomSettings.tenths 2)) := by
  decide +kernel

theorem probabilitySum_three :
    Shape.probabilitySum (RandomSettings.tenths 3) (.double (.finite 0)) =
      .ok (Shape.probability (RandomSettings.tenths 3)) := by
  decide +kernel

theorem simpleSection_gives (c : Composer) :
    c.simpleSection.Gives (Phrase c.restSymbol 1 sectionSteps) := by
  intro g
  obtain ⟨length, start, chosen, least, most⟩ := g.exists_between 2 5 (by decide)
  have positive : 1 ≤ length := by omega
  obtain ⟨text, next, drawn, phrase⟩ :=
    c.segment_gives positive (RandomSettings.tenths 4) probabilitySum_three start
  unfold simpleSection
  rw [chosen]
  simp only [drawn]
  split
  · have plain : Drawing.Gives (fun g => (.ok text, g)) (Phrase c.restSymbol 0 5) :=
      fun g => ⟨text, g, rfl, phrase.mono most⟩
    exact asGroup_gives plain (by decide) _
  · have short : length ≤ sectionSteps := Nat.le_trans most (show 5 ≤ 20 by decide)
    exact ⟨text, _, rfl, (phrase.deeper (Nat.zero_le 1)).mono short⟩

theorem groupedSection_gives (c : Composer) :
    c.groupedSection.Gives (Phrase c.restSymbol 1 sectionSteps) := by
  intro g
  obtain ⟨length, start, chosen, least, most⟩ := g.exists_between 2 4 (by decide)
  have positive : 1 ≤ length := by omega
  have segment := c.segment_gives positive (RandomSettings.tenths 2) probabilitySum_two
  have small : 2 * length ≤ maxSteps := Nat.le_trans (Nat.mul_le_mul_left 2 most) (by decide)
  obtain ⟨text, later, drawn, phrase⟩ := asGroup_gives segment small start
  have few : length * 4 ≤ sectionSteps :=
    Nat.le_trans (Nat.mul_le_mul_right 4 most) (show 4 * 4 ≤ 20 by decide)
  unfold groupedSection
  rw [chosen]
  simp only [drawn]
  exact ⟨text, later, rfl, phrase.mono few⟩

theorem transformSection_gives (c : Composer) :
    c.transformSection.Gives (Phrase c.restSymbol 1 sectionSteps) := by
  intro g
  obtain ⟨transform, next, picked, among⟩ :=
    g.exists_choose sectionTransforms.1 sectionTransforms.2
  obtain ⟨call, named, smooth⟩ := Token.smooth_sectionTransforms _ among
  obtain ⟨length, start, chosen, least, most⟩ := next.exists_between 3 6 (by decide)
  have positive : 1 ≤ length := by omega
  have segment := c.segment_gives positive (RandomSettings.tenths 2) probabilitySum_two
  have small : 2 * length ≤ maxSteps := Nat.le_trans (Nat.mul_le_mul_left 2 most) (by decide)
  obtain ⟨text, later, drawn, phrase⟩ := asCall_gives segment named smooth small start
  have few : 2 * length ≤ sectionSteps :=
    Nat.le_trans (Nat.mul_le_mul_left 2 most) (show 2 * 6 ≤ 20 by decide)
  refine ⟨text, later, ?_, phrase.mono few⟩
  unfold transformSection
  rw [picked]
  dsimp only
  rw [chosen]
  exact drawn

end Composer

/-! ## A choice of sections -/

namespace Weighted

variable {α β : Type}

/-- With doubles for weights, the running sum comes to one of the items. -/
theorem exists_reaching {items : Weighted α} (doubles : ∀ item ∈ items, ∃ d, item.2 = .double d)
    (threshold sum : Double) (last : α) :
    ∃ item ∈ last :: items.map (·.1), reaching threshold last sum items = .ok item := by
  induction items generalizing sum with
  | nil => exact ⟨last, List.mem_singleton_self last, rfl⟩
  | cons first items ih =>
      obtain ⟨item, weight⟩ := first
      obtain ⟨d, rfl⟩ := doubles _ List.mem_cons_self
      obtain ⟨further, among, reached⟩ :=
        ih (fun other member => doubles other (List.mem_cons_of_mem _ member)) (Double.add sum d)
      have next : reaching threshold last sum ((item, .double d) :: items) =
          if threshold.le (Double.add sum d) then .ok item
          else reaching threshold last (Double.add sum d) items := rfl
      rw [next, List.map_cons]
      split
      · exact ⟨item, List.mem_cons_of_mem last List.mem_cons_self, rfl⟩
      · refine ⟨further, ?_, reached⟩
        rcases List.mem_cons.1 among with rfl | among
        · exact List.mem_cons_self
        · exact List.mem_cons_of_mem last (List.mem_cons_of_mem item among)

/-- With doubles for weights and a positive total, one of the items is chosen. -/
theorem exists_choose {items : Weighted α} (nonempty : items ≠ [])
    (doubles : ∀ item ∈ items, ∃ d, item.2 = .double d) {total : Double}
    (totals : items.total = .ok (.double total))
    (positive : (Number.double total).le (.int 0) = .ok false) (g : Twister) :
    ∃ item later, items.choose g = (.ok item, later) ∧ item ∈ items.map (·.1) := by
  have lastly := List.getLast?_eq_some_getLast nonempty
  obtain ⟨item, among, reached⟩ := exists_reaching doubles
    (Double.mul (.finite g.fraction.1) total) (.finite 0) (items.getLast nonempty).1
  refine ⟨item, g.fraction.2, ?_, ?_⟩
  · simp only [choose, lastly, totals, positive]
    rw [← reached]
    rfl
  · rcases List.mem_cons.1 among with rfl | among
    · exact List.mem_map_of_mem (List.getLast_mem nonempty)
    · exact among

def mapItems (f : α → β) (items : Weighted α) : Weighted β :=
  items.map fun item => (f item.1, item.2)

theorem total_mapItems (f : α → β) (items : Weighted α) :
    (items.mapItems f).total = items.total := by
  rw [total, total, mapItems, List.foldlM_map]

theorem reaching_mapItems (f : α → β) (threshold : Double) (last : α) (sum : Double)
    (items : Weighted α) :
    reaching threshold (f last) sum (items.mapItems f) =
      (reaching threshold last sum items).map f := by
  induction items generalizing sum with
  | nil => rfl
  | cons item items ih =>
      obtain ⟨item, weight⟩ := item
      show reaching threshold (f last) sum ((f item, weight) :: mapItems f items) = _
      cases number : weight.number with
      | error fault => simp only [reaching, number, bind, Except.bind, Except.map]
      | ok n =>
          cases double : n.toDouble with
          | error fault => simp only [reaching, number, double, bind, Except.bind, Except.map]
          | ok d =>
              simp only [reaching, number, double, bind, Except.bind]
              split
              · rfl
              · exact ih _

theorem pick_mapItems (f : α → β) (items : Weighted α) (total : Number) (fraction : Rat)
    (last : α) :
    (items.mapItems f).pick total fraction (f last) = (items.pick total fraction last).map f := by
  rw [pick, pick]
  cases total.portion fraction with
  | error fault => rfl
  | ok threshold => exact reaching_mapItems f threshold last _ items

/-- **What is chosen depends on the weights only.** -/
theorem choose_mapItems (f : α → β) (items : Weighted α) (g : Twister) :
    (items.mapItems f).choose g = ((items.choose g).1.map f, (items.choose g).2) := by
  have lastly : (items.mapItems f).getLast? = items.getLast?.map fun item => (f item.1, item.2) :=
    List.getLast?_map
  rw [choose, choose, lastly, total_mapItems]
  cases items.getLast? with
  | none => rfl
  | some last =>
      simp only [Option.map_some]
      cases items.total with
      | error fault => rfl
      | ok total =>
          simp only
          cases total.le (.int 0) with
          | error fault => rfl
          | ok nothing =>
              cases nothing with
              | true => rfl
              | false => simp only [pick_mapItems]

end Weighted

namespace Composer

def kinds : Weighted (Composer → Drawing) :=
  [(simpleSection, RandomSettings.tenths 3), (groupedSection, RandomSettings.tenths 3),
    (transformSection, RandomSettings.tenths 4)]

theorem sections_eq (c : Composer) : c.sections = kinds.mapItems fun kind => kind c := rfl

/-- The weights of the kinds of sections have a positive sum. -/
theorem total_kinds :
    ∃ total, kinds.total = .ok (.double total) ∧
      (Number.double total).le (.int 0) = .ok false := by
  refine ⟨Double.add (Double.add (Double.add (.finite 0) (Double.round (3 / 10)))
    (Double.round (3 / 10))) (Double.round (4 / 10)), rfl, ?_⟩
  decide +kernel

/-- A kind of section is chosen, whatever the composer is. -/
theorem exists_kind (g : Twister) :
    ∃ kind next, kind ∈ kinds.map (·.1) ∧
      ∀ c : Composer, c.sections.choose g = (.ok (kind c), next) := by
  obtain ⟨total, totals, positive⟩ := total_kinds
  have doubles : ∀ item ∈ kinds, ∃ d, item.2 = .double d := by
    simp only [kinds, List.forall_mem_cons]
    exact ⟨⟨_, rfl⟩, ⟨_, rfl⟩, ⟨_, rfl⟩, List.forall_mem_nil _⟩
  have nonempty : kinds ≠ [] := List.cons_ne_nil _ _
  obtain ⟨kind, next, chosen, among⟩ :=
    Weighted.exists_choose nonempty doubles totals positive g
  refine ⟨kind, next, among, fun c => ?_⟩
  rw [sections_eq, Weighted.choose_mapItems, chosen]
  rfl

/-- **A section of any kind is a phrase.** -/
theorem anySection_gives (c : Composer) :
    c.anySection.Gives (Phrase c.restSymbol 1 sectionSteps) := by
  intro g
  obtain ⟨kind, next, among, chosen⟩ := exists_kind g
  have each : ∀ kind ∈ kinds.map (·.1),
      Drawing.Gives (kind c) (Phrase c.restSymbol 1 sectionSteps) := by
    simp only [kinds, List.map_cons, List.map_nil, List.forall_mem_cons]
    exact ⟨c.simpleSection_gives, c.groupedSection_gives, c.transformSection_gives,
      List.forall_mem_nil _⟩
  obtain ⟨text, later, drawn, phrase⟩ := each kind among next
  refine ⟨text, later, ?_, phrase⟩
  rw [anySection, chosen c]
  exact drawn

/-- **Sections with a space between neighbours are a phrase.** -/
theorem complex_gives (c : Composer) {count : Nat} (positive : 1 ≤ count) :
    (c.complex (.int count)).Gives (Phrase c.restSymbol 1 (sectionSteps * count)) := by
  intro g
  obtain ⟨parts, later, drawn, length, phrases⟩ := c.anySection_gives.rowFrom [] count g
  have nonempty : parts ≠ [] := List.length_pos_iff.1 (by omega)
  have phrase := Phrase.join nonempty phrases
  rw [length] at phrase
  exact ⟨_, later, drawn, phrase⟩

end Composer

end StepPattern
