/-
# StepPattern.Proofs.RandomBounds -- a random sequence keeps its bounds

The loop over the slots counts an index upward by what each slot fills, and nothing
but the draws themselves keeps it from passing the length (`Shape.Loop`).  It ends
exactly there (`Shape.loop_of_fill`), with at least as many and at most four times as
many steps as there are slots, whatever is drawn (`randomSteps_bounds`).

A probability of zero is added to another one in the arithmetic of doubles, which may
round the sum up.  As no random fraction lies between a number and what it is rounded
to, a group with the probability zero is never drawn all the same, and the length is
exact.
-/
import StepPattern.Proofs.Compositions
import StepPattern.Proofs.ExactNumbers

namespace StepPattern

set_option autoImplicit false

open Twister

/-! ## Probabilities and their sums -/

/-- Whether a value is a probability that can be added to others, and which one: an integer, a
fraction or a double from 0 to 1. -/
def Value.IsProbability (v : Value) (q : Rat) : Prop :=
  ∃ n, v.number? = some n ∧ n.isDecimal = false ∧ n.toRat? = some q ∧ 0 ≤ q ∧ q ≤ 1

theorem Value.IsProbability.inUnit {v : Value} {q : Rat} (chance : v.IsProbability q) :
    v.InUnit := by
  obtain ⟨n, number, -, finite, least, most⟩ := chance
  have zero : (Number.int 0).toRat? = some 0 := rfl
  have one : (Number.int 1).toRat? = some 1 := rfl
  refine ⟨n, number, ?_, ?_⟩
  · rw [Number.le_eq zero finite, decide_eq_true least]
  · rw [Number.le_eq finite one, decide_eq_true most]

namespace Double

/-- A number from 0 to 1 has a nearest double. -/
theorem round?_of_le_one {q : Rat} (nonnegative : 0 ≤ q) (most : q ≤ 1) :
    ∃ d, round? q = some d ∧ d.toRat? = some (nearest q) := by
  have small : nearest q ≤ 1 := by
    rw [← nearest_one]
    exact nearest_mono nonnegative most
  have fits : ¬overflowBound ≤ nearest q :=
    not_le.2 (small.trans_lt ((one_lt_pow₀ one_lt_two (by decide)).trans lt_overflowBound))
  rw [round?, round_of_nonneg nonnegative, if_neg fits]
  exact ⟨_, rfl, rfl⟩

end Double

namespace Number

/-- A probability as a double is itself or its nearest one. -/
theorem exists_toDouble {n : Number} {q : Rat} (kind : n.isDecimal = false)
    (finite : n.toRat? = some q) (nonnegative : 0 ≤ q) (most : q ≤ 1) :
    ∃ d r, n.toDouble = .ok d ∧ d.toRat? = some r ∧ (r = q ∨ r = Double.nearest q) := by
  obtain exactly | ⟨d, rfl⟩ := isExact_or_double kind finite
  · obtain ⟨d, fits, value⟩ := Double.round?_of_le_one nonnegative most
    exact ⟨d, _, by rw [exactly.toDouble_eq, doubleOf, fits], value, .inr rfl⟩
  · exact ⟨d, q, rfl, finite, .inl rfl⟩

end Number

namespace Shape

variable {a b : Value} {p q : Rat}

theorem probability_eq (chance : a.IsProbability p) : probability a = p := by
  obtain ⟨n, number, -, finite, -, -⟩ := chance
  simp only [probability, number, Option.bind_some, finite, Option.getD_some]

/-- Probabilities can be added, and a zero adds nothing that a random fraction could come upon. -/
theorem exists_probabilitySum (one : a.IsProbability p) (other : b.IsProbability q) :
    ∃ limit, probabilitySum a b = .ok limit ∧ (q = 0 → NoneBetween p limit) := by
  obtain ⟨m, first, mKind, mFinite, mLeast, mMost⟩ := one
  obtain ⟨n, second, nKind, nFinite, nLeast, nMost⟩ := other
  have summed : probabilitySum a b = (m.add n).map fun sum => sum.toRat?.getD 0 := by
    simp only [probabilitySum, Value.number, first, second]
    rfl
  rw [summed]
  rcases Number.add_cases mKind nKind mFinite nFinite with ⟨first, second⟩ | asDoubles
  · obtain ⟨sum, added, exactly⟩ := first.add second
    rw [added]
    refine ⟨_, rfl, ?_⟩
    rintro rfl
    simp only [exactly.toRat?_eq, add_zero, Option.getD_some]
    exact .refl mLeast
  · obtain ⟨d, r, toD, dFinite, near⟩ := Number.exists_toDouble mKind mFinite mLeast mMost
    obtain ⟨e, s, toE, eFinite, exact_⟩ := Number.exists_toDouble nKind nFinite nLeast nMost
    rw [asDoubles, toD, toE]
    refine ⟨_, rfl, ?_⟩
    rintro rfl
    have nothing : s = 0 := by simpa [Double.nearest_zero] using exact_
    have none : NoneBetween p r := by
      rcases near with rfl | rfl
      · exact .refl mLeast
      · exact (NoneBetween.refl mLeast).nearest
    exact none.sum dFinite (eFinite.trans (congrArg some nothing))

end Shape

/-! ## The loop over the slots -/

namespace Shape

variable {sh : Shape} {g later : Twister} {length : Nat}

/-- `sh.Loop length index g pieces last later`: at `index` of so many slots and with the source `g`,
the loop writes these pieces, one at each turn, and ends with its index at `last` and the source
`later`.  A turn moves the index by what its slot fills, be that beyond the length. -/
inductive Loop (sh : Shape) (length : Nat) :
    Nat → Twister → List (List Step) → Nat → Twister → Prop
  | done {index : Nat} {g : Twister} : length ≤ index → Loop sh length index g [] index g
  | turn {index filled last : Nat} {g next later : Twister} {piece : List Step}
      {pieces : List (List Step)} : index < length →
      sh.drawSlot (length - index) g = (.ok (piece, filled), next) →
      Loop sh length (index + filled) next pieces last later →
      Loop sh length index g (piece :: pieces) last later

/-- The loop runs in one way. -/
theorem Loop.unique {index last other : Nat} {pieces others : List (List Step)}
    {source : Twister} (loop : sh.Loop length index g pieces last later)
    (again : sh.Loop length index g others other source) :
    others = pieces ∧ other = last ∧ source = later := by
  induction loop generalizing others with
  | done ended =>
      cases again with
      | done _ => exact ⟨rfl, rfl, rfl⟩
      | turn inside _ _ => omega
  | turn inside slot _ ih =>
      cases again with
      | done ended => omega
      | turn _ same further =>
          rw [slot] at same
          cases same
          obtain ⟨rfl, rfl, rfl⟩ := ih further
          exact ⟨rfl, rfl, rfl⟩

/-- **The loop ends with its index at the last slot**: what each slot fills is left. -/
theorem loop_of_fill (sound : sh.Sound) {done : Array Step} {left : Nat} {steps : List Step}
    (within : left ≤ sh.slots.count) (drawn : sh.fill done left g = (.ok steps, later)) :
    ∃ pieces, steps = done.toList ++ pieces.flatten ∧
      sh.Loop sh.slots.count (sh.slots.count - left) g pieces sh.slots.count later := by
  fun_induction fill sh done left g with
  | case1 done g =>
      cases drawn
      exact ⟨[], (List.append_nil _).symm, .done le_rfl⟩
  | case2 done left g some_ fault next failed => cases drawn
  | case3 done left g some_ piece filled next slot ih =>
      obtain ⟨positive, short, -⟩ := drawSlot_filled sound (Nat.pos_of_ne_zero some_) within slot
      obtain ⟨pieces, rfl, loop⟩ := ih (by omega) drawn
      have turned : sh.slots.count - (left - max 1 filled) = sh.slots.count - left + filled := by
        omega
      rw [turned] at loop
      rw [← Nat.sub_sub_self within] at slot
      exact ⟨piece :: pieces, by simp, .turn (by omega) slot loop⟩

/-! ## Without groups -/

/-- A shape whose slots never start a group. -/
def ungrouped (sh : Shape) : Shape :=
  { sh with restOrGroup := .ok sh.rest }

theorem even_ungrouped (sh : Shape) : sh.ungrouped.Even := by
  refine .inr fun limit sum => ?_
  cases sum
  exact le_rfl

/-- Where no random fraction lies between the two probabilities, no slot starts a group. -/
theorem drawSlot_ungrouped {limit : Rat} (sum : sh.restOrGroup = .ok limit)
    (none : NoneBetween sh.rest limit) (left : Nat) (g : Twister) :
    sh.ungrouped.drawSlot left g = sh.drawSlot left g := by
  unfold drawSlot
  simp only [sum]
  by_cases resting : isBelow g.numerator.1 sh.rest = true
  · rw [if_pos resting, if_pos (show isBelow g.numerator.1 sh.ungrouped.rest = true from resting)]
  · have singing : ¬isBelow g.numerator.1 limit = true := by
      rw [isBelow_iff] at resting ⊢
      exact fun below => resting (none.lt _ g.numerator_lt below)
    rw [if_neg resting, if_neg singing]
    show (if isBelow g.numerator.1 sh.rest = true then _ else
      if isBelow g.numerator.1 sh.rest = true then _ else _) = _
    rw [if_neg resting, if_neg resting]
    rfl

/-- Shapes that draw the same for each slot fill their slots alike. -/
theorem fill_congr {other : Shape} (alike : ∀ left g, other.drawSlot left g = sh.drawSlot left g)
    (done : Array Step) (left : Nat) (g : Twister) :
    other.fill done left g = sh.fill done left g := by
  fun_induction fill sh done left g with
  | case1 done g => rw [fill, if_pos rfl]
  | case2 done left g some_ fault next failed => rw [fill, if_neg some_, alike, failed]
  | case3 done left g some_ piece filled next slot ih =>
      rw [fill, if_neg some_, alike, slot]
      exact ih

/-! ## Without rests -/

theorem rest_ne_of_drawNote {step : Step} (drawn : sh.drawNote g = (.ok step, later)) :
    .rest ≠ step := by
  unfold drawNote at drawn
  split at drawn
  · cases drawn
  · cases drawn
    exact Step.noConfusion

theorem rest_ne_of_drawStep (restless : sh.rest ≤ 0) {step : Step}
    (drawn : sh.drawStep g = (.ok step, later)) : .rest ≠ step := by
  simp only [drawStep, isBelow_nonpos restless] at drawn
  exact rest_ne_of_drawNote drawn

theorem rest_notMem_of_drawSteps (restless : sh.rest ≤ 0) {count : Nat} {steps : List Step}
    (drawn : sh.drawSteps count g = (.ok steps, later)) : .rest ∉ steps := by
  induction count generalizing g steps with
  | zero =>
      cases drawn
      exact List.not_mem_nil
  | succ count ih =>
      rw [drawSteps] at drawn
      split at drawn
      · cases drawn
      · rename_i step next first
        rcases tail : sh.drawSteps count next with ⟨_ | others, after⟩
        · rw [tail] at drawn
          cases drawn
        · rw [tail] at drawn
          cases drawn
          exact List.mem_cons.not.2 (not_or.2 ⟨rest_ne_of_drawStep restless first, ih tail⟩)

theorem rest_notMem_of_drawNoteRun {left filled : Nat} {piece : List Step}
    (drawn : sh.drawNoteRun left g = (.ok (piece, filled), later)) : .rest ∉ piece := by
  unfold drawNoteRun at drawn
  split at drawn
  · cases drawn
  · rename_i note next first
    have sounding := rest_ne_of_drawNote first
    have copies : ∀ count, .rest ∉ List.replicate count note := fun count member =>
      sounding (List.eq_of_mem_replicate member)
    simp only at drawn
    split at drawn
    · cases done : sh.slots.cut left (drawRun next.numerator.2).1 with
      | error fault =>
          rw [done] at drawn
          cases drawn
      | ok cut =>
          rw [done] at drawn
          cases drawn
          exact copies _
    · cases drawn
      exact copies 1

theorem rest_notMem_of_drawGroup (restless : sh.rest ≤ 0) {filled : Nat} {piece : List Step}
    (drawn : sh.drawGroup g = (.ok (piece, filled), later)) : .rest ∉ piece := by
  unfold drawGroup at drawn
  simp only at drawn
  split at drawn
  · cases drawn
  · rename_i group next tail
    cases drawn
    intro member
    obtain ⟨copy, among, inside⟩ := List.mem_flatten.1 member
    rw [List.eq_of_mem_replicate among] at inside
    exact rest_notMem_of_drawSteps restless tail inside

theorem rest_notMem_of_drawSlot (restless : sh.rest ≤ 0) {left filled : Nat} {piece : List Step}
    (drawn : sh.drawSlot left g = (.ok (piece, filled), later)) : .rest ∉ piece := by
  simp only [drawSlot, isBelow_nonpos restless] at drawn
  rw [if_neg Bool.false_ne_true] at drawn
  split at drawn
  · cases drawn
  split at drawn
  · split at drawn
    · cases drawn
    · exact rest_notMem_of_drawGroup restless drawn
    · rcases note : sh.drawNote g.numerator.2 with ⟨_ | step, next⟩
      · rw [note] at drawn
        cases drawn
      · rw [note] at drawn
        cases drawn
        exact List.mem_singleton.not.2 (rest_ne_of_drawNote note)
  · exact rest_notMem_of_drawNoteRun drawn

/-- **A loop that cannot draw a rest writes none.** -/
theorem Loop.rest_notMem (restless : sh.rest ≤ 0) {index last : Nat} {pieces : List (List Step)}
    (loop : sh.Loop length index g pieces last later) : .rest ∉ pieces.flatten := by
  induction loop with
  | done _ => exact List.not_mem_nil
  | turn _ slot _ ih =>
      rw [List.flatten_cons, List.mem_append, not_or]
      exact ⟨rest_notMem_of_drawSlot restless slot, ih⟩

/-- **A loop that cannot draw anything else writes a rest for each slot.** -/
theorem Loop.all_rests (restful : 1 ≤ sh.rest) {index last : Nat} {pieces : List (List Step)}
    (loop : sh.Loop length index g pieces last later) :
    pieces.flatten = List.replicate (length - index) .rest := by
  induction loop with
  | done ended =>
      rw [Nat.sub_eq_zero_of_le ended]
      rfl
  | @turn index filled last g next later piece pieces inside slot _ ih =>
      have resting : isBelow g.numerator.1 sh.rest = true :=
        (isBelow_iff _ _).2 ((fraction_lt_one g.numerator_lt).trans_le restful)
      simp only [drawSlot, resting] at slot
      cases slot
      rw [List.flatten_cons, ih, show length - index = length - (index + 1) + 1 by omega,
        List.replicate_succ]
      rfl

end Shape

/-! ## Settings -/

/-- Whether random settings are an integer length, two integers in order for bounds, and three
probabilities, and which ones. -/
structure RandomSettings.Regular (s : RandomSettings) (length : Nat) (low high : Int)
    (rest group repetition : Rat) : Prop where
  lengthIs : s.length.integer? = some (length : Int)
  lowIs : s.low.integer? = some low
  highIs : s.high.integer? = some high
  order : low ≤ high
  restIs : s.rest.IsProbability rest
  groupIs : s.group.IsProbability group
  repetitionIs : s.repetition.IsProbability repetition

namespace RandomSettings

variable {s : RandomSettings} {length : Nat} {low high : Int} {rest group repetition : Rat}

theorem Regular.valid (regular : s.Regular length low high rest group repetition) : s.Valid where
  length := by
    refine ⟨_, Value.number_eq_ok_iff.1 (Value.number_of_integer? regular.lengthIs), ?_⟩
    rw [Number.lt_int, decide_eq_false (Int.natCast_nonneg length).not_gt]
  bounds := by
    rw [before_eq regular.highIs regular.lowIs, decide_eq_false regular.order.not_gt]
  rest := regular.restIs.inUnit
  group := regular.groupIs.inUnit
  repetition := regular.repetitionIs.inUnit

/-- Regular settings are accepted as they are. -/
theorem Regular.accepted (regular : s.Regular length low high rest group repetition) :
    schema.ofFields s.fields = .ok s := by
  have names : s.fields.map (·.1) = default.fields.map (·.1) := rfl
  have known : schema.unknown (default.fields.map (·.1)) = [] := by decide +kernel
  rw [Schema.ofFields, names, known]
  exact build_eq_ok_iff.2 ⟨regular.valid, eq_ofValues_iff.1 rfl⟩

/-- The shape of regular settings. -/
theorem Regular.exists_shape (regular : s.Regular length low high rest group repetition) :
    ∃ sh limit, Shape.ofSettings s = .ok sh ∧ sh.slots = ⟨.int length, length⟩ ∧
      sh.notes = .ok (low, (high + 1 - low).toNat) ∧ sh.rest = rest ∧
      sh.repetition = repetition ∧ sh.restOrGroup = .ok limit ∧
      (group = 0 → NoneBetween rest limit) := by
  obtain ⟨limit, sum, none⟩ := Shape.exists_probabilitySum regular.restIs regular.groupIs
  refine ⟨_, limit, Shape.ofSettings_eq (Value.number_of_integer? regular.lengthIs) rfl, ?_,
    Shape.noteRange_eq regular.lowIs regular.highIs regular.order, Shape.probability_eq regular.restIs,
    Shape.probability_eq regular.repetitionIs, sum, none⟩
  show Slots.mk _ ((length : Int) : Rat).ceil.toNat = _
  rw [Rat.ceil_intCast, Int.toNat_natCast]

end RandomSettings

/-- **A random sequence keeps its bounds.**  Settings with an integer length, integers in order for
bounds and three probabilities are accepted, and with every source they give a sequence:

* the loop over the slots runs in one way and ends with its index at the length;
* there are at least as many steps as the length says, and at most four times as many;
* every note lies within the bounds;
* without groups or without repetitions there are exactly as many steps as the length says;
* without a probability of rests there is none, and if it is 1 there is nothing else. -/
theorem randomSteps_bounds {s : RandomSettings} {length : Nat} {low high : Int}
    {rest group repetition : Rat} (regular : s.Regular length low high rest group repetition) :
    RandomSettings.schema.ofFields s.fields = .ok s ∧
    ∃ sh, Shape.ofSettings s = .ok sh ∧
      ∀ (host : Host) (given : Given RandomSettings) (g : Twister),
        given.randomSettings host = .ok s →
        ∃ (pieces : List (List Step)) (later : Twister),
          randomSteps given (some g) host = (.ok pieces.flatten, some later) ∧
          (∀ turns last source, sh.Loop length 0 g turns last source ↔
            turns = pieces ∧ last = length ∧ source = later) ∧
          length ≤ pieces.flatten.length ∧ pieces.flatten.length ≤ 4 * length ∧
          (∀ n, .note n ∈ pieces.flatten → low ≤ n ∧ n ≤ high) ∧
          (group = 0 ∨ repetition = 0 → pieces.flatten.length = length) ∧
          (rest = 0 → .rest ∉ pieces.flatten) ∧
          (rest = 1 → pieces.flatten = List.replicate length .rest) := by
  refine ⟨regular.accepted, ?_⟩
  obtain ⟨sh, limit, shaped, slots, notes, rests, repetitions, sum, none⟩ := regular.exists_shape
  have count : sh.slots.count = length := by rw [slots]
  have sound : sh.Sound := by
    refine ⟨by rw [slots]; exact Slots.sound_natCast length, fun first width range => ?_⟩
    rw [notes] at range
    cases range
    have := regular.order
    omega
  have whole : sh.Whole := ⟨⟨length, slots⟩, ⟨_, _, notes⟩, ⟨limit, sum⟩⟩
  refine ⟨sh, shaped, fun host given g handed => ?_⟩
  obtain ⟨steps, later, drawn⟩ := Shape.draw_succeeds whole g
  obtain ⟨pieces, rfl, loop⟩ := Shape.loop_of_fill sound le_rfl (Shape.fill_of_draw drawn)
  rw [count, Nat.sub_self] at loop
  have filled := Shape.draw_filled sound drawn
  rw [count] at filled
  refine ⟨pieces, later, ?_, fun turns last source => ⟨loop.unique, ?_⟩, filled.noFewer, filled.noMore,
    fun n member => ?_, ?_, ?_, ?_⟩
  · simp only [randomSteps, handed, shaped, drawn]
    rfl
  · rintro ⟨rfl, rfl, rfl⟩
    exact loop
  · obtain ⟨first, width, range, atLeast, atMost⟩ := filled.draws _ member
    rw [notes] at range
    cases range
    omega
  · rintro (rfl | rfl)
    · rw [← rests] at none
      have same : sh.ungrouped.fill #[] length g = sh.fill #[] length g :=
        Shape.fill_congr (Shape.drawSlot_ungrouped sum (none rfl)) _ _ _
      have alike : sh.ungrouped.Sound := ⟨sound.slots, sound.notes⟩
      have filled := Shape.fill_of_draw drawn
      rw [count, ← same] at filled
      obtain ⟨more, steps, exactly⟩ := Shape.fill_filled alike count.ge filled
      rw [List.nil_append] at steps
      rw [steps]
      exact exactly.even sh.even_ungrouped
    · exact filled.even (.inl repetitions.le)
  · rintro rfl
    exact loop.rest_notMem rests.le
  · rintro rfl
    exact loop.all_rests rests.ge

/-- Five notes, some of them repeated, with the zeros of two kinds for the other probabilities. -/
theorem randomSteps_bounds_notes_only :
    let s : RandomSettings := {
      length := .int 5, low := .int (-1), high := .int 9, rest := .double (.finite 0)
      group := .int 0, repetition := .double (.finite (1 / 2)) }
    s.Regular 5 (-1) 9 0 0 (1 / 2) ∧ Given.randomSettings (.checked s) = .ok s ∧
      ∃ steps later, randomSteps (.checked s) (some (.ofSeed 1)) = (.ok steps, some later) ∧
        steps.length = 5 ∧ ∀ step ∈ steps, ∃ n : Int, step = .note n ∧ -1 ≤ n ∧ n ≤ 9 := by
  intro s
  have regular : s.Regular 5 (-1) 9 0 0 (1 / 2) := {
    lengthIs := rfl
    lowIs := rfl
    highIs := rfl
    order := by decide
    restIs := ⟨_, rfl, rfl, rfl, by norm_num, by norm_num⟩
    groupIs := ⟨_, rfl, rfl, rfl, by norm_num, by norm_num⟩
    repetitionIs := ⟨_, rfl, rfl, rfl, by norm_num, by norm_num⟩ }
  have handed : Given.randomSettings (.checked s) = .ok s := rfl
  obtain ⟨-, sh, -, runs⟩ := randomSteps_bounds regular
  obtain ⟨pieces, later, drawn, -, -, -, within, exactly, restless, -⟩ := runs _ _ (.ofSeed 1) handed
  refine ⟨regular, handed, _, later, drawn, exactly (.inl rfl), fun step member => ?_⟩
  cases step with
  | rest => exact absurd member (restless rfl)
  | note n => exact ⟨n, rfl, within n member⟩

end StepPattern
