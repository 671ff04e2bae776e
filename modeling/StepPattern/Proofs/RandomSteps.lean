/-
# StepPattern.Proofs.RandomSteps -- what a random sequence can be

Whatever is drawn, each slot fills one or more of the slots that are left with at
least as many and at most `maxRun` times as many steps (`Shape.drawSlot_filled`):

* a group has at most `maxRun` steps and is written at most so often, and there is
  only room for one where more than three slots are left;
* a repeated note is cut to what is left.

So a sequence fills all slots and no more, with at least as many steps and at most
`maxRun` times as many, and exactly as many where no group is written more than once
(`Shape.draw_filled`).  What is left of a length that is no integer is rounded, but
not beyond the number of slots that are left (`Slots.Sound`).

A drawing can only fail where a bound is no integer, two probabilities cannot be
added, or a note has to be cut to what is left of a length that is not whole
(`Shape.draw_succeeds`).
-/
import StepPattern.Chance.RandomSteps
import StepPattern.Proofs.Fractions
import StepPattern.Proofs.Rounding

namespace StepPattern

set_option autoImplicit false

/-! ## Slots -/

namespace Slots

/-- Whether slots are counted as their length says: an integer is their number, and what is left of
it is finite and no more than the number of slots that are left. -/
structure Sound (s : Slots) : Prop where
  whole : ∀ n, s.length = .int n → n = s.count
  within : ∀ left rest, 1 ≤ left → left ≤ s.count → s.remaining left = .ok rest →
    ∃ y, rest.toRat? = some y ∧ y ≤ left

theorem remaining_natCast (n left : Nat) :
    remaining ⟨.int n, n⟩ left = .ok (.int left) := by
  simp only [remaining, Number.add]
  congr 2
  omega

theorem sound_natCast (n : Nat) : Sound ⟨.int n, n⟩ where
  whole := by
    intro m same
    cases same
    rfl
  within := by
    intro left rest _ _ remains
    rw [remaining_natCast] at remains
    cases remains
    exact ⟨left, rfl, le_rfl⟩

/-- Only integers have an integer for their sum with one. -/
theorem eq_int_of_add {a : Number} {m n : Int} (added : a.add (.int m) = .ok (.int n)) :
    a = .int (n - m) := by
  cases a with
  | int k =>
      cases added
      rw [Int.add_sub_cancel]
  | fraction q => cases added
  | double d =>
      simp only [Number.add, bind, Except.bind] at added
      split at added
      · cases added
      · split at added <;> cases added
  | decimal d =>
      simp only [Number.add, Except.map] at added
      split at added <;> cases added

/-- The slots of a finite length: one more for a last one that is not whole. -/
theorem ofLength_eq {v : Value} {length : Number} {q : Rat} (number : v.number = .ok length)
    (finite : length.toRat? = some q) : ofLength v = .ok ⟨length, q.ceil.toNat⟩ := by
  rw [ofLength, number]
  cases length with
  | int n =>
      cases finite
      simp only [bind, Except.bind, pure, Except.pure, Rat.ceil_intCast]
  | _ => simp only [bind, Except.bind, pure, Except.pure, finite]

/-- The slots of a length of at least 1 that is no larger than a significand are sound. -/
theorem sound_of_le {length : Number} {q : Rat} (finite : length.toRat? = some q) (least : 1 ≤ q)
    (most : q ≤ 2 ^ 52) : Sound ⟨length, q.ceil.toNat⟩ where
  whole := by
    rintro n rfl
    cases finite
    have positive : (1 : Int) ≤ n := by exact_mod_cast least
    show n = ((n : Rat).ceil.toNat : Int)
    rw [Rat.ceil_intCast]
    omega
  within := by
    intro left rest some_ within remains
    have above : q ≤ q.ceil := Rat.le_ceil
    have below : (q.ceil : Rat) < q + 1 := Rat.ceil_lt
    have largest : q.ceil ≤ 2 ^ 52 := Rat.ceil_le_iff.2 (by exact_mod_cast most)
    have positive : 0 < q.ceil := by
      have : (0 : Rat) < q.ceil := by linarith
      exact_mod_cast this
    simp only at within
    have whole : ((q.ceil.toNat : Int) : Rat) = q.ceil := by
      rw [Int.toNat_of_nonneg positive.le]
    have leftRat : (1 : Rat) ≤ left := by exact_mod_cast some_
    have withinRat : (left : Rat) ≤ q.ceil := by
      rw [← whole]
      exact_mod_cast within
    have largestRat : (q.ceil : Rat) ≤ 2 ^ 52 := by exact_mod_cast largest
    have taken : (((left : Int) - q.ceil.toNat : Int) : Rat) = left - q.ceil := by
      rw [Int.cast_sub, whole, Int.cast_natCast]
    apply Number.add_int_le finite least _ _ _ _ _ remains
    · exact most.trans_lt (by norm_num [Decimal.precision])
    · rw [taken, abs_le]
      constructor <;> linarith
    · rw [taken]
      linarith
    · rw [taken, Int.cast_natCast]
      linarith
    · exact withinRat.trans largestRat

variable {s : Slots} {left : Nat}

/-- There is only room for a group where more than three slots are left. -/
theorem Sound.hasRoom (sound : s.Sound) (some_ : 1 ≤ left) (within : left ≤ s.count)
    (room : s.hasRoom left = .ok true) : maxRun ≤ left := by
  obtain ⟨rest, remains, room⟩ := bind_eq_ok_iff.1 room
  obtain ⟨y, finite, most⟩ := sound.within left rest some_ within remains
  have three : (Number.int 3).toRat? = some 3 := rfl
  rw [Number.lt_eq three finite, Except.ok.injEq, decide_eq_true_eq] at room
  have : (3 : Rat) < left := room.trans_le most
  exact_mod_cast this

/-- A run that is cut is not empty and not longer than what is left. -/
theorem Sound.cut (sound : s.Sound) (some_ : 1 ≤ left) (within : left ≤ s.count) {run cut : Nat}
    (positive : 1 ≤ run) (done : s.cut left run = .ok cut) : 1 ≤ cut ∧ cut ≤ left := by
  obtain ⟨rest, remains, done⟩ := bind_eq_ok_iff.1 done
  obtain ⟨y, finite, most⟩ := sound.within left rest some_ within remains
  have length : (Number.int run).toRat? = some run := rfl
  obtain ⟨short, compared, done⟩ := bind_eq_ok_iff.1 done
  rw [Number.lt_eq finite length, Except.ok.injEq] at compared
  split at done
  · -- Only an integer is cut to, and that is the number of slots that are left.
    cases rest with
    | int n =>
        cases done
        have whole := sound.whole _ (eq_int_of_add remains)
        omega
    | _ => cases done
  · rename_i longer
    cases done
    have reaches : (run : Rat) ≤ left := by
      have : (run : Rat) ≤ y := by simpa [← compared] using longer
      exact this.trans most
    exact ⟨positive, by exact_mod_cast reaches⟩

theorem hasRoom_natCast (n left : Nat) :
    hasRoom ⟨.int n, n⟩ left = .ok (decide (3 < left)) := by
  rw [hasRoom, remaining_natCast]
  simp only [bind, Except.bind, Number.lt_int]
  norm_cast

theorem cut_natCast (n left run : Nat) : ∃ cut, Slots.cut ⟨.int n, n⟩ left run = .ok cut := by
  rw [cut, remaining_natCast]
  simp only [bind, Except.bind, Number.lt_int]
  split
  · exact ⟨_, rfl⟩
  · exact ⟨_, rfl⟩

end Slots

/-! ## Draws -/

namespace Twister

theorem between_bounds (g : Twister) {low high : Nat} (order : low ≤ high) :
    low ≤ (g.between low high).1 ∧ (g.between low high).1 ≤ high := by
  have some_ : 0 < high + 1 - low := by omega
  have below := g.below_lt some_
  simp only [between]
  omega

theorem within_bounds (g : Twister) (low : Int) {width : Nat} (positive : 0 < width) :
    low ≤ (g.within low width).1 ∧ (g.within low width).1 < low + width := by
  have below := g.below_lt positive
  simp only [within]
  omega

end Twister

namespace Shape

/-! ## Steps -/

/-- Whether a step is one that a shape can draw: a rest or a note between its bounds. -/
def Draws (sh : Shape) : Step → Prop
  | .rest => True
  | .note n => ∃ low width, sh.notes = .ok (low, width) ∧ low ≤ n ∧ n < low + width

/-- Whether a shape counts its slots as its length says, and has a note wherever it has bounds. -/
structure Sound (sh : Shape) : Prop where
  slots : sh.slots.Sound
  notes : ∀ low width, sh.notes = .ok (low, width) → 0 < width

/-- Whether no group is written more than once: nothing is repeated, or there are no groups. -/
def Even (sh : Shape) : Prop :=
  sh.repetition ≤ 0 ∨ ∀ limit, sh.restOrGroup = .ok limit → limit ≤ sh.rest

/-- Whether steps fill so many slots: at least one step for each slot, and at most `maxRun`. -/
structure Filled (sh : Shape) (count : Nat) (steps : List Step) : Prop where
  noFewer : count ≤ steps.length
  noMore : steps.length ≤ maxRun * count
  even : sh.Even → steps.length = count
  draws : ∀ step ∈ steps, sh.Draws step

variable {sh : Shape} {g later : Twister}

theorem Filled.nil : sh.Filled 0 [] where
  noFewer := Nat.le_refl 0
  noMore := Nat.zero_le _
  even := fun _ => rfl
  draws := List.forall_mem_nil _

theorem Filled.append {m n : Nat} {first second : List Step} (one : sh.Filled m first)
    (two : sh.Filled n second) : sh.Filled (m + n) (first ++ second) where
  noFewer := by
    rw [List.length_append]
    exact Nat.add_le_add one.noFewer two.noFewer
  noMore := by
    rw [List.length_append, Nat.mul_add]
    exact Nat.add_le_add one.noMore two.noMore
  even := by
    intro even
    rw [List.length_append, one.even even, two.even even]
  draws := List.forall_mem_append.2 ⟨one.draws, two.draws⟩

/-- One step written so often fills as many slots. -/
theorem Filled.replicate {step : Step} (draws : sh.Draws step) (count : Nat) :
    sh.Filled count (List.replicate count step) where
  noFewer := by rw [List.length_replicate]
  noMore := by
    rw [List.length_replicate]
    exact Nat.le_mul_of_pos_left count (by decide)
  even := fun _ => List.length_replicate
  draws := by
    intro other member
    rwa [List.eq_of_mem_replicate member]

theorem draws_rest (sh : Shape) : sh.Draws .rest := trivial

theorem draws_drawNote (sound : sh.Sound) {step : Step}
    (drawn : sh.drawNote g = (.ok step, later)) : sh.Draws step := by
  unfold drawNote at drawn
  split at drawn
  · cases drawn
  · rename_i low width bounds
    cases drawn
    exact ⟨low, width, bounds, g.within_bounds low (sound.notes low width bounds)⟩

theorem draws_drawStep (sound : sh.Sound) {step : Step}
    (drawn : sh.drawStep g = (.ok step, later)) : sh.Draws step := by
  unfold drawStep at drawn
  simp only at drawn
  split at drawn
  · cases drawn
    trivial
  · exact draws_drawNote sound drawn

theorem draws_drawSteps (sound : sh.Sound) {count : Nat} {steps : List Step}
    (drawn : sh.drawSteps count g = (.ok steps, later)) :
    steps.length = count ∧ ∀ step ∈ steps, sh.Draws step := by
  induction count generalizing g steps with
  | zero =>
      cases drawn
      exact ⟨rfl, List.forall_mem_nil _⟩
  | succ count ih =>
      rw [drawSteps] at drawn
      split at drawn
      · cases drawn
      · rename_i step next first
        rcases tail : sh.drawSteps count next with ⟨_ | others, after⟩
        · rw [tail] at drawn
          cases drawn
        · rw [tail] at drawn
          cases drawn
          obtain ⟨length, draws⟩ := ih tail
          exact ⟨by rw [List.length_cons, length],
            List.forall_mem_cons.2 ⟨draws_drawStep sound first, draws⟩⟩

/-! ## Slots -/

theorem drawRun_bounds (g : Twister) : minRun ≤ (drawRun g).1 ∧ (drawRun g).1 ≤ maxRun :=
  g.between_bounds (by decide)

theorem drawRepeats_bounds (sh : Shape) (g : Twister) :
    1 ≤ (sh.drawRepeats g).1 ∧ (sh.drawRepeats g).1 ≤ maxRun := by
  unfold drawRepeats
  simp only
  split
  · have run := drawRun_bounds g.numerator.2
    exact ⟨Nat.le_trans (by decide) run.1, run.2⟩
  · show 1 ≤ 1 ∧ 1 ≤ maxRun
    decide

theorem drawRepeats_eq_one (never : sh.repetition ≤ 0) (g : Twister) :
    (sh.drawRepeats g).1 = 1 := by
  simp only [drawRepeats, Twister.isBelow_nonpos never]
  rfl

/-- A note, repeated or not, fills one or more of the slots that are left. -/
theorem drawNoteRun_filled (sound : sh.Sound) {left filled : Nat} {steps : List Step}
    (some_ : 1 ≤ left) (within : left ≤ sh.slots.count)
    (drawn : sh.drawNoteRun left g = (.ok (steps, filled), later)) :
    1 ≤ filled ∧ filled ≤ left ∧ sh.Filled filled steps := by
  unfold drawNoteRun at drawn
  split at drawn
  · cases drawn
  · rename_i note next first
    have draws := draws_drawNote sound first
    simp only at drawn
    split at drawn
    · have run := drawRun_bounds next.numerator.2
      cases done : sh.slots.cut left (drawRun next.numerator.2).1 with
      | error fault =>
          rw [done] at drawn
          cases drawn
      | ok cut =>
          rw [done] at drawn
          cases drawn
          obtain ⟨positive, short⟩ :=
            sound.slots.cut some_ within (Nat.le_trans (by decide) run.1) done
          exact ⟨positive, short, .replicate draws _⟩
    · cases drawn
      exact ⟨Nat.le_refl 1, some_, .replicate draws 1⟩

/-- A group fills as many slots as it has steps, and is written at most `maxRun` times. -/
theorem drawGroup_filled (sound : sh.Sound) {limit : Rat} (sum : sh.restOrGroup = .ok limit)
    (grouped : sh.rest < limit) {filled : Nat} {steps : List Step}
    (drawn : sh.drawGroup g = (.ok (steps, filled), later)) :
    1 ≤ filled ∧ filled ≤ maxRun ∧ sh.Filled filled steps := by
  unfold drawGroup at drawn
  simp only at drawn
  split at drawn
  · cases drawn
  · rename_i group next tail
    cases drawn
    have size := drawRun_bounds g
    have repeats := sh.drawRepeats_bounds next
    obtain ⟨length, draws⟩ := draws_drawSteps sound tail
    have total : (List.replicate (sh.drawRepeats next).1 group).flatten.length =
        (sh.drawRepeats next).1 * (drawRun g).1 := by
      rw [List.length_flatten, List.map_replicate, List.sum_replicate_nat, length]
    refine ⟨Nat.le_trans (by decide) size.1, size.2, ?_, ?_, ?_, ?_⟩
    · rw [total]
      exact Nat.le_mul_of_pos_left _ repeats.1
    · rw [total]
      exact Nat.mul_le_mul_right _ repeats.2
    · rintro (never | groupless)
      · rw [total, drawRepeats_eq_one never, Nat.one_mul]
      · exact absurd (groupless limit sum) (not_le.2 grouped)
    · intro step member
      obtain ⟨copy, among, inside⟩ := List.mem_flatten.1 member
      rw [List.eq_of_mem_replicate among] at inside
      exact draws step inside

/-- **What one slot starts** fills one or more of the slots that are left. -/
theorem drawSlot_filled (sound : sh.Sound) {left filled : Nat} {steps : List Step}
    (some_ : 1 ≤ left) (within : left ≤ sh.slots.count)
    (drawn : sh.drawSlot left g = (.ok (steps, filled), later)) :
    1 ≤ filled ∧ filled ≤ left ∧ sh.Filled filled steps := by
  unfold drawSlot at drawn
  simp only at drawn
  split at drawn
  · cases drawn
    exact ⟨Nat.le_refl 1, some_, .replicate sh.draws_rest 1⟩
  rename_i noRest
  split at drawn
  · cases drawn
  rename_i limit sum
  split at drawn
  · rename_i below
    -- The fraction is not below the one probability, but below the sum.
    have grouped : sh.rest < limit := by
      rw [Twister.isBelow_iff] at below noRest
      exact (not_lt.1 noRest).trans_lt below
    split at drawn
    · cases drawn
    · rename_i room
      obtain ⟨positive, short, fills⟩ := drawGroup_filled sound sum grouped drawn
      exact ⟨positive, Nat.le_trans short (sound.slots.hasRoom some_ within room), fills⟩
    · rcases note : sh.drawNote g.numerator.2 with ⟨_ | step, next⟩
      · rw [note] at drawn
        cases drawn
      · rw [note] at drawn
        cases drawn
        exact ⟨Nat.le_refl 1, some_, .replicate (draws_drawNote sound note) 1⟩
  · exact drawNoteRun_filled sound some_ within drawn

/-! ## Sequences -/

theorem fill_filled (sound : sh.Sound) {done : Array Step} {left : Nat} {steps : List Step}
    (within : left ≤ sh.slots.count) (drawn : sh.fill done left g = (.ok steps, later)) :
    ∃ more, steps = done.toList ++ more ∧ sh.Filled left more := by
  fun_induction fill sh done left g with
  | case1 done g =>
      cases drawn
      exact ⟨[], (List.append_nil _).symm, .nil⟩
  | case2 done left g some_ fault next failed => cases drawn
  | case3 done left g some_ piece filled next slot ih =>
      obtain ⟨positive, short, fills⟩ :=
        drawSlot_filled sound (Nat.pos_of_ne_zero some_) within slot
      obtain ⟨more, rfl, further⟩ := ih (by omega) drawn
      refine ⟨piece ++ more, by simp, ?_⟩
      have whole := fills.append further
      rwa [Nat.max_eq_right positive, Nat.add_sub_cancel' short] at whole

/-- A sequence that is drawn has an end, and fills its slots. -/
theorem fill_of_draw {steps : List Step} (drawn : sh.draw g = (.ok steps, later)) :
    sh.fill #[] sh.slots.count g = (.ok steps, later) := by
  unfold draw at drawn
  split at drawn
  case isTrue => split at drawn <;> cases drawn
  case isFalse => exact drawn

/-- **A random sequence fills the slots of its shape**, and no more. -/
theorem draw_filled (sound : sh.Sound) {steps : List Step}
    (drawn : sh.draw g = (.ok steps, later)) : sh.Filled sh.slots.count steps := by
  obtain ⟨more, rfl, fills⟩ := fill_filled sound (Nat.le_refl _) (fill_of_draw drawn)
  simpa using fills

/-! ## Success -/

/-- Whether nothing about a shape makes a drawing fail. -/
structure Whole (sh : Shape) : Prop where
  slots : ∃ n : Nat, sh.slots = ⟨.int n, n⟩
  notes : ∃ low width, sh.notes = .ok (low, width)
  restOrGroup : ∃ limit, sh.restOrGroup = .ok limit

theorem drawNote_succeeds (whole : sh.Whole) (g : Twister) :
    ∃ step later, sh.drawNote g = (.ok step, later) := by
  obtain ⟨low, width, bounds⟩ := whole.notes
  unfold drawNote
  rw [bounds]
  exact ⟨_, _, rfl⟩

theorem drawStep_succeeds (whole : sh.Whole) (g : Twister) :
    ∃ step later, sh.drawStep g = (.ok step, later) := by
  unfold drawStep
  simp only
  split
  · exact ⟨_, _, rfl⟩
  · exact drawNote_succeeds whole _

theorem drawSteps_succeeds (whole : sh.Whole) (count : Nat) (g : Twister) :
    ∃ steps later, sh.drawSteps count g = (.ok steps, later) := by
  induction count generalizing g with
  | zero => exact ⟨_, _, rfl⟩
  | succ count ih =>
      obtain ⟨step, next, first⟩ := drawStep_succeeds whole g
      obtain ⟨steps, later, further⟩ := ih next
      simp only [drawSteps, first, further]
      exact ⟨_, _, rfl⟩

theorem drawSlot_succeeds (whole : sh.Whole) (left : Nat) (g : Twister) :
    ∃ piece later, sh.drawSlot left g = (.ok piece, later) := by
  obtain ⟨n, slots⟩ := whole.slots
  obtain ⟨limit, sum⟩ := whole.restOrGroup
  unfold drawSlot
  simp only [sum, slots, Slots.hasRoom_natCast]
  split
  · exact ⟨_, _, rfl⟩
  split
  · cases decide (3 < left) with
    | true =>
        obtain ⟨group, next, tail⟩ := drawSteps_succeeds whole (drawRun g.numerator.2).1
          (drawRun g.numerator.2).2
        simp only [drawGroup, tail]
        exact ⟨_, _, rfl⟩
    | false =>
        obtain ⟨note, next, first⟩ := drawNote_succeeds whole g.numerator.2
        simp only [first]
        exact ⟨_, _, rfl⟩
  · obtain ⟨note, next, first⟩ := drawNote_succeeds whole g.numerator.2
    simp only [drawNoteRun, first, slots]
    split
    · obtain ⟨cut, done⟩ := Slots.cut_natCast n left (drawRun next.numerator.2).1
      simp only [done]
      exact ⟨_, _, rfl⟩
    · exact ⟨_, _, rfl⟩

theorem fill_succeeds (whole : sh.Whole) (done : Array Step) (left : Nat) (g : Twister) :
    ∃ steps later, sh.fill done left g = (.ok steps, later) := by
  fun_induction fill sh done left g with
  | case1 done g => exact ⟨_, _, rfl⟩
  | case2 done left g some_ fault next failed =>
      obtain ⟨piece, later, slot⟩ := drawSlot_succeeds whole left g
      rw [slot] at failed
      cases failed
  | case3 done left g some_ piece filled next slot ih => exact ih

/-- **A shape that is whole always gives a sequence.** -/
theorem draw_succeeds (whole : sh.Whole) (g : Twister) :
    ∃ steps later, sh.draw g = (.ok steps, later) := by
  obtain ⟨n, slots⟩ := whole.slots
  have ends : ¬sh.slots.isEndless = true := by
    rw [slots]
    exact Bool.false_ne_true
  rw [draw, if_neg ends]
  exact fill_succeeds whole _ _ g

end Shape

/-! ## Shapes of settings -/

theorem Value.number_of_integer? {v : Value} {n : Int} (integer : v.integer? = some n) :
    v.number = .ok (.int n) := by
  cases v <;> simp only [integer?, Option.some.injEq, reduceCtorEq] at integer
  all_goals
    subst integer
    rfl

namespace Shape

/-- Between two integers in order there are notes. -/
theorem noteRange_eq {low high : Value} {a b : Int} (lowest : low.integer? = some a)
    (highest : high.integer? = some b) (order : a ≤ b) :
    noteRange low high = .ok (a, (b + 1 - a).toNat) := by
  simp only [noteRange, Value.number_of_integer? lowest, Value.number_of_integer? highest, bind,
    Except.bind, Number.add, wholeBound, if_pos (show a < b + 1 by omega), pure, Except.pure]

/-- Where there is a range of notes, there is a note in it. -/
theorem width_pos_of_noteRange {low high : Value} {lowest : Int} {width : Nat}
    (range : noteRange low high = .ok (lowest, width)) : 0 < width := by
  rw [noteRange] at range
  obtain ⟨above, -, range⟩ := bind_eq_ok_iff.1 range
  obtain ⟨stop, -, range⟩ := bind_eq_ok_iff.1 range
  obtain ⟨below, -, range⟩ := bind_eq_ok_iff.1 range
  obtain ⟨first, -, range⟩ := bind_eq_ok_iff.1 range
  obtain ⟨stop, -, range⟩ := bind_eq_ok_iff.1 range
  split at range
  · rename_i order
    cases range
    omega
  · cases range

theorem ofSettings_eq {s : RandomSettings} {length : Number} {q : Rat}
    (number : s.length.number = .ok length) (finite : length.toRat? = some q) :
    ofSettings s = .ok {
      slots := ⟨length, q.ceil.toNat⟩
      notes := noteRange s.low s.high
      rest := probability s.rest
      restOrGroup := probabilitySum s.rest s.group
      repetition := probability s.repetition } := by
  rw [ofSettings, Slots.ofLength_eq number finite]
  rfl

end Shape

end StepPattern
