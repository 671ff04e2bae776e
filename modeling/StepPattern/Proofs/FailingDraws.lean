/-
# StepPattern.Proofs.FailingDraws -- which draws of a random sequence fail

A drawing fails at the first slot that does (`RandomSettings.Fails`).  A slot fails
only for what it needs (`RandomSettings.Halts`):

* one that is no rest needs the sum of two probabilities, and a decimal cannot be added
  to a double or a fraction;
* one that asks for a note needs a range of notes, and the bounds may have none between
  them (`NoRange`);
* a group and a repeated note need what is left of the length, and a repeated note can
  only be cut to an integer.

A length without end is drawn until a slot fails, and for ever if none does
(`RandomSettings.draw_eq_error_iff`).
-/
import StepPattern.Proofs.NoteRanges

namespace StepPattern

set_option autoImplicit false

/-! ## Slots by their index -/

namespace Slots

variable {s : Slots} {index left : Nat}

/-- What is left of the length at an index. -/
def leftAt (s : Slots) (index : Nat) : Except Fault Number :=
  s.length.add (.int (-index))

/-- Whether there is a slot at an index. -/
def Holds (s : Slots) (index : Nat) : Prop :=
  s.isEndless = true ∨ index < s.count

theorem remaining_upTo (s : Slots) (index : Nat) : (s.upTo index).remaining 0 = s.leftAt index := by
  rw [remaining, leftAt, upTo, Nat.cast_zero, zero_sub]

theorem remaining_eq (within : left ≤ s.count) : s.remaining left = s.leftAt (s.count - left) := by
  rw [remaining, leftAt]
  congr 2
  omega

theorem hasRoom_upTo (s : Slots) (index : Nat) :
    (s.upTo index).hasRoom 0 = (s.leftAt index).bind (Number.int 3).lt := by
  rw [hasRoom, remaining_upTo]
  rfl

theorem hasRoom_eq (within : left ≤ s.count) :
    s.hasRoom left = (s.upTo (s.count - left)).hasRoom 0 := by
  rw [hasRoom, hasRoom, remaining_upTo, remaining_eq within]

theorem cut_eq (within : left ≤ s.count) (run : Nat) :
    s.cut left run = (s.upTo (s.count - left)).cut 0 run := by
  rw [cut, cut, remaining_upTo, remaining_eq within]

end Slots

namespace Shape

variable {sh : Shape} {g : Twister} {fault : Fault}

theorem drawSteps_slots (sh : Shape) (slots : Slots) (count : Nat) (g : Twister) :
    drawSteps { sh with slots } count g = sh.drawSteps count g := by
  induction count generalizing g with
  | zero => rfl
  | succ count ih =>
      have step : drawStep { sh with slots } g = sh.drawStep g := rfl
      simp only [drawSteps, step, ih]

/-- A slot starts the same whether it is counted from the one end or from the other. -/
theorem drawSlot_eq_drawAt {left : Nat} (within : left ≤ sh.slots.count) (g : Twister) :
    sh.drawSlot left g = sh.drawAt (sh.slots.count - left) g := by
  simp only [drawAt, drawSlot, drawNoteRun, drawGroup, Slots.hasRoom_eq within,
    Slots.cut_eq within, drawSteps_slots]
  rfl

/-! ## What a slot asks for -/

/-- Whether what a source decides next is no rest. -/
def Sings (sh : Shape) (g : Twister) : Prop :=
  ¬Twister.isBelow g.numerator.1 sh.rest = true

/-- Whether there is a note among so many steps. -/
inductive HasNote (sh : Shape) : Nat → Twister → Prop
  | first {count : Nat} {g : Twister} (sings : sh.Sings g) : HasNote sh (count + 1) g
  | later {count : Nat} {g : Twister} (rests : ¬sh.Sings g) (among : HasNote sh count g.numerator.2) :
      HasNote sh (count + 1) g

/-- Whether a slot is to be a group. -/
structure Groups (sh : Shape) (g : Twister) : Prop where
  sings : sh.Sings g
  below : ∃ limit, sh.restOrGroup = .ok limit ∧ Twister.isBelow g.numerator.1 limit = true

/-- Whether a slot is to be a note, repeated or not. -/
structure Notes (sh : Shape) (g : Twister) : Prop where
  sings : sh.Sings g
  above : ∃ limit, sh.restOrGroup = .ok limit ∧ ¬Twister.isBelow g.numerator.1 limit = true

/-- Whether the slot at an index asks for a note: for itself, in the place of a group that there is no
room for, or in a group. -/
inductive AsksNote (sh : Shape) (index : Nat) (g : Twister) : Prop
  | alone (notes : sh.Notes g)
  | instead (groups : sh.Groups g) {rest : Number} (left : sh.slots.leftAt index = .ok rest)
      (short : (Number.int 3).lt rest = .ok false)
  | member (groups : sh.Groups g) {rest : Number} (left : sh.slots.leftAt index = .ok rest)
      (room : (Number.int 3).lt rest = .ok true)
      (among : sh.HasNote (drawRun g.numerator.2).1 (drawRun g.numerator.2).2)

/-- Whether a slot is a note, and how often it is to be repeated. -/
inductive Repeats (sh : Shape) (g : Twister) : Nat → Prop
  | run {note : Step} {later : Twister} (notes : sh.Notes g)
      (drawn : sh.drawNote g.numerator.2 = (.ok note, later))
      (again : Twister.isBelow later.numerator.1 sh.repetition = true) :
      Repeats sh g (drawRun later.numerator.2).1

theorem Repeats.notes {sh : Shape} {g : Twister} {run : Nat} (repeats : sh.Repeats g run) :
    sh.Notes g := by
  cases repeats with
  | run notes => exact notes

/-! ### Failing parts -/

theorem drawNote_eq_error_iff : (sh.drawNote g).1 = .error fault ↔ sh.notes = .error fault := by
  unfold drawNote
  cases sh.notes with
  | error cause => exact Iff.rfl.trans (by simp)
  | ok range => simp

theorem drawStep_eq (sh : Shape) (g : Twister) :
    sh.drawStep g = if Twister.isBelow g.numerator.1 sh.rest = true then (.ok .rest, g.numerator.2)
      else sh.drawNote g.numerator.2 := rfl

theorem drawStep_of_rests (rests : ¬sh.Sings g) : sh.drawStep g = (.ok .rest, g.numerator.2) := by
  rw [drawStep_eq, if_pos (not_not.1 rests)]

theorem drawStep_of_sings (sings : sh.Sings g) : sh.drawStep g = sh.drawNote g.numerator.2 := by
  rw [drawStep_eq, if_neg sings]

theorem drawSteps_eq_error_iff {count : Nat} :
    (sh.drawSteps count g).1 = .error fault ↔ sh.HasNote count g ∧ sh.notes = .error fault := by
  induction count generalizing g with
  | zero =>
      constructor
      · intro failed
        cases failed
      · rintro ⟨among, -⟩
        cases among
  | succ count ih =>
      by_cases sings : sh.Sings g
      case pos =>
        have among : sh.HasNote (count + 1) g := .first sings
        rw [drawSteps, drawStep_of_sings sings, and_iff_right among]
        rcases drawn : sh.drawNote g.numerator.2 with ⟨cause | step, next⟩
        · rw [← drawNote_eq_error_iff (g := g.numerator.2), drawn]
          simp only [Except.error.injEq]
        · have range : sh.notes ≠ .error fault := by
            intro none
            rw [← drawNote_eq_error_iff (g := g.numerator.2), drawn] at none
            cases none
          exact iff_of_false (fun failed => range (ih.1 (map_eq_error_iff.1 failed)).2) range
      case neg =>
        have among : sh.HasNote (count + 1) g ↔ sh.HasNote count g.numerator.2 := by
          refine ⟨fun held => ?_, .later sings⟩
          cases held with
          | first now => exact absurd now sings
          | later _ among => exact among
        rw [among, ← ih, drawSteps, drawStep_of_rests sings]
        exact map_eq_error_iff

/-! ### Failing slots -/

/-- The run that a note is repeated in is cut, unless nothing tells how much is left, or what is left
is less and no integer. -/
theorem cut_eq_error_iff {slots : Slots} {index run : Nat} (ordered : slots.length.IsOrdered) :
    (slots.upTo index).cut 0 run = .error fault ↔
      slots.leftAt index = .error fault ∨
      ∃ rest, slots.leftAt index = .ok rest ∧ rest.lt (.int run) = .ok true ∧
        (∀ n, rest ≠ .int n) ∧ fault = .wrongKind := by
  rw [Slots.cut, Slots.remaining_upTo]
  refine bind_eq_error_iff.trans (or_congr_right (exists_congr fun rest => ?_))
  refine and_congr_right fun left => ?_
  obtain ⟨less, compared⟩ := (Number.exists_compare_int (ordered.add_int left) Point.lt run).1
  rw [show rest.lt (.int run) = .ok less from compared]
  cases less with
  | false =>
      constructor
      · intro failed
        cases failed
      · rintro ⟨short, -⟩
        cases short
  | true =>
      cases rest with
      | int n =>
          constructor
          · intro failed
            cases failed
          · rintro ⟨-, part, -⟩
            exact absurd rfl (part n)
      | _ =>
          constructor
          · intro failed
            cases failed
            refine ⟨rfl, fun n same => ?_, rfl⟩
            cases same
          · rintro ⟨-, -, rfl⟩
            rfl

/-- A repeated note is repeated in one way. -/
theorem Repeats.eq {note : Step} {later : Twister} {run : Nat} (repeats : sh.Repeats g run)
    (drawn : sh.drawNote g.numerator.2 = (.ok note, later)) :
    Twister.isBelow later.numerator.1 sh.repetition = true ∧
      run = (drawRun later.numerator.2).1 := by
  cases repeats with
  | run _ same again =>
      cases drawn.symm.trans same
      exact ⟨again, rfl⟩

theorem drawNoteRun_eq (sh : Shape) (left : Nat) {note : Step} {later : Twister}
    (drawn : sh.drawNote g = (.ok note, later)) :
    sh.drawNoteRun left g =
      if Twister.isBelow later.numerator.1 sh.repetition = true then
        ((sh.slots.cut left (drawRun later.numerator.2).1).map fun repeats =>
          (List.replicate repeats note, repeats), (drawRun later.numerator.2).2)
      else (.ok ([note], 1), later.numerator.2) := by
  simp only [drawNoteRun, drawn]

theorem drawNoteRun_eq_error_iff {index : Nat} (notes : sh.Notes g) :
    (drawNoteRun { sh with slots := sh.slots.upTo index } 0 g.numerator.2).1 = .error fault ↔
      sh.notes = .error fault ∨ ∃ run, sh.Repeats g run ∧
        (sh.slots.upTo index).cut 0 run = .error fault := by
  rw [← drawNote_eq_error_iff (g := g.numerator.2)]
  rcases drawn : sh.drawNote g.numerator.2 with ⟨cause | note, later⟩
  · have failed : drawNote { sh with slots := sh.slots.upTo index } g.numerator.2 =
        (.error cause, later) := drawn
    simp only [drawNoteRun, failed, Except.error.injEq]
    refine ⟨.inl, fun failed => failed.resolve_right ?_⟩
    rintro ⟨_, ⟨_, same, _⟩, _⟩
    cases drawn.symm.trans same
  · rw [drawNoteRun_eq { sh with slots := sh.slots.upTo index } 0 drawn]
    dsimp only
    split
    case isTrue again =>
      refine map_eq_error_iff.trans ⟨fun failed => .inr ⟨_, .run notes drawn again, failed⟩, ?_⟩
      rintro (failed | ⟨run, repeats, failed⟩)
      · cases failed
      · rwa [(repeats.eq drawn).2] at failed
    case isFalse once =>
      constructor
      · intro failed
        cases failed
      · rintro (failed | ⟨run, repeats, -⟩)
        · cases failed
        · exact absurd (repeats.eq drawn).1 once

theorem drawGroup_eq_error_iff {index : Nat} :
    (drawGroup { sh with slots := sh.slots.upTo index } g).1 = .error fault ↔
      sh.HasNote (drawRun g).1 (drawRun g).2 ∧ sh.notes = .error fault := by
  rw [← drawSteps_eq_error_iff, ← drawSteps_slots sh (sh.slots.upTo index)]
  unfold drawGroup
  dsimp only
  rcases drawSteps { sh with slots := sh.slots.upTo index } (drawRun g).1 (drawRun g).2 with
    ⟨cause | group, later⟩
  · simp only [Except.error.injEq]
  · exact iff_of_false nofun nofun

/-! ### Slots by what they are to be -/

theorem Groups.not_notes (groups : sh.Groups g) : ¬sh.Notes g := by
  intro notes
  obtain ⟨limit, sum, below⟩ := groups.below
  obtain ⟨_, same, above⟩ := notes.above
  cases sum.symm.trans same
  exact above below

/-- What is no rest is a group or a note, if the probabilities have a sum. -/
theorem groups_or_notes (sings : sh.Sings g) {limit : Rat} (sum : sh.restOrGroup = .ok limit) :
    sh.Groups g ∨ sh.Notes g := by
  by_cases below : Twister.isBelow g.numerator.1 limit = true
  · exact .inl ⟨sings, limit, sum, below⟩
  · exact .inr ⟨sings, limit, sum, below⟩

theorem AsksNote.sings {index : Nat} (asks : sh.AsksNote index g) : sh.Sings g := by
  cases asks with
  | alone notes => exact notes.sings
  | instead groups | member groups => exact groups.sings

variable (index : Nat)

theorem drawAt_of_rests (rests : ¬sh.Sings g) :
    sh.drawAt index g = (.ok ([.rest], 1), g.numerator.2) :=
  if_pos (not_not.1 rests)

theorem drawAt_of_sings (sings : sh.Sings g) :
    sh.drawAt index g = match sh.restOrGroup with
      | .error fault => (.error fault, g.numerator.2)
      | .ok limit =>
          if Twister.isBelow g.numerator.1 limit = true then
            match (sh.slots.upTo index).hasRoom 0 with
            | .error fault => (.error fault, g.numerator.2)
            | .ok true => drawGroup { sh with slots := sh.slots.upTo index } g.numerator.2
            | .ok false =>
                ((sh.drawNote g.numerator.2).1.map fun note => ([note], 1),
                  (sh.drawNote g.numerator.2).2)
          else drawNoteRun { sh with slots := sh.slots.upTo index } 0 g.numerator.2 :=
  if_neg sings

theorem drawAt_of_groups (groups : sh.Groups g) :
    sh.drawAt index g = match (sh.slots.upTo index).hasRoom 0 with
      | .error fault => (.error fault, g.numerator.2)
      | .ok true => drawGroup { sh with slots := sh.slots.upTo index } g.numerator.2
      | .ok false =>
          ((sh.drawNote g.numerator.2).1.map fun note => ([note], 1),
            (sh.drawNote g.numerator.2).2) := by
  obtain ⟨limit, sum, below⟩ := groups.below
  rw [drawAt_of_sings index groups.sings, sum]
  exact if_pos below

theorem drawAt_eq_error_iff_of_groups {index : Nat} (ordered : sh.slots.length.IsOrdered)
    (groups : sh.Groups g) :
    (sh.drawAt index g).1 = .error fault ↔
      (sh.AsksNote index g ∧ sh.notes = .error fault) ∨ sh.slots.leftAt index = .error fault := by
  rw [drawAt_of_groups index groups, Slots.hasRoom_upTo]
  cases left : sh.slots.leftAt index with
  | error cause =>
      have unasked : ¬sh.AsksNote index g := by
        intro asks
        cases asks with
        | alone notes => exact groups.not_notes notes
        | instead _ same | member _ same => cases left.symm.trans same
      simp [unasked, Except.bind]
  | ok rest =>
      obtain ⟨room, compared⟩ := (Number.exists_compare_int (ordered.add_int left) Point.lt 3).2
      have same : (Except.ok rest).bind (Number.int 3).lt = .ok room := compared
      rw [same, or_iff_left nofun]
      cases room with
      | true =>
          have asks : sh.AsksNote index g ↔
              sh.HasNote (drawRun g.numerator.2).1 (drawRun g.numerator.2).2 := by
            refine ⟨fun asks => ?_, .member groups left compared⟩
            cases asks with
            | alone notes => exact absurd notes groups.not_notes
            | member _ _ _ among => exact among
            | instead _ again short =>
                cases left.symm.trans again
                cases compared.symm.trans short
          rw [asks]
          exact drawGroup_eq_error_iff
      | false =>
          rw [and_iff_right (.instead groups left compared), ← drawNote_eq_error_iff]
          exact map_eq_error_iff

theorem drawAt_of_notes (notes : sh.Notes g) :
    sh.drawAt index g =
      drawNoteRun { sh with slots := sh.slots.upTo index } 0 g.numerator.2 := by
  obtain ⟨limit, sum, above⟩ := notes.above
  rw [drawAt_of_sings index notes.sings, sum]
  exact if_neg above

end Shape

namespace RandomSettings

/-- How the slot at an index fails. -/
inductive Halts (s : RandomSettings) (sh : Shape) (index : Nat) (g : Twister) : Fault → Prop
  /-- It is no rest, and the probabilities of a rest and of a group are not added. -/
  | sum {m n : Number} (sings : sh.Sings g) (rest : s.rest.number? = some m)
      (group : s.group.number? = some n) (apart : m.Apart n) : Halts s sh index g .wrongKind
  /-- It asks for a note, and there is none between the bounds. -/
  | note {fault : Fault} (asks : sh.AsksNote index g) (none : NoRange s.low s.high fault) :
      Halts s sh index g fault
  /-- It is to be a group, and nothing tells how much is left. -/
  | room {fault : Fault} (groups : sh.Groups g) (lost : sh.slots.leftAt index = .error fault) :
      Halts s sh index g fault
  /-- It is a note that is to be repeated, and nothing tells how much is left. -/
  | run {run : Nat} {fault : Fault} (repeats : sh.Repeats g run)
      (lost : sh.slots.leftAt index = .error fault) : Halts s sh index g fault
  /-- It is a note that is to be repeated more often than is left, and what is left is no integer. -/
  | cut {run : Nat} {rest : Number} (repeats : sh.Repeats g run)
      (left : sh.slots.leftAt index = .ok rest) (short : rest.lt (.int run) = .ok true)
      (part : ∀ n, rest ≠ .int n) : Halts s sh index g .wrongKind

variable {s : RandomSettings} {sh : Shape} {index : Nat} {g : Twister} {fault : Fault}

theorem Halts.sings (halts : s.Halts sh index g fault) : sh.Sings g := by
  cases halts with
  | sum sings => exact sings
  | note asks => exact asks.sings
  | room groups => exact groups.sings
  | run repeats | cut repeats => exact repeats.notes.sings

/-! ### Shapes of valid settings -/

theorem length_of_shaped (shaped : Shape.ofSettings s = .ok sh) :
    s.length.number? = some sh.slots.length := by
  obtain ⟨slots, counted, same⟩ := bind_eq_ok_iff.1 shaped
  cases same
  obtain ⟨length, number, counted⟩ := bind_eq_ok_iff.1 counted
  rw [Value.number_eq_ok_iff] at number
  split at counted
  case h_1 =>
    cases counted
    exact number
  case h_2 => split at counted <;> cases counted <;> exact number

theorem Valid.isOrdered (valid : s.Valid) (shaped : Shape.ofSettings s = .ok sh) :
    sh.slots.length.IsOrdered := by
  obtain ⟨length, number, kept⟩ := valid.length
  rw [length_of_shaped shaped] at number
  cases number
  exact Number.isOrdered_of_lt ⟨_, kept⟩

theorem notes_eq_error_iff (shaped : Shape.ofSettings s = .ok sh) :
    sh.notes = .error fault ↔ NoRange s.low s.high fault := by
  obtain ⟨slots, -, same⟩ := bind_eq_ok_iff.1 shaped
  cases same
  exact Shape.noteRange_eq_error_iff

theorem Valid.restOrGroup_eq_error_iff (valid : s.Valid) (shaped : Shape.ofSettings s = .ok sh) :
    sh.restOrGroup = .error fault ↔
      (∃ m n, s.rest.number? = some m ∧ s.group.number? = some n ∧ m.Apart n) ∧
        fault = .wrongKind := by
  obtain ⟨slots, -, same⟩ := bind_eq_ok_iff.1 shaped
  cases same
  obtain ⟨m, first, least, most⟩ := valid.rest
  obtain ⟨n, second, leastToo, mostToo⟩ := valid.group
  obtain ⟨p, one, least, most⟩ := Number.exists_toRat? least most
  obtain ⟨q, other, leastToo, mostToo⟩ := Number.exists_toRat? leastToo mostToo
  have summed : Shape.probabilitySum s.rest s.group =
      (m.add n).map fun sum => sum.toRat?.getD 0 := by
    simp only [Shape.probabilitySum, Value.number, first, second]
    rfl
  have kinds : (∃ m' n', s.rest.number? = some m' ∧ s.group.number? = some n' ∧ m'.Apart n') ↔
      m.Apart n := by
    simp [first, second]
  rw [kinds, ← Number.add_eq_error_iff one other least most leastToo mostToo]
  exact (congrArg (· = Except.error fault) summed).to_iff.trans map_eq_error_iff

section Slots

variable (valid : s.Valid) (shaped : Shape.ofSettings s = .ok sh)
include valid shaped

theorem halts_iff_of_unsummed (sings : sh.Sings g) {cause : Fault}
    (unsummed : sh.restOrGroup = .error cause) :
    s.Halts sh index g fault ↔ fault = cause := by
  obtain ⟨⟨m, n, rest, group, apart⟩, rfl⟩ := (valid.restOrGroup_eq_error_iff shaped).1 unsummed
  have never {P : Rat → Prop} : ¬∃ limit, sh.restOrGroup = .ok limit ∧ P limit := by
    rintro ⟨limit, sum, -⟩
    cases unsummed.symm.trans sum
  constructor
  · intro halts
    cases halts with
    | sum => rfl
    | note asks =>
        cases asks with
        | alone notes => exact absurd notes.above never
        | instead groups | member groups => exact absurd groups.below never
    | room groups => exact absurd groups.below never
    | run repeats | cut repeats => exact absurd repeats.notes.above never
  · rintro rfl
    exact .sum sings rest group apart

theorem not_apart {limit : Rat} (sum : sh.restOrGroup = .ok limit) {m n : Number}
    (rest : s.rest.number? = some m) (group : s.group.number? = some n) : ¬m.Apart n := by
  intro apart
  have failed := (valid.restOrGroup_eq_error_iff shaped).2 ⟨⟨m, n, rest, group, apart⟩, rfl⟩
  cases sum.symm.trans failed

theorem halts_iff_of_groups (groups : sh.Groups g) :
    s.Halts sh index g fault ↔
      (sh.AsksNote index g ∧ NoRange s.low s.high fault) ∨ sh.slots.leftAt index = .error fault := by
  obtain ⟨limit, sum, -⟩ := groups.below
  constructor
  · intro halts
    cases halts with
    | sum _ rest group apart => exact absurd apart (not_apart valid shaped sum rest group)
    | note asks none => exact .inl ⟨asks, none⟩
    | room _ lost => exact .inr lost
    | run repeats | cut repeats => exact absurd repeats.notes groups.not_notes
  · rintro (⟨asks, none⟩ | lost)
    · exact .note asks none
    · exact .room groups lost

theorem halts_iff_of_notes (notes : sh.Notes g) :
    s.Halts sh index g fault ↔
      NoRange s.low s.high fault ∨ ∃ run, sh.Repeats g run ∧
        (sh.slots.upTo index).cut 0 run = .error fault := by
  obtain ⟨limit, sum, -⟩ := notes.above
  simp only [Shape.cut_eq_error_iff (valid.isOrdered shaped)]
  constructor
  · intro halts
    cases halts with
    | sum _ rest group apart => exact absurd apart (not_apart valid shaped sum rest group)
    | note _ none => exact .inl none
    | room groups => exact absurd notes groups.not_notes
    | run repeats lost => exact .inr ⟨_, repeats, .inl lost⟩
    | cut repeats left short part => exact .inr ⟨_, repeats, .inr ⟨_, left, short, part, rfl⟩⟩
  · rintro (none | ⟨run, repeats, lost | ⟨rest, left, short, part, rfl⟩⟩)
    · exact .note (.alone notes) none
    · exact .run repeats lost
    · exact .cut repeats left short part

/-- **Which slots fail.** -/
theorem drawAt_eq_error_iff :
    (sh.drawAt index g).1 = .error fault ↔ s.Halts sh index g fault := by
  by_cases sings : sh.Sings g
  case neg =>
    rw [Shape.drawAt_of_rests index sings]
    exact iff_of_false nofun fun halts => sings halts.sings
  cases sum : sh.restOrGroup with
  | error cause =>
      rw [halts_iff_of_unsummed valid shaped sings sum, Shape.drawAt_of_sings index sings, sum]
      exact ⟨fun failed => (Except.error.inj failed).symm, fun same => same ▸ rfl⟩
  | ok limit =>
      rcases Shape.groups_or_notes sings sum with groups | notes
      · rw [halts_iff_of_groups valid shaped groups,
          Shape.drawAt_eq_error_iff_of_groups (valid.isOrdered shaped) groups,
          notes_eq_error_iff shaped]
      · rw [Shape.drawAt_of_notes index notes, halts_iff_of_notes valid shaped notes,
          Shape.drawNoteRun_eq_error_iff notes, notes_eq_error_iff shaped]

end Slots

/-! ## Failing sequences -/

/-- How the slots from an index on fail: the first slot that fails is reached. -/
inductive Fails (s : RandomSettings) (sh : Shape) : Nat → Twister → Fault → Prop
  | here {index : Nat} {g : Twister} {fault : Fault} (inside : sh.slots.Holds index)
      (halts : s.Halts sh index g fault) : Fails s sh index g fault
  | later {index filled : Nat} {g next : Twister} {fault : Fault} {piece : List Step}
      (inside : sh.slots.Holds index) (drawn : sh.drawAt index g = (.ok (piece, filled), next))
      (fails : Fails s sh (index + max 1 filled) next fault) : Fails s sh index g fault

theorem not_fails (outside : ¬sh.slots.Holds index) : ¬s.Fails sh index g fault := by
  intro fails
  cases fails with
  | here inside | later inside => exact outside inside

section Sequences

variable (valid : s.Valid) (shaped : Shape.ofSettings s = .ok sh)
include valid shaped

/-- A slot fails by itself or gives way to the next one. -/
theorem fails_iff (inside : sh.slots.Holds index) :
    s.Fails sh index g fault ↔ match sh.drawAt index g with
      | (.error cause, _) => cause = fault
      | (.ok (_, filled), next) => s.Fails sh (index + max 1 filled) next fault := by
  have slot : (sh.drawAt index g).1 = .error fault ↔ s.Halts sh index g fault :=
    drawAt_eq_error_iff valid shaped
  rcases drawn : sh.drawAt index g with ⟨cause | ⟨piece, filled⟩, next⟩
  · rw [drawn, Except.error.injEq] at slot
    refine ⟨fun fails => ?_, fun same => .here inside (slot.1 same)⟩
    cases fails with
    | here _ halts => exact slot.2 halts
    | later _ other => cases drawn.symm.trans other
  · rw [drawn] at slot
    refine ⟨fun fails => ?_, .later inside drawn⟩
    cases fails with
    | here _ halts => cases slot.2 halts
    | later _ same fails =>
        cases drawn.symm.trans same
        exact fails

theorem fill_eq_error_iff (ends : sh.slots.isEndless = false) {done : Array Step} {left : Nat}
    (within : left ≤ sh.slots.count) :
    (sh.fill done left g).1 = .error fault ↔ s.Fails sh (sh.slots.count - left) g fault := by
  fun_induction Shape.fill sh done left g with
  | case1 done g =>
      refine iff_of_false (fun failed => ?_) (not_fails (by simp [Slots.Holds, ends]))
      cases failed
  | case2 done left g some_ cause next failed =>
      have inside : sh.slots.Holds (sh.slots.count - left) := .inr (by omega)
      rw [Shape.drawSlot_eq_drawAt within] at failed
      rw [fails_iff valid shaped inside, failed, Except.error.injEq]
  | case3 done left g some_ piece filled next drawn ih =>
      have inside : sh.slots.Holds (sh.slots.count - left) := .inr (by omega)
      rw [Shape.drawSlot_eq_drawAt within] at drawn
      rw [fails_iff valid shaped inside, drawn, ih (by omega)]
      by_cases short : max 1 filled ≤ left
      · rw [show sh.slots.count - (left - max 1 filled) = sh.slots.count - left + max 1 filled by
          omega]
      · -- The slot fills more than is left, and both indices are at the end.
        have outside {index : Nat} (past : sh.slots.count ≤ index) : ¬sh.slots.Holds index := by
          simp [Slots.Holds, ends, past]
        exact iff_of_false (not_fails (outside (by omega))) (not_fails (outside (by omega)))

theorem stop?_eq_some_iff (endless : sh.slots.isEndless = true) :
    (∃ later, sh.stop? index g = some (fault, later)) ↔ s.Fails sh index g fault := by
  constructor
  · rintro ⟨later, stopped⟩
    refine Shape.stop?.partial_correctness sh (fun index g r => s.Fails sh index g r.1) ?_
      _ _ _ stopped
    intro stop? ih index g r stopped
    rw [fails_iff valid shaped (.inl endless)]
    rcases drawn : sh.drawAt index g with ⟨cause | ⟨piece, filled⟩, next⟩ <;> rw [drawn] at stopped
    · cases stopped
      rfl
    · exact ih _ _ _ stopped
  · intro fails
    induction fails with
    | @here index g fault inside halts =>
        have failed := (drawAt_eq_error_iff valid shaped).2 halts
        rw [Shape.stop?]
        rcases drawn : sh.drawAt index g with ⟨cause | piece, next⟩
        · rw [drawn] at failed
          cases failed
          exact ⟨next, rfl⟩
        · rw [drawn] at failed
          cases failed
    | later inside drawn fails ih =>
        rw [Shape.stop?, drawn]
        exact ih

/-- **How a drawing fails**: at the first slot that does, or for want of an end. -/
theorem draw_eq_error_iff :
    (sh.draw g).1 = .error fault ↔
      s.Fails sh 0 g fault ∨
      (sh.slots.isEndless = true ∧ (∀ cause, ¬s.Fails sh 0 g cause) ∧ fault = .endless) := by
  unfold Shape.draw
  split
  case isTrue endless =>
    have stops {cause : Fault} :
        (∃ later, sh.stop? 0 g = some (cause, later)) ↔ s.Fails sh 0 g cause :=
      stop?_eq_some_iff valid shaped endless
    cases stopped : sh.stop? 0 g with
    | some found =>
        obtain ⟨cause, later⟩ := found
        have fails := stops.1 ⟨later, stopped⟩
        rw [or_iff_left fun never => never.2.1 cause fails, ← stops, stopped]
        simp
    | none =>
        have never (cause : Fault) : ¬s.Fails sh 0 g cause := by
          rw [← stops, stopped]
          nofun
        rw [or_iff_right (never fault), and_iff_right endless, and_iff_right never]
        exact ⟨fun failed => (Except.error.inj failed).symm, fun same => same ▸ rfl⟩
  case isFalse ends =>
    rw [Bool.not_eq_true] at ends
    rw [fill_eq_error_iff valid shaped ends le_rfl, Nat.sub_self, ends]
    simp

end Sequences

end RandomSettings

end StepPattern
