/-
# StepPattern.Chance.RandomSteps -- random sequences

A random sequence fills a number of slots.  Each slot is a rest, a group or a note,
decided by one fraction against the two probabilities for rests and groups:

* a group is 2 to 4 random steps and fills as many slots.  It is only made where
  more than three slots are left, and else becomes a single note.  With the
  probability of repetition it is written 2 to 4 times, which fills no more slots;
* a note, with the probability of repetition, is written 2 to 4 times and fills as
  many slots, but no more than are left.

A length that is no integer leaves a last slot that is not whole; a repeated note
that would have to be cut to it cannot be written.  What is left of a length is
computed in the arithmetic of its kind.  A length without end is filled until a draw
fails, or for ever.
-/
import StepPattern.Normal
import StepPattern.Random.Draw
import StepPattern.Settings.Given
import StepPattern.Settings.Random

namespace StepPattern

set_option autoImplicit false

def minRun : Nat := 2

def maxRun : Nat := 4

/-- The length of a sequence, and the number of slots that it makes, a last one that is not whole
included.  A length without end makes them as they are filled. -/
structure Slots where
  length : Number
  count : Nat
  deriving DecidableEq, Repr

/-- What decides a random sequence: its slots, the lowest note and the number of notes, the
probability of a rest, that of a rest or a group, and that of a repetition. -/
structure Shape where
  slots : Slots
  notes : Except Fault (Int × Nat)
  rest : Rat
  restOrGroup : Except Fault Rat
  repetition : Rat

namespace Slots

def ofLength (length : Value) : Except Fault Slots := do
  match ← length.number with
  | .int n => return { length := .int n, count := n.toNat }
  | length =>
      match length.toRat? with
      | some q => return { length, count := q.ceil.toNat }
      | none => return { length, count := 0 }

def isEndless (s : Slots) : Bool :=
  s.length.point? = some .top

/-- The slots up to an index. -/
def upTo (s : Slots) (index : Nat) : Slots :=
  { s with count := index }

/-- What is left of the length when `left` slots are. -/
def remaining (s : Slots) (left : Nat) : Except Fault Number :=
  s.length.add (.int (left - s.count))

/-- Whether there is room for a group where `left` slots are left. -/
def hasRoom (s : Slots) (left : Nat) : Except Fault Bool := do
  (Number.int 3).lt (← s.remaining left)

/-- A run cut to what is left, if it can be: only to an integer. -/
def cut (s : Slots) (left run : Nat) : Except Fault Nat := do
  let remaining ← s.remaining left
  if ← remaining.lt (.int run) then
    match remaining with
    | .int n => return n.toNat
    | _ => throw .wrongKind
  else return run

end Slots

namespace Shape

/-- A bound as an integer; `refusal` is the complaint about one that is not whole. -/
def wholeBound (refusal : SettingError) : Number → Except Fault Int
  | .int n => .ok n
  | n =>
      match n.toRat?, n.point? with
      | some q, _ => if q.den = 1 then .ok q.num else .error (.setting refusal)
      | none, none => .error (.setting .boundNotNumber)
      | none, some _ => .error .tooLarge

/-- The refusal of a range without integers, if the digit limit allows its message. -/
def emptyRange (low stop : Int) : Fault :=
  if (Text.numeral? low).isSome && (Text.numeral? stop).isSome
      && (Text.numeral? (stop - low)).isSome then
    .setting (.rangeEmpty low stop)
  else Value.overLimit

/-- The lowest note and the number of notes between two bounds. -/
def noteRange (low high : Value) : Except Fault (Int × Nat) := do
  let stop ← (← high.number).add (.int 1)
  let low ← wholeBound .lowNotWhole (← low.number)
  let stop ← wholeBound .highNotWhole stop
  if low < stop then return (low, (stop - low).toNat)
  throw (emptyRange low stop)

def probability (v : Value) : Rat :=
  ((v.number?.bind Number.toRat?).getD 0)

/-- The sum of two probabilities, rounded if one of them is a double. -/
def probabilitySum (a b : Value) : Except Fault Rat := do
  return ((← (← a.number).add (← b.number)).toRat?).getD 0

/-- The shape that settings describe. -/
def ofSettings (s : RandomSettings) : Except Fault Shape := do
  let slots ← Slots.ofLength s.length
  return {
    slots
    notes := noteRange s.low s.high
    rest := probability s.rest
    restOrGroup := probabilitySum s.rest s.group
    repetition := probability s.repetition }

/-! ## Drawing -/

def drawNote (sh : Shape) (g : Twister) : Except Fault Step × Twister :=
  match sh.notes with
  | .error fault => (.error fault, g)
  | .ok (low, width) =>
      let (n, g) := g.within low width
      (.ok (.note n), g)

def drawStep (sh : Shape) (g : Twister) : Except Fault Step × Twister :=
  let (roll, g) := g.numerator
  if Twister.isBelow roll sh.rest then (.ok .rest, g) else sh.drawNote g

def drawSteps (sh : Shape) : Nat → Twister → Except Fault (List Step) × Twister
  | 0, g => (.ok [], g)
  | count + 1, g =>
      match sh.drawStep g with
      | (.error fault, g) => (.error fault, g)
      | (.ok step, g) =>
          let (steps, g) := sh.drawSteps count g
          (steps.map (step :: ·), g)

def drawRun (g : Twister) : Nat × Twister :=
  g.between minRun maxRun

/-- How often something is written: once, or with the probability of repetition a run. -/
def drawRepeats (sh : Shape) (g : Twister) : Nat × Twister :=
  let (roll, g) := g.numerator
  if Twister.isBelow roll sh.repetition then drawRun g else (1, g)

/-- A note, repeated or not, that fills as many of the slots that are left. -/
def drawNoteRun (sh : Shape) (left : Nat) (g : Twister) :
    Except Fault (List Step × Nat) × Twister :=
  match sh.drawNote g with
  | (.error fault, g) => (.error fault, g)
  | (.ok note, g) =>
      let (roll, g) := g.numerator
      if Twister.isBelow roll sh.repetition then
        let (run, g) := drawRun g
        ((sh.slots.cut left run).map fun repeats => (List.replicate repeats note, repeats), g)
      else (.ok ([note], 1), g)

/-- A group, repeated or not, that fills as many slots as it has steps. -/
def drawGroup (sh : Shape) (g : Twister) : Except Fault (List Step × Nat) × Twister :=
  let (size, g) := drawRun g
  match sh.drawSteps size g with
  | (.error fault, g) => (.error fault, g)
  | (.ok group, g) =>
      let (repeats, g) := sh.drawRepeats g
      (.ok ((List.replicate repeats group).flatten, size), g)

/-- What the next slot starts: the steps written and the slots filled. -/
def drawSlot (sh : Shape) (left : Nat) (g : Twister) : Except Fault (List Step × Nat) × Twister :=
  let (roll, g) := g.numerator
  if Twister.isBelow roll sh.rest then (.ok ([.rest], 1), g)
  else match sh.restOrGroup with
    | .error fault => (.error fault, g)
    | .ok limit =>
        if Twister.isBelow roll limit then
          match sh.slots.hasRoom left with
          | .error fault => (.error fault, g)
          | .ok true => sh.drawGroup g
          | .ok false =>
              let (note, g) := sh.drawNote g
              (note.map fun note => ([note], 1), g)
        else sh.drawNoteRun left g

/-- The steps that fill the slots left; `done` holds the steps so far. -/
def fill (sh : Shape) (done : Array Step) (left : Nat) (g : Twister) :
    Except Fault (List Step) × Twister :=
  if left = 0 then (.ok done.toList, g)
  else match sh.drawSlot left g with
    | (.error fault, g) => (.error fault, g)
    | (.ok (steps, filled), g) => fill sh (done ++ steps) (left - max 1 filled) g
termination_by left
decreasing_by omega

/-- What the slot at an index starts, all slots before it being filled. -/
def drawAt (sh : Shape) (index : Nat) : Twister → Except Fault (List Step × Nat) × Twister :=
  { sh with slots := sh.slots.upTo index }.drawSlot 0

/-- The first fault of the slots from an index on, and the source then: it never comes where no slot
has one. -/
def stop? (sh : Shape) (index : Nat) (g : Twister) : Option (Fault × Twister) :=
  match sh.drawAt index g with
  | (.error fault, g) => some (fault, g)
  | (.ok (_, filled), g) => sh |>.stop? (index + max 1 filled) g
partial_fixpoint

def draw (sh : Shape) (g : Twister) : Except Fault (List Step) × Twister :=
  if sh.slots.isEndless then
    match sh.stop? 0 g with
    | some (fault, g) => (.error fault, g)
    | none => (.error .endless, g)
  else sh.fill #[] sh.slots.count g

end Shape

/-! ## Requests -/

/-- The settings of a random sequence that are handed over; none at all means the defaults, and
a value that is no mapping has none of the settings. -/
def Given.randomSettings (given : Given RandomSettings) (host : Host := .default) :
    Except Fault RandomSettings :=
  match given with
  | .checked s => .ok s
  | .loose .none => .ok .default
  | .loose (.dict entries) => RandomSettings.schema.ofValue (.dict entries) host
  | .loose _ => .error .noPart

/-- A random sequence, drawn from a source or from the seed of its settings, and the source handed
over as it is left. -/
def randomSteps (given : Given RandomSettings) (source : Option Twister) (host : Host := .default) :
    Except Fault (List Step) × Option Twister :=
  match given.randomSettings host with
  | .error fault => (.error fault, source)
  | .ok s =>
      let start : Except Fault Twister := match source with
        | some g => .ok g
        | none => Twister.ofSeedValue s.seed host
      match start, Shape.ofSettings s with
      | .error fault, _ | _, .error fault => (.error fault, source)
      | .ok g, .ok shape =>
          let (steps, g) := shape.draw g
          (steps, source.map fun _ => g)

end StepPattern
