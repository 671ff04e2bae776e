/-
# StepPattern.Transform -- the transforms of sequences

Transforms of values act on every note and leave all else in place; transforms of
order and length move, copy or interleave items whatever they are; two transforms
draw from a random source.

| name | parameter | effect |
|---|---|---|
| scramble | none | a random order |
| invert | required | note to `2 * p - note` |
| scale | required | note to `note * p` |
| offset | required | note to `note + p` |
| mirror | none | the sequence, then back without repeating its last item |
| repeat | required | every item `p` times in a row |
| quantize | required | note to the nearest multiple of `p`, halves up |
| reverse | none | the sequence backwards |
| rotate | 1 if absent | left by `p` places, wrapping around |
| sparse | 50 if absent | each note becomes a rest with `p` percent probability |
| interleave | none | a rest after every item |
-/
import StepPattern.Random.Draw
import StepPattern.Value

namespace StepPattern

set_option autoImplicit false

/-- A sequence: mostly notes and rests, and whatever registered functions put in. -/
abbrev Sequence := List Value

/-- The most steps a sequence may have. -/
def maxSteps : Nat := 1000000

def maxCopies : Nat := 4096

def Value.mapNote (f : Int → Int) : Value → Value
  | .note n => .note (f n)
  | v => v

namespace Transform

/-! ## Values -/

def mapNotes (f : Int → Int) (s : Sequence) : Sequence :=
  s.map (Value.mapNote f)

@[simp]
theorem length_mapNotes (f : Int → Int) (s : Sequence) : (mapNotes f s).length = s.length :=
  List.length_map _

def invert (pivot : Int) : Sequence → Sequence :=
  mapNotes fun n => 2 * pivot - n

def scale (factor : Int) : Sequence → Sequence :=
  mapNotes fun n => n * factor

def offset (distance : Int) : Sequence → Sequence :=
  mapNotes fun n => n + distance

/-- The multiple of a positive grid that is nearest to a note, a half going up. -/
def snap (grid : Nat) (n : Int) : Int :=
  ((2 * n + grid).fdiv (2 * grid)) * grid

def quantize (grid : Int) (s : Sequence) : Except Fault Sequence :=
  if grid = 0 then .error (.pattern .gridZero)
  else .ok (mapNotes (snap grid.natAbs) s)

/-! ### Loose parameters

A note holds an integer, so with a parameter that is none a transform of values leaves a sequence
without notes as it is and fails on any other.  The first fault of its arithmetic is then the reason;
where there is none, the number that would be the note is of the wrong kind. -/

def noteValues (s : Sequence) : List Int :=
  s.filterMap fun
    | .note n => some n
    | _ => none

/-- A sequence under a transform of values that can be computed on its notes, but not kept. -/
def withoutNotes (compute : Int → Except Fault Unit) (s : Sequence) : Except Fault Sequence :=
  match noteValues s with
  | [] => .ok s
  | notes => do
      notes.forM compute
      throw .wrongKind

/-- A transform of values called with a loose parameter; `compute` is its arithmetic on a parameter
and a note. -/
def valuewise (f : Int → Sequence → Sequence) (compute : Number → Int → Except Fault Number)
    (param : Value) (s : Sequence) : Except Fault Sequence :=
  match param.integer?, param.number? with
  | some p, _ => .ok (f p s)
  | none, some p => withoutNotes (fun n => discard (compute p n)) s
  | none, none => withoutNotes (fun _ => .ok ()) s

/-- Every note reflected around a loose pivot. -/
def invertBy : Value → Sequence → Except Fault Sequence :=
  valuewise invert fun pivot n => do (← pivot.times 2).add (.int (-n))

def scaleBy : Value → Sequence → Except Fault Sequence :=
  valuewise scale fun factor n => factor.times n.natAbs

def offsetBy : Value → Sequence → Except Fault Sequence :=
  valuewise offset fun distance n => distance.add (.int n)

/-- The arithmetic that snaps a note to a grid. -/
def snapBy (grid : Number) (n : Int) : Except Fault Unit :=
  match grid with
  | .decimal d => do
      let sum ← d.magnitude.add (.ofInt (2 * n))
      let width ← d.magnitude.times 2
      unless sum.hasQuotient width do throw .undefined
  | grid => discard (grid.add (.int (2 * n)))

/-- Every note at the nearest multiple of a loose grid, which must be a number other than zero. -/
def quantizeBy (grid : Value) (s : Sequence) : Except Fault Sequence :=
  match grid.number? with
  | none => .error .wrongKind
  | some (.int p) => quantize p s
  | some n =>
      if n.isSignaling then .error .undefined
      else if n.equal (.int 0) then .error (.pattern .gridZero)
      else withoutNotes (snapBy n) s

/-! ## Order and length -/

/-- The sequence, then back to its first item without repeating the last. -/
def mirror (s : Sequence) : Sequence :=
  s ++ s.dropLast.reverse

def tooManyCopies : Fault :=
  .pattern (.repeatTooLarge maxCopies maxSteps)

/-- Every item several times in a row; none at all for a count below one. -/
def copies (count : Int) (s : Sequence) : Except Fault Sequence :=
  if count > maxCopies ∨ s.length * count > maxSteps then .error tooManyCopies
  else .ok (s.flatMap fun v => List.replicate count.toNat v)

/-- Whether a count of copies is beyond the limits for a sequence of some length. -/
def exceedsCopies (count : Number) (length : Nat) : Except Fault Bool := do
  if ← (Number.int maxCopies).lt count then return true
  (Number.int maxSteps).lt (← count.times length)

/-- Every item several times in a row, as often as a loose count says.  A count that is no integer
is held to the limits too, but only an empty sequence can be copied by it. -/
def copiesBy (count : Value) (s : Sequence) : Except Fault Sequence :=
  match count.number? with
  | none => .error .wrongKind
  | some (.int n) => copies n s
  | some n =>
      match exceedsCopies n s.length with
      | .error fault => .error fault
      | .ok true => .error tooManyCopies
      | .ok false => if s.isEmpty then .ok [] else .error .wrongKind

def rotate (places : Int) (s : Sequence) : Sequence :=
  if s.length ≤ 1 then s
  else
    let shift := (places.emod s.length).toNat
    s.drop shift ++ s.take shift

/-- Why a sequence of some length cannot be rotated by a value that is no integer. -/
def rotationFault (places : Value) (length : Nat) : Fault :=
  match places with
  | .decimal d => if d.hasRemainder length then .wrongKind else .undefined
  | _ => .wrongKind

/-- The sequence rotated by a loose number of places, which must be an integer if there is anything
to rotate. -/
def rotateBy (places : Value) (s : Sequence) : Except Fault Sequence :=
  match places.integer? with
  | some p => .ok (rotate p s)
  | none => if s.length ≤ 1 then .ok s else .error (rotationFault places s.length)

def interleave (s : Sequence) : Sequence :=
  s.flatMap fun v => [v, .rest]

@[simp]
theorem length_interleave (s : Sequence) : (interleave s).length = 2 * s.length := by
  induction s with
  | nil => rfl
  | cons v s ih =>
      rw [interleave, List.flatMap_cons, List.length_append, ← interleave, ih, List.length_cons,
        List.length_cons, List.length_cons, List.length_nil]
      omega

/-! ## Chance -/

/-- A percentage as a probability: a number that is no double yet is rounded to one first, and the
hundredth is rounded again. -/
def probability (percent : Value) : Except Fault Double := do
  return (← (← percent.number).toDouble).divNat 100

/-- Each note turned into a rest if its draw is below the probability, in order; `done` holds
what is done so far, the last item first. -/
def thin (p : Double) : List Value → Sequence → Twister → Sequence × Twister
  | done, [], g => (done.reverse, g)
  | done, .note n :: s, g =>
      let (draw, g) := g.numerator
      thin p ((if Twister.isBelowDouble draw p then .rest else .note n) :: done) s g
  | done, v :: s, g => thin p (v :: done) s g

/-- Each note turned into a rest with a percentage for its probability. -/
def sparse (percent : Value) (s : Sequence) (g : Twister) : Except Fault Sequence × Twister :=
  match probability percent with
  | .error fault => (.error fault, g)
  | .ok p =>
      let (thinned, g) := thin p [] s g
      (.ok thinned, g)

def scramble (s : Sequence) (g : Twister) : Sequence × Twister :=
  g.shuffle s

end Transform

end StepPattern
