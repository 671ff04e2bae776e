/-
# StepPattern.Registry -- the transforms that patterns can call

A registry maps names to definitions: a function, how it takes its parameter, and
the parameter used where an optional one is absent.  It starts with the built-in
transforms; a registration adds a name or replaces what it stood for.
-/
import StepPattern.Call
import StepPattern.Transform
import StepPattern.Value.Shown

namespace StepPattern

set_option autoImplicit false

/-- How a transform takes its parameter. -/
inductive ParameterMode where
  | none
  | required
  | optional
  deriving DecidableEq, Repr

def ParameterMode.ofText? (t : Text) : Option ParameterMode :=
  if t = "none".toList then some .none
  else if t = "required".toList then some .required
  else if t = "optional".toList then some .optional
  else Option.none

/-- What a transform does: it takes a sequence and a parameter, which may be none, may draw, and
gives a sequence or fails. -/
abbrev TransformFunction := Sequence → Value → Twister → Except Fault Sequence × Twister

/-- A registered transform. -/
structure Definition where
  run : TransformFunction
  mode : ParameterMode := .none
  fallback : Value := .none

namespace Definition

def plain (f : Sequence → Sequence) : Definition where
  run s _ g := (.ok (f s), g)

/-- A transform that cannot do without a parameter and draws nothing. -/
def requiring (f : Value → Sequence → Except Fault Sequence) : Definition where
  run s param g := (f param s, g)
  mode := .required

/-- A transform with a parameter of its own where none is given. -/
def defaulting (fallback : Int)
    (f : Value → Sequence → Twister → Except Fault Sequence × Twister) : Definition where
  run s param g := f param s g
  mode := .optional
  fallback := .int fallback

end Definition

/-- Definitions by name; of two with one name the first counts. -/
abbrev Registry := List (Text × Definition)

namespace Registry

def builtin : Registry :=
  [("scramble".toList, { run := fun s _ g =>
      let (shuffled, g) := Transform.scramble s g
      (.ok shuffled, g) }),
    ("invert".toList, .requiring Transform.invertBy),
    ("scale".toList, .requiring Transform.scaleBy),
    ("offset".toList, .requiring Transform.offsetBy),
    ("mirror".toList, .plain Transform.mirror),
    ("repeat".toList, .requiring Transform.copiesBy),
    ("quantize".toList, .requiring Transform.quantizeBy),
    ("reverse".toList, .plain List.reverse),
    ("rotate".toList, .defaulting 1 fun p s g => (Transform.rotateBy p s, g)),
    ("sparse".toList, .defaulting 50 Transform.sparse),
    ("interleave".toList, .plain Transform.interleave)]

def find? (r : Registry) (name : Text) : Option Definition :=
  (List.find? (fun entry => entry.1 = name) r).map (·.2)

theorem mem_of_find? {r : Registry} {name : Text} {d : Definition}
    (found : r.find? name = some d) : (name, d) ∈ r := by
  obtain ⟨entry, hit, rfl⟩ := Option.map_eq_some_iff.1 found
  have named : entry.1 = name := by simpa using List.find?_some hit
  rw [← named]
  exact List.mem_of_find?_eq_some hit

def insert (r : Registry) (name : Text) (d : Definition) : Registry :=
  (name, d) :: List.filter (fun entry => entry.1 ≠ name) r

@[simp]
theorem find?_insert_self (r : Registry) (name : Text) (d : Definition) :
    (r.insert name d).find? name = some d := by
  simp [find?, insert]

/-- A name keeps its definition when another one is defined. -/
theorem find?_insert_of_ne (r : Registry) {name other : Text} (d : Definition)
    (different : other ≠ name) : (r.insert name d).find? other = r.find? other := by
  have reordered : List.find? (fun entry => entry.1 = other)
      (List.filter (fun entry => entry.1 ≠ name) r) =
      List.find? (fun entry => entry.1 = other) r := by
    rw [List.find?_filter]
    congr 1
    funext entry
    by_cases same : entry.1 = other <;> simp [same, different]
  simp only [find?, insert, List.find?_cons, Ne.symm different, decide_false, reordered]

/-- The registry with a transform registered.  Its name must be letters, one final line break
overlooked, and its mode one of the three words. -/
def register (r : Registry) (name : Text) (run : TransformFunction) (mode : Value)
    (fallback : Value) : Except Fault Registry :=
  if !Text.isLetters (Text.dropFinalNewline name) then .error (.setting (.nameNotLetters name))
  else
    let mode? := match mode with
      | .text word => ParameterMode.ofText? word
      | _ => none
    match mode? with
    | some mode => .ok (r.insert name { run, mode, fallback })
    | none => do throw (.setting (.modeUnknown (← mode.shown)))

end Registry

end StepPattern
