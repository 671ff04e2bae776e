/-
# StepPattern.Composer -- pattern texts made at random

A composer writes pattern text: templates of named styles, random segments, and
sections that wrap a segment in a repeated group or a transform.  All of it is
text that compiles under the composer's rest symbol.
-/
import StepPattern.Chance.RandomSteps
import StepPattern.Chance.Weighted

namespace StepPattern

set_option autoImplicit false

/-- A drawing of text, which may fail and leaves the source it drew from. -/
abbrev Drawing := Twister → Except Fault Text × Twister

/-- What a drawing that was chosen gives with the source that is left. -/
def Drawing.chosen : Except Fault Drawing × Twister → Except Fault Text × Twister
  | (.error fault, g) => (.error fault, g)
  | (.ok drawing, g) => drawing g

/-- Texts drawn one after the other, with a space between neighbours; `done` holds those so far, the
last one first. -/
def Drawing.rowFrom (drawing : Drawing) : List Text → Nat → Drawing
  | done, 0, g => (.ok (Text.join [' '] done.reverse), g)
  | done, count + 1, g =>
      match drawing g with
      | (.error fault, g) => (.error fault, g)
      | (.ok text, g) => drawing.rowFrom (text :: done) count g

/-- The templates of a style. -/
structure Style where
  name : String
  first : String
  others : List String

namespace Style

/-- The styles that have templates. -/
def all : List Style :=
  [{ name := "dnb"
     first := "[1 - - - - - 1 -]*2"
     others := [
       "[- - 1 - - 1 - -]*2",
       "[1 - - 1 - 1 - -]*2",
       "1 - - - - - 1 - - - - - 1 - - -",
       "- - - - 1 - - - - - - - 1 - - -",
       "[1 -]*8"] },
    { name := "house"
      first := "[1 - - -]*4"
      others := [
        "[1 - - - 1 - - -]*2",
        "[- 1 - 1]*4",
        "[- 1]*8",
        "[- - 1 - - - 1 -]*2"] },
    { name := "minimal"
      first := "[1 - - - - - - -]*2"
      others := [
        "1 - - - - - - - 2 - - - - - - -",
        "[- - 1 - - - - -]*4",
        "1 - - - 1 - - - - - 1 - - - - -"] },
    { name := "glitch"
      first := "1 - 3 - - 2 - - 1 - - - 5 - 2 -"
      others := [
        "scramble[1 2 3 4 5 6 7 8]",
        "1 - - 1 - 1 - - - 1 - - 1 - 1 -",
        "rotate3[1 - 2 - 3 - 4 -]"] }]

/-- The style of a name, in whatever case it is written. -/
def find? (name : Text) : Option Style :=
  all.find? fun style => style.name.toList = name.map Char.toLower

end Style

def sectionTransforms : String × List String :=
  ("invert5", ["scale2", "offset3", "mirror", "repeat2", "quantize5", "reverse", "rotate1"])

/-- A writer of pattern text with a rest symbol. -/
structure Composer where
  restSymbol : Text

namespace Composer

def writeShape (c : Composer) (shape : Except Fault Shape) : Drawing := fun g =>
  match shape with
  | .error fault => (.error fault, g)
  | .ok shape =>
      let (steps, g) := shape.draw g
      (steps.bind (writeSteps c.restSymbol), g)

/-- A short random text without groups. -/
def segment (c : Composer) (length : Nat) (restChance repeatChance : Value) : Drawing :=
  c.writeShape (Shape.ofSettings
    { RandomSettings.default with
      length := .int length
      rest := restChance
      group := .double (.finite 0)
      repetition := repeatChance })

def bracketed (t : Text) : Text :=
  '[' :: t ++ [']']

def repeated (t : Text) (count : Nat) : Text :=
  bracketed t ++ '*' :: Nat.toDigits 10 count

/-- A random text wrapped as a repeated group. -/
def asGroup (drawing : Drawing) : Drawing := fun g =>
  match drawing g with
  | (.error fault, g) => (.error fault, g)
  | (.ok text, g) =>
      let (count, g) := g.between 2 4
      (.ok (repeated text count), g)

/-- A random text wrapped in a transform. -/
def asCall (name : Text) (drawing : Drawing) : Drawing := fun g =>
  match drawing g with
  | (.error fault, g) => (.error fault, g)
  | (.ok text, g) => (.ok (name ++ bracketed text), g)

/-- The probability that a simple section stays plain: the double nearest to seven tenths. -/
def plainChance : Rat :=
  ((Double.round (7 / 10)).toRat?).getD 0

/-- A segment of 2 to 5 slots, sometimes as a repeated group. -/
def simpleSection (c : Composer) : Drawing := fun g =>
  let (length, g) := g.between 2 5
  match c.segment length (RandomSettings.tenths 3) (RandomSettings.tenths 4) g with
  | (.error fault, g) => (.error fault, g)
  | (.ok text, g) =>
      let (roll, g) := g.numerator
      if Twister.isAbove roll plainChance then
        asGroup (fun g => (.ok text, g)) g
      else (.ok text, g)

/-- A segment of 2 to 4 slots as a repeated group. -/
def groupedSection (c : Composer) : Drawing := fun g =>
  let (length, g) := g.between 2 4
  asGroup (c.segment length (RandomSettings.tenths 2) (RandomSettings.tenths 2)) g

/-- A segment of 3 to 6 slots inside a transform. -/
def transformSection (c : Composer) : Drawing := fun g =>
  let (transform, g) := g.choose sectionTransforms.1 sectionTransforms.2
  let (length, g) := g.between 3 6
  asCall transform.toList (c.segment length (RandomSettings.tenths 2) (RandomSettings.tenths 2)) g

def sections (c : Composer) : Weighted Drawing :=
  [(c.simpleSection, RandomSettings.tenths 3), (c.groupedSection, RandomSettings.tenths 3),
    (c.transformSection, RandomSettings.tenths 4)]

def anySection (c : Composer) : Drawing := fun g =>
  Drawing.chosen (c.sections.choose g)

/-- As many sections as a value says: an integer or a truth value. -/
def complex (c : Composer) (count : Value) : Drawing := fun g =>
  match count.number? with
  | some (.int n) => c.anySection.rowFrom [] n.toNat g
  | _ => (.error .wrongKind, g)

/-- The settings of a simple pattern, where none is given. -/
def simpleSettings : RandomSettings :=
  { RandomSettings.default with
    rest := RandomSettings.tenths 4, repetition := RandomSettings.tenths 3 }

def simple (c : Composer) (fields : Fields) : Drawing := fun g =>
  let schema := RandomSettings.schema
  match schema.unknown (fields.map (·.1)) with
  | [] =>
      let settings := schema.build
        (schema.effective (simpleSettings.fields.override fields))
      c.writeShape (settings.bind Shape.ofSettings) g
  | _ => (.error .wrongKind, g)

/-- A template of a style, or a segment of 8 slots for a name that is no style, as no bytes are. -/
def styled (c : Composer) (name : Value) : Drawing := fun g =>
  match name with
  | .text name =>
      match Style.find? name with
      | none => c.segment 8 (RandomSettings.tenths 3) (RandomSettings.tenths 4) g
      | some style =>
          let (template, g) := g.choose style.first style.others
          (.ok (Text.replaceChar '-' c.restSymbol template.toList), g)
  | .bytes _ => c.segment 8 (RandomSettings.tenths 3) (RandomSettings.tenths 4) g
  | _ => (.error .noPart, g)

/-- A text by name: a style, `complex`, or a simple one for any other name, bytes included. -/
def byName (c : Composer) (name : Value) : Drawing := fun g =>
  match name with
  | .text t =>
      if (Style.find? t).isSome then c.styled name g
      else if t = "complex".toList then c.complex (.int 3) g
      else c.simple [] g
  | .bytes _ => c.simple [] g
  | _ => (.error .noPart, g)

end Composer

end StepPattern
