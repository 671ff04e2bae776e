/-
# StepPattern.Normal -- loose values as steps, and steps as text

`normalize` reads every value as a step: steps stay, whole numbers become notes,
other finite numbers are cut to whole ones, texts are read as numerals, and all
the rest is a rest.  The only values it refuses are fractions that no double can
hold.  `stringify` writes the steps as words with a space between neighbours.
-/
import StepPattern.Text.Blank
import StepPattern.Value.Shown

namespace StepPattern

set_option autoImplicit false

/-- A rational cut to a whole number, toward zero. -/
def truncate (q : Rat) : Int :=
  q.num.tdiv q.den

namespace Step

/-- The step that a text stands for: a numeral within the digit limit that is not the rest symbol
is a note, anything else a rest. -/
def ofText (restSymbol t : Text) : Step :=
  let word := Text.strip t
  if word = restSymbol then .rest
  else match Text.numeralValue? word with
    | some n => .note n
    | none => .rest

/-- The step that a loose value stands for. -/
def ofValue (restSymbol : Text) : Value → Except Fault Step
  | .note n => .ok (.note n)
  | .int n => .ok (.note n)
  | .double d => .ok ((d.toRat?.map fun q => .note (truncate q)).getD .rest)
  | .fraction q => do
      let _ ← Number.doubleOf q
      return .note (truncate q)
  | .text t => .ok (ofText restSymbol t)
  | _ => .ok .rest

def word? (restSymbol : Text) : Step → Option Text
  | .note n => Text.numeral? n
  | .rest => some restSymbol

end Step

/-- The items of a value that has any: a text has its characters, a mapping its keys. -/
def Value.items : Value → Except Fault (List Value)
  | .list items => .ok items
  | .text t => .ok (t.map fun c => .text [c])
  | .bytes octets => .ok (octets.map fun octet => .int octet.toNat)
  | .dict entries => .ok (entries.map (·.1))
  | _ => .error .wrongKind

/-- Loose values as steps, as far as they are read; `done` holds the steps so far, the last one
first. -/
def normalizeFrom (restSymbol : Text) : List Step → List Value → Except Fault (List Step)
  | done, [] => .ok done.reverse
  | done, v :: vs =>
      match Step.ofValue restSymbol v with
      | .ok step => normalizeFrom restSymbol (step :: done) vs
      | .error fault => .error fault

def normalize (restSymbol : Text) (values : List Value) : Except Fault (List Step) :=
  normalizeFrom restSymbol [] values

/-- The words of steps; `done` holds the words so far, the last one first. -/
def wordsFrom (restSymbol : Text) : List Text → List Step → Except Fault (List Text)
  | done, [] => .ok done.reverse
  | done, step :: steps =>
      match step.word? restSymbol with
      | some word => wordsFrom restSymbol (word :: done) steps
      | none => .error Value.overLimit

/-- Steps as text, a space between neighbours. -/
def writeSteps (restSymbol : Text) (steps : List Step) : Except Fault Text :=
  (wordsFrom restSymbol [] steps).map (Text.join [' '])

/-- Loose values as the text of their steps. -/
def stringify (restSymbol : Text) (values : List Value) : Except Fault Text := do
  writeSteps restSymbol (← normalize restSymbol values)

end StepPattern
