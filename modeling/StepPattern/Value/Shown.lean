/-
# StepPattern.Value.Shown -- values in messages

A message shows a value in one of two ways: `shown` as it would be written down
(texts quoted, exact numbers by their construction), and `plain` as it reads
(texts as they are, a fraction as a quotient).  Neither exists for a value that
holds an integer beyond the digit limit, or parts that are nested deeper than there
is room for.
-/
import StepPattern.Value

namespace StepPattern.Value

set_option autoImplicit false

open StepPattern.Text

/-- A call as it is written down: a name and arguments in parentheses. -/
def call (name : String) (arguments : List Text) : Text :=
  name.toList ++ '(' :: commaList arguments ++ [')']

/-- The refusal of an integer beyond the digit limit. -/
def overLimit : Fault :=
  .setting (.digitLimit maxDigits)

/-- The end of the room for nested parts. -/
def tooDeep : Fault :=
  .raised "RecursionError"

/-- An integer as text, or the refusal of one that is too long. -/
def numeral (n : Int) : Except Fault Text :=
  match numeral? n with
  | some t => .ok t
  | Option.none => .error overLimit

/-- The room inside a value; without a limit there is always room. -/
def inside : Option Nat → Except Fault (Option Nat)
  | Option.none => .ok Option.none
  | some 0 => .error tooDeep
  | some (room + 1) => .ok (some room)

mutual

/-- A value as it is written down. -/
def shown : Value → (room : Option Nat := Option.none) → Except Fault Text
  | none, _ => .ok "None".toList
  | bool b, _ => .ok (if b then "True".toList else "False".toList)
  | int n, _ => numeral n
  | double d, _ => .ok d.text
  | fraction q, _ => do return call "Fraction" [← numeral q.num, ← numeral q.den]
  | decimal d, _ => .ok (call "Decimal" [quote d.text])
  | bytes octets, _ => .ok (quoteBytes octets)
  | text t, _ => .ok (quote t)
  | note n, _ => do return call "Note" ["value=".toList ++ (← numeral n)]
  | rest, _ => .ok (call "Rest" [])
  | list items, room => do return '[' :: commaList (← shownItems items room) ++ [']']
  | dict entries, room => do
      return '\x7b' :: commaList (← shownEntries entries room) ++ ['\x7d']
termination_by structural v => v

def shownItems : List Value → Option Nat → Except Fault (List Text)
  | [], _ => .ok []
  | v :: vs, room => do return (← shown v (← inside room)) :: (← shownItems vs room)
termination_by structural vs => vs

def shownEntries : List (Value × Value) → Option Nat → Except Fault (List Text)
  | [], _ => .ok []
  | (k, v) :: others, room => do
      let within ← inside room
      return ((← shown k within) ++ [':', ' '] ++ (← shown v within)) :: (← shownEntries others room)
termination_by structural entries => entries

end

/-- A value as it reads. -/
def plain : Value → Except Fault Text
  | text t => .ok t
  | fraction q => do
      let n ← numeral q.num
      let d ← numeral q.den
      return if q.den = 1 then n else n ++ '/' :: d
  | decimal d => .ok d.text
  | v => v.shown

end StepPattern.Value
