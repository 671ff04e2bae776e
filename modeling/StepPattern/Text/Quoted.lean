/-
# StepPattern.Text.Quoted -- text between quotation marks

Messages show a text between single quotation marks, or between double ones when
it holds a single and no double one.  The mark itself and the backslash are
escaped by a backslash, the three usual control characters have short escapes,
and every other character that is not printable is written by its code point in
two, four or eight hexadecimal digits.
-/
import StepPattern.Text.Printable

namespace StepPattern.Text

set_option autoImplicit false

/-- The last `width` hexadecimal digits of a number, in lower case. -/
def hexDigits : Nat → Nat → Text
  | 0, _ => []
  | width + 1, n => hexDigits width (n / 16) ++ [(n % 16).digitChar]

/-- The mark that encloses a text: double only if the text needs it. -/
def quotationMark (t : Text) : Char :=
  if t.contains '\'' && !t.contains '"' then '"' else '\''

/-- An escape by code point, as short as the code point allows. -/
def escapeCode (n : Nat) : Text :=
  if n < 0x100 then ['\\', 'x'] ++ hexDigits 2 n
  else if n < 0x10000 then ['\\', 'u'] ++ hexDigits 4 n
  else ['\\', 'U'] ++ hexDigits 8 n

/-- One character of a quoted text; `shown` tells which characters stand for themselves. -/
def quoteChar (shown : Char → Bool) (mark c : Char) : Text :=
  if c = mark ∨ c = '\\' then ['\\', c]
  else if c = '\n' then ['\\', 'n']
  else if c = '\r' then ['\\', 'r']
  else if c = '\t' then ['\\', 't']
  else if shown c then [c]
  else escapeCode c.toNat

/-- A text between quotation marks, with escapes. -/
def quoteWith (shown : Char → Bool) (t : Text) : Text :=
  let mark := quotationMark t
  mark :: t.flatMap (quoteChar shown mark) ++ [mark]

/-- A text as messages show it. -/
def quote (t : Text) : Text :=
  quoteWith isPrintable t

/-- A string of bytes as messages show it: only printable ASCII stands for itself. -/
def quoteBytes (bytes : List UInt8) : Text :=
  'b' :: quoteWith (fun c => 32 ≤ c.toNat && c.toNat < 127)
    (bytes.map fun byte => Char.ofNat byte.toNat)

end StepPattern.Text
