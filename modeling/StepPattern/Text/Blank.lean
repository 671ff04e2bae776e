/-
# StepPattern.Text.Blank -- whitespace

Whitespace is every character that separates words: the blanks and line breaks
of Unicode, and the four information separators of ASCII.
-/
import StepPattern.Text.Basic

namespace StepPattern.Text

set_option autoImplicit false

/-- The ranges of code points, both ends included, that are whitespace. -/
def blankRanges : List (Nat × Nat) :=
  [(0x09, 0x0D), (0x1C, 0x20), (0x85, 0x85), (0xA0, 0xA0), (0x1680, 0x1680), (0x2000, 0x200A),
    (0x2028, 0x2029), (0x202F, 0x202F), (0x205F, 0x205F), (0x3000, 0x3000)]

def isBlank (c : Char) : Bool :=
  blankRanges.any fun range => range.1 ≤ c.toNat && c.toNat ≤ range.2

/-- A text without the characters of a class at its two ends. -/
def stripBy (p : Char → Bool) (t : Text) : Text :=
  ((t.dropWhile p).reverse.dropWhile p).reverse

def strip (t : Text) : Text :=
  stripBy isBlank t

end StepPattern.Text
