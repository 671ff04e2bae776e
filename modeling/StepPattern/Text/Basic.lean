/-
# StepPattern.Text.Basic -- text as a list of characters

Patterns, tokens and symbols are texts: lists of Unicode characters, so that
lengths and positions count code points and every scan is a recursion on the
text.
-/
namespace StepPattern

set_option autoImplicit false

/-- A text, character by character. -/
abbrev Text := List Char

namespace Text

def dropFinalNewline (t : Text) : Text :=
  if t.getLast? = some '\n' then t.dropLast else t

/-- Whether a text holds ASCII letters only, and at least one. -/
def isLetters (t : Text) : Bool :=
  !t.isEmpty && t.all Char.isAlpha

/-- Texts in order, with a separator between neighbours. -/
def join (separator : Text) (parts : List Text) : Text :=
  List.intercalate separator parts

def replaceChar (c : Char) (by_ : Text) (t : Text) : Text :=
  t.flatMap fun d => if d = c then by_ else [d]

/-- A comma and a space between neighbours, as in the lists that messages hold. -/
def commaList (parts : List Text) : Text :=
  join [',', ' '] parts

end Text

end StepPattern
