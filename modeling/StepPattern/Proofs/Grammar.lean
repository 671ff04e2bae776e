/-
# StepPattern.Proofs.Grammar -- the grammar of patterns

The language of patterns on its own, without a scan:

    item    = value | value*count | [name]'['pattern']'[*count]
    value   = the rest symbol, or digits with an optional sign
    count   = digits with an optional sign, of a value from 1 to `maxCount`
    name    = letters, then digits or none
    pattern = items, with any whitespace around and between them

Digits are decimal digits of any script, at most `maxDigits` in a row.  Between two
items the whitespace may be left out in two places (`Separated`): behind `]`, and
before a bracket without a name, unless what stands there is the rest symbol and
would be read as the name of the bracket: letters, then any number of digits.

A derivation carries the tokens that the text stands for and the number of bracket
levels it may still use, so one judgement says what is accepted and what it means.
-/
import StepPattern.Token

namespace StepPattern.Grammar

set_option autoImplicit false

open Text

/-! ## Words -/

/-- Decimal digits within the digit limit, at least one. -/
def Digits (t : Text) : Prop :=
  t ≠ [] ∧ (∀ c ∈ t, isDecimal c = true) ∧ t.length ≤ maxDigits

/-- `Numeral t n`: digits with an optional sign write an integer. -/
inductive Numeral : Text → Int → Prop where
  | plain {digits : Text} (decimal : Digits digits) : Numeral digits (digitsValue digits)
  | plus {digits : Text} (decimal : Digits digits) :
      Numeral ('+' :: digits) (digitsValue digits)
  | minus {digits : Text} (decimal : Digits digits) :
      Numeral ('-' :: digits) (-(digitsValue digits : Int))

/-- A value: the rest symbol or a numeral. -/
def Value (restSymbol t : Text) : Prop :=
  t = restSymbol ∨ ∃ n, Numeral t n

/-- `Count t n`: a numeral writes a count. -/
def Count (t : Text) (n : Nat) : Prop :=
  Numeral t n ∧ 1 ≤ n ∧ n ≤ maxCount

/-- `Name t call`: what stands before a bracket names a call; nothing names none. -/
inductive Name : Text → Option Call → Prop where
  | none : Name [] none
  | plain {letters : Text} (name : isLetters letters = true) :
      Name letters (some ⟨letters, .none⟩)
  | fused {letters digits : Text} (name : isLetters letters = true) (decimal : Digits digits) :
      Name (letters ++ digits) (some ⟨letters, some (digitsValue digits)⟩)

/-- `Times t count`: what stands behind a bracket repeats it; nothing does not. -/
inductive Times : Text → Option Nat → Prop where
  | none : Times [] none
  | count {t : Text} {n : Nat} (count : Count t n) : Times ('*' :: t) (some n)

/-! ## Items and patterns -/

/-- Whether the text of an item can be told from what follows it: at the end or before whitespace,
behind a closing bracket, and before an opening one that does not take the item for its name.  Only
the rest symbol can have the form of a name. -/
def Separated (restSymbol first rest : Text) : Prop :=
  rest = [] ∨ (∃ c ∈ rest.head?, isBlank c = true) ∨ first.getLast? = some ']' ∨
    (rest.head? = some '[' ∧ ¬(first = restSymbol ∧ isIdentifier first = true))

mutual

/-- `Item restSymbol levels token t`: a text is an item and stands for a token, with at most so many
levels of brackets. -/
inductive Item (restSymbol : Text) : Nat → Token → Text → Prop where
  | value {levels : Nat} {t : Text} (value : Value restSymbol t) :
      Item restSymbol levels (.literal t) t
  | repeated {levels n : Nat} {t count : Text} (value : Value restSymbol t)
      (counts : Count count n) :
      Item restSymbol levels (.repeated t n) (t ++ '*' :: count)
  | bracket {levels : Nat} {name inside tail : Text} {call : Option Call} {tokens : List Token}
      {count : Option Nat} (named : Name name call)
      (pattern : Pattern restSymbol levels tokens inside) (times : Times tail count) :
      Item restSymbol (levels + 1) (.bracket call inside tokens count)
        (name ++ '[' :: (inside ++ ']' :: tail))

/-- `Pattern restSymbol levels tokens t`: a text is a pattern and stands for tokens, with at most so
many levels of brackets. -/
inductive Pattern (restSymbol : Text) : Nat → List Token → Text → Prop where
  | gap {levels : Nat} {gap : Text} (blank : ∀ c ∈ gap, isBlank c = true) :
      Pattern restSymbol levels [] gap
  | item {levels : Nat} {gap first rest : Text} {token : Token} {tokens : List Token}
      (blank : ∀ c ∈ gap, isBlank c = true) (item : Item restSymbol levels token first)
      (separated : Separated restSymbol first rest)
      (further : Pattern restSymbol levels tokens rest) :
      Pattern restSymbol levels (token :: tokens) (gap ++ (first ++ rest))

end

end StepPattern.Grammar
