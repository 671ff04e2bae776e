/-
# StepPattern.Config.Scalar -- the values of plain scalars

A scalar without quotation marks is read by its form: empty or `~` or a word for
null, the words for true and false, an integer in decimal, binary, octal or
hexadecimal digits, a decimal with a point, a number of minutes or hours in base
sixty, and otherwise the text itself.  The two signs `=` and `<<` are reserved and
have no value.
-/
import StepPattern.Value.Shown

namespace StepPattern.Scalar

set_option autoImplicit false

open StepPattern.Text

def nullWords : List String := ["", "~", "null", "Null", "NULL"]

def trueWords : List String := ["true", "True", "TRUE", "yes", "Yes", "YES", "on", "On", "ON"]

def falseWords : List String := ["false", "False", "FALSE", "no", "No", "NO", "off", "Off", "OFF"]

/-- The words for the doubles that no decimal writes. -/
def specialDoubles : List (String × Double) :=
  [(".nan", .nan), (".NaN", .nan), (".NAN", .nan), (".inf", .infinite false),
    (".Inf", .infinite false), (".INF", .infinite false), ("+.inf", .infinite false),
    ("+.Inf", .infinite false), ("+.INF", .infinite false), ("-.inf", .infinite true),
    ("-.Inf", .infinite true), ("-.INF", .infinite true)]

def withoutUnderscores (t : Text) : Text :=
  t.filter (· ≠ '_')

def hexValue (c : Char) : Nat :=
  if c.isDigit then c.toNat - '0'.toNat else c.toLower.toNat - 'a'.toNat + 10

/-- Whether a character is a digit of a base up to sixteen. -/
def isDigitIn (base : Nat) (c : Char) : Bool :=
  (c.isDigit || ('a' ≤ c.toLower && c.toLower ≤ 'f')) && hexValue c < base

/-- The number that digits of a base write. -/
def digitsIn (base : Nat) (digits : Text) : Nat :=
  digits.foldl (fun n c => base * n + hexValue c) 0

def natural? (base : Nat) (t : Text) : Option Nat :=
  let digits := withoutUnderscores t
  if !digits.isEmpty && digits.all (isDigitIn base) then some (digitsIn base digits) else none

/-- The number that decimal digits write, up to the digit limit. -/
def decimal? (t : Text) : Option (Except Fault Nat) :=
  (natural? 10 t).map fun n =>
    if (withoutUnderscores t).length ≤ maxDigits then .ok n else .error Value.overLimit

/-- Whether a text is a number below sixty in one or two digits. -/
def isSixtieth : Text → Bool
  | [c] => c.isDigit
  | [c, d] => '0' ≤ c && c ≤ '5' && d.isDigit
  | _ => false

/-- The integer that digits of a base write behind a mark; underscores alone write none. -/
def marked? (base : Nat) (t : Text) : Option (Except Fault Nat) :=
  if !t.isEmpty && (withoutUnderscores t).isEmpty then
    some (.error (.setting (.notInteger base [])))
  else (natural? base t).map .ok

/-- The integer that a scalar without sign writes: binary, hexadecimal or octal behind a mark,
decimal, or sixtieths behind a decimal number. -/
def magnitude? : Text → Option (Except Fault Nat)
  | '0' :: 'b' :: digits => marked? 2 digits
  | '0' :: 'x' :: digits => marked? 16 digits
  | '0' :: c :: digits => (natural? 8 ('0' :: c :: digits)).map .ok
  | ['0'] => some (.ok 0)
  | c :: rest =>
      match (c :: rest).splitOn ':' with
      | whole :: sixtieths =>
          if c.isDigit && sixtieths.all isSixtieth then
            (decimal? whole).map fun n =>
              n.map (sixtieths.foldl (fun n part => 60 * n + digitsIn 10 part))
          else none
      | [] => none
  | [] => none

def integer? (t : Text) : Option (Except Fault Int) :=
  let (negative, body) := splitSign t
  (magnitude? body).map fun n => n.map (signed negative)

/-- Whether a text is an exponent with a sign, or empty. -/
def isExponent : Text → Bool
  | [] => true
  | e :: sign :: digits =>
      (e = 'e' || e = 'E') && (sign = '+' || sign = '-') && !digits.isEmpty
        && digits.all Char.isDigit
  | _ => false

def isFigure (c : Char) : Bool :=
  c.isDigit || c = '_'

/-- The double that a plain scalar writes: digits with a point, and perhaps an exponent. -/
def pointed? (t : Text) : Option Double :=
  let (_, body) := splitSign t
  let whole := body.takeWhile isFigure
  match body.dropWhile isFigure with
  | '.' :: after =>
      let startsWell := match whole, after with
        | first :: _, _ => first.isDigit
        | [], first :: _ => first.isDigit && body = t
        | [], [] => false
      if startsWell && isExponent (after.dropWhile isFigure) then
        Double.read? (withoutUnderscores t)
      else none
  | _ => none

def sixtyfold (parts : List Double) : Double :=
  (parts.foldl (fun (sum, unit) part =>
    (sum.add (part.mul (Double.round (unit : Nat))), 60 * unit)) (Double.zero false, 1)).1

/-- Whether a text is a number below sixty with a point and perhaps a fraction. -/
def isPointedSixtieth (t : Text) : Bool :=
  isSixtieth (t.takeWhile (· ≠ '.')) && match t.dropWhile (· ≠ '.') with
    | '.' :: fraction => fraction.all isFigure
    | _ => false

/-- The double that a plain scalar writes in sixtieths, of which the last one has a point. -/
def sexagesimal? (t : Text) : Option Double :=
  let (negative, body) := splitSign t
  match (body.splitOn ':').reverse with
  | last :: next :: others =>
      let parts := last :: next :: others
      let whole := (next :: others).getLastD []
      if isPointedSixtieth last && (next :: others).dropLast.all isSixtieth
          && whole.head?.any Char.isDigit && whole.all isFigure then
        (parts.mapM fun part => Double.read? (withoutUnderscores part)).map fun parts =>
          (sixtyfold parts).mul (Double.round (if negative then -1 else 1))
      else none
  | _ => none

def double? (t : Text) : Option Double :=
  (pointed? t).or (sexagesimal? t)

def reserved : List String := ["=", "<<"]

def plain (t : Text) : Except Fault Value :=
  let word := t.string
  if nullWords.contains word then .ok .none
  else if trueWords.contains word then .ok (.bool true)
  else if falseWords.contains word then .ok (.bool false)
  else if reserved.contains word then .error (.unreadable .value)
  else match integer? t with
    | some n => n.map .int
    | none =>
        match (specialDoubles.lookup word).or (double? t) with
        | some d => .ok (.double d)
        | none => .ok (.text t)

end StepPattern.Scalar
