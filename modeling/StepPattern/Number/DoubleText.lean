/-
# StepPattern.Number.DoubleText -- doubles as text

A double is written with the shortest digits that read back.  The point is put
in place as long as the first digit stands for at least `10 ^ -4` and less than
`10 ^ 16`, and a whole number keeps `.0`; beyond that an exponent of a sign and
at least two digits follows.  Reading takes the same forms and rounds to nearest.
-/
import StepPattern.Number.Shortest
import StepPattern.Text.Numeral

namespace StepPattern.Double

set_option autoImplicit false

open StepPattern.Text

/-- Digits with a point after the first `point` of them; zeros fill up both ends. -/
def placePoint (digits : Text) (point : Int) : Text :=
  if point ≤ 0 then ['0', '.'] ++ List.replicate (-point).toNat '0' ++ digits
  else if digits.length ≤ point.toNat then
    digits ++ List.replicate (point.toNat - digits.length) '0' ++ ['.', '0']
  else digits.take point.toNat ++ '.' :: digits.drop point.toNat

/-- Digits as a significand of one digit before the point, and a decimal exponent. -/
def placeExponent (digits : Text) (exponent : Int) : Text :=
  let fraction := if digits.length ≤ 1 then [] else '.' :: digits.drop 1
  let magnitude := Nat.toDigits 10 exponent.natAbs
  let padded := if magnitude.length < 2 then '0' :: magnitude else magnitude
  digits.take 1 ++ fraction ++ ['e', if exponent < 0 then '-' else '+'] ++ padded

def positiveText (v : Rat) : Text :=
  let (m, e) := shortest v
  let digits := Nat.toDigits 10 m.toNat
  let point := e + digits.length
  let digits := (digits.reverse.dropWhile (· = '0')).reverse
  if -4 < point ∧ point ≤ 16 then placePoint digits point
  else placeExponent digits (point - 1)

def text : Double → Text
  | .nan => ['n', 'a', 'n']
  | .infinite false => ['i', 'n', 'f']
  | .infinite true => ['-', 'i', 'n', 'f']
  | .negativeZero => ['-', '0', '.', '0']
  | .finite q =>
      if q = 0 then ['0', '.', '0']
      else if q < 0 then '-' :: positiveText (-q)
      else positiveText q

/-- The double nearest to `m * 10 ^ e`, where `m` is given by its digits. -/
def ofDecimal (digits : Text) (exponent : Int) : Double :=
  let m := digitsValue digits
  let leading : Int := exponent + (Nat.toDigits 10 m).length
  if m = 0 ∨ leading < -400 then .finite 0
  else if 400 < leading then .infinite false
  else round ((m : Rat) * (10 : Rat) ^ exponent)

def read? (t : Text) : Option Double :=
  let (negative, magnitude) := splitSign t
  let positive? : Option Double :=
    let word := magnitude.map Char.toLower
    if word = "inf".toList ∨ word = "infinity".toList then some (.infinite false)
    else if word = "nan".toList then some .nan
    else (splitDecimal magnitude).map fun (whole, fraction, exponent) =>
      ofDecimal (whole ++ fraction) (exponent - fraction.length)
  positive?.map fun d => if negative then mul (.finite (-1)) d else d

end StepPattern.Double
