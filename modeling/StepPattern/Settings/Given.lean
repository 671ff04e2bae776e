/-
# StepPattern.Settings.Given -- settings and seeds as they are handed over

Settings are handed over checked, or as a loose value that has yet to be read.  A
seed is a loose value among the settings and is looked at only when a source is
needed.
-/
import StepPattern.Host
import StepPattern.Random.Digest

namespace StepPattern

set_option autoImplicit false

/-- How settings are handed over: checked ones, or a loose value. -/
inductive Given (α : Type) where
  | checked (settings : α)
  | loose (v : Value)

/-! ## Seeds -/

/-- The modulus of the hashes of numbers, a prime. -/
def hashModulus : Nat := 1 <<< 61 - 1

/-- The hash of a rational whose denominator is a power of two, of which the power with the exponent
60 is the inverse.  The hash -1 is taken for something else. -/
def Double.hashOf (q : Rat) : Int :=
  let magnitude : Nat := q.num.natAbs * Nat.pow q.den 60 % hashModulus
  let hash : Int := if q.num < 0 then -magnitude else magnitude
  if hash = -1 then -2 else hash

/-- The hash of a double that is a number. -/
def Double.hash? : Double → Option Int
  | .nan => none
  | .infinite negative => some (if negative then -314159 else 314159)
  | .negativeZero => some 0
  | .finite q => some (hashOf q)

namespace Twister

/-- A source seeded by bytes: by the number that they and their digest write. -/
def ofSeedBytes (bytes : List UInt8) : Twister :=
  .ofSeed (Digest.ofBytes (bytes ++ Digest.ofMessage bytes))

/-- The source that a seed gives: an integer or a truth value seeds it by itself, a text and bytes
with their digest, and a double by its hash, whose negative values count from the top of 64 bits.
No seed at all, or a double that is no number, leaves the source in a fresh state, and other values
are no seeds. -/
def ofSeedValue (v : Value) (host : Host := .default) : Except Fault Twister :=
  match v with
  | .int n => .ok (.ofSeed n)
  | .bool b => .ok (.ofSeed (if b then 1 else 0))
  | .text t => .ok (.ofSeedBytes t.string.toUTF8.toList)
  | .bytes octets => .ok (.ofSeedBytes octets)
  | .double d =>
      match d.hash? with
      | some hash => .ok (.ofSeed (hash % 0x10000000000000000))
      | none => .ok host.fresh
  | .none => .ok host.fresh
  | _ => .error .wrongKind

end Twister

end StepPattern
