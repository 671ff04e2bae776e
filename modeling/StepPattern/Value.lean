/-
# StepPattern.Value -- loose values

Settings, registered functions and callers of `normalize` bring values of many
kinds; a sequence is a list of values of which most are notes and rests.  This
module holds the kinds, their truth and their names, and the steps among them.
-/
import StepPattern.Number.Basic
import StepPattern.Step

namespace StepPattern

set_option autoImplicit false

/-- A loose value. -/
inductive Value where
  | none
  | bool (b : Bool)
  | int (n : Int)
  | double (d : Double)
  | fraction (q : Rat)
  | decimal (d : Decimal)
  | bytes (octets : List UInt8)
  | text (t : Text)
  | note (value : Int)
  | rest
  | list (items : List Value)
  | dict (entries : List (Value × Value))
  deriving Inhabited, Repr

def Step.toValue : Step → Value
  | .note n => .note n
  | .rest => .rest

namespace Value

/-- The number a value is; a truth value counts as 0 or 1. -/
def number? : Value → Option Number
  | bool b => some (.int (if b then 1 else 0))
  | int n => some (.int n)
  | double d => some (.double d)
  | fraction q => some (.fraction q)
  | decimal d => some (.decimal d)
  | _ => Option.none

def number (v : Value) : Except Fault Number :=
  match v.number? with
  | some n => .ok n
  | Option.none => .error .wrongKind

def integer? : Value → Option Int
  | bool b => some (if b then 1 else 0)
  | int n => some n
  | _ => Option.none

/-- A value, or another one in its absence. -/
def orElse : Value → Value → Value
  | none, other => other
  | v, _ => v

def step? : Value → Option Step
  | note n => some (.note n)
  | rest => some .rest
  | _ => Option.none

/-- Whether a value counts as true: zeros and empty values do not. -/
def truthy : Value → Bool
  | none => false
  | bool b => b
  | int n => n ≠ 0
  | double d => d.toRat? ≠ some 0
  | fraction q => q ≠ 0
  | decimal d => !d.isZero
  | bytes octets => !octets.isEmpty
  | text t => !t.isEmpty
  | list items => !items.isEmpty
  | dict entries => !entries.isEmpty
  | note _ | rest => true

/-- Whether a value can be a key of a mapping. -/
def isKey : Value → Bool
  | list _ | dict _ => false
  | decimal d => !d.isSignaling
  | _ => true

/-- The name of a value's kind, as messages give it. -/
def kindName : Value → String
  | none => "NoneType"
  | bool _ => "bool"
  | int _ => "int"
  | double _ => "float"
  | fraction _ => "Fraction"
  | decimal _ => "Decimal"
  | bytes _ => "bytes"
  | text _ => "str"
  | note _ => "Note"
  | rest => "Rest"
  | list _ => "list"
  | dict _ => "dict"

def typeName : Value → String
  | decimal _ => "decimal.Decimal"
  | v => v.kindName

/-! ## Comparison -/

mutual

def equal : Value → Value → Bool
  | none, none | rest, rest => true
  | text s, text t => s = t
  | bytes s, bytes t => s = t
  | note m, note n => m = n
  | list xs, list ys => equalItems xs ys
  | dict xs, dict ys => xs.length = ys.length && amongEntries xs ys
  | x, y =>
      match x.number?, y.number? with
      | some m, some n => m.equal n
      | _, _ => false
termination_by structural x => x

def equalItems : List Value → List Value → Bool
  | [], [] => true
  | x :: xs, y :: ys => equal x y && equalItems xs ys
  | _, _ => false
termination_by structural xs => xs

/-- Whether all entries of one mapping are entries of another, in whatever order. -/
def amongEntries : List (Value × Value) → List (Value × Value) → Bool
  | [], _ => true
  | (k, x) :: xs, ys => (ys.any fun (l, y) => equal k l && equal x y) && amongEntries xs ys
termination_by structural xs => xs

end

/-- Whether one list of characters or bytes comes before another, by the order of their codes. -/
def codesBefore : List Nat → List Nat → Bool
  | _, [] => false
  | [], _ :: _ => true
  | a :: as, b :: bs => a < b || (a = b && codesBefore as bs)

mutual

/-- Whether one value comes before another, or a fault if the two cannot be ordered. -/
def before : Value → Value → Except Fault Bool
  | text s, text t => .ok (codesBefore (s.map Char.toNat) (t.map Char.toNat))
  | bytes s, bytes t => .ok (codesBefore (s.map UInt8.toNat) (t.map UInt8.toNat))
  | list xs, list ys => itemsBefore xs ys
  | x, y =>
      match x.number?, y.number? with
      | some m, some n => m.lt n
      | _, _ => .error .wrongKind
termination_by structural x => x

/-- Lists are ordered by their first items that differ. -/
def itemsBefore : List Value → List Value → Except Fault Bool
  | _, [] => .ok false
  | [], _ :: _ => .ok true
  | x :: xs, y :: ys => if equal x y then itemsBefore xs ys else before x y
termination_by structural xs => xs

end

end Value

abbrev Entries := List (Value × Value)

def Entries.get? (entries : Entries) (key : Value) : Option Value :=
  (List.find? (fun entry => entry.1.equal key) entries).map (·.2)

/-- A mapping with a key given a value: the first entry of the key is changed, or a new one comes
last. -/
def Entries.insert (key v : Value) : Entries → Entries
  | [] => [(key, v)]
  | entry :: entries =>
      if entry.1.equal key then (entry.1, v) :: entries else entry :: insert key v entries

end StepPattern
