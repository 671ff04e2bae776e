/-
# StepPattern.Settings.Schema -- settings read from loose mappings

A schema names a group of settings, its fields with their defaults, and the rule
that checks the effective values.  Settings are read from a mapping of field
names to values: a field that the mapping lacks keeps its default, and a mapping
with any other key is refused before a value is looked at.  The refusal lists the
unknown keys in order; if one of them is no text, they cannot be listed.
-/
import StepPattern.Host
import StepPattern.Settings.Keys
import StepPattern.Value.Shown

namespace StepPattern

set_option autoImplicit false

/-- Values by field name. -/
abbrev Fields := List (Text × Value)

namespace Fields

def get? (fields : Fields) (name : Text) : Option Value :=
  (fields.find? fun field => field.1 = name).map (·.2)

/-- Fields with some of them replaced; new ones come last. -/
def override (fields changes : Fields) : Fields :=
  fields.filter (fun field => (get? changes field.1).isNone) ++ changes

def given (fields : Fields) : Fields :=
  fields.filter fun field => match field.2 with
    | .none => false
    | _ => true

end Fields

/-- Texts in the order of their character codes, each one once. -/
def sortedOnce (keys : List Text) : List Text :=
  (keys.mergeSort fun a b => !Value.codesBefore (b.map Char.toNat) (a.map Char.toNat)).eraseReps

/-- A group of settings. -/
structure Schema (α : Type) where
  /-- The name of the group in messages. -/
  owner : String
  /-- The fields and their defaults. -/
  defaults : Fields
  /-- The settings with given effective values. -/
  build : (String → Value) → Except Fault α

namespace Schema

variable {α : Type}

/-- The effective value of a field: the given one, else the default. -/
def effective (s : Schema α) (fields : Fields) (name : String) : Value :=
  ((fields.get? name.toList).or (s.defaults.get? name.toList)).getD .none

def unknown (s : Schema α) (keys : List Text) : List Text :=
  sortedOnce (keys.filter fun key => (s.defaults.get? key).isNone)

/-- The settings that fields give. -/
def ofFields (s : Schema α) (fields : Fields) : Except Fault α :=
  match s.unknown (fields.map (·.1)) with
  | [] => s.build (s.effective fields)
  | keys => .error (.setting (.unknownKeys s.owner keys))

def texts? (values : List Value) : Option (List Text) :=
  values.mapM fun
    | .text t => some t
    | _ => none

/-- The refusal of a value that is no mapping but has these texts for items. -/
def refuseItems (s : Schema α) (items : List Text) : Fault :=
  match s.unknown items with
  | [] => .wrongKind
  | keys => .setting (.unknownKeys s.owner keys)

/-- The fields of a mapping, if all its keys are texts. -/
def fields? (entries : List (Value × Value)) : Option Fields :=
  entries.mapM fun
    | (.text key, v) => some (key, v)
    | _ => none

def others (s : Schema α) (keys : List Value) : List Value :=
  let unknown := keys.filter fun key => match key with
    | .text t => (s.defaults.get? t).isNone
    | _ => true
  unknown.eraseDupsBy Value.equal

/-- The trouble with keys of which one is no text. -/
def trouble (s : Schema α) (host : Host) (keys : List Value) : KeyTrouble :=
  .ofSorted (host.sorted (s.others keys))

/-- The settings that a loose value gives: an empty value of any kind gives the defaults, and of
the others only a mapping can give settings. -/
def ofValue (s : Schema α) (v : Value) (host : Host := .default) : Except Fault α :=
  if !v.truthy then s.ofFields []
  else match v with
    | .dict entries =>
        match fields? entries with
        | some fields => s.ofFields fields
        | none => .error (s.trouble host (entries.map (·.1))).fault
    | .text t => .error (s.refuseItems (t.map fun c => [c]))
    | .list items =>
        match texts? items with
        | some keys => .error (s.refuseItems keys)
        | none =>
            if items.all Value.isKey then .error (s.trouble host items).fault
            else .error .wrongKind
    | _ => .error .wrongKind

end Schema

end StepPattern
