/-
# StepPattern.Settings.Config -- settings from a configuration

A configuration is a mapping with one section for each group of settings.  The
entries of a section replace the defaults, and overrides that are given replace
those, before any of the values is checked.  A section that is missing or empty
counts as an empty one.
-/
import StepPattern.Settings.Schema

namespace StepPattern

set_option autoImplicit false

namespace Config

def section? (config : Entries) (name : Text) : Option Value :=
  config.get? (.text name)

/-- The pair of a list that stands for a mapping, at an index. -/
def pair (index : Nat) : List Value → Except Fault (Value × Value)
  | [key, v] => if key.isKey then .ok (key, v) else .error .wrongKind
  | others => .error (.setting (.entryNotPair index others.length))

/-- The items of an item of such a list. -/
def pairItems : Value → Except Fault (List Value)
  | .list items => .ok items
  | .text t => .ok (t.map fun c => .text [c])
  | .dict entries => .ok (entries.map (·.1))
  | .bytes octets => .ok (octets.map fun octet => .int octet.toNat)
  | _ => .error .wrongKind

/-- A list of pairs, from an index on, put into a mapping one after the other. -/
def pairs (done : Entries) (index : Nat) : List Value → Except Fault Entries
  | [] => .ok done
  | v :: vs => do
      let (key, v) ← pair index (← pairItems v)
      pairs (Entries.insert key v done) (index + 1) vs

def entries : Value → Except Fault Entries
  | .dict entries => .ok entries
  | .list items => pairs [] 0 items
  | .text t => pairs [] 0 (t.map fun c => .text [c])
  | _ => .error .wrongKind

/-- The entries of a section, none where it is missing or empty. -/
def sectionEntries (config : Entries) (name : Text) : Except Fault Entries :=
  match section? config name with
  | some v => if v.truthy then entries v else .ok []
  | none => .ok []

def keys (entries : Entries) (overrides : Fields) : List Value :=
  entries.map (·.1) ++ overrides.map fun field => .text field.1

/-- The settings of a section with overrides. -/
def settings {α : Type} (schema : Schema α) (name : Text) (config : Entries)
    (overrides : Fields) (host : Host := .default) : Except Fault α := do
  let entries ← sectionEntries config name
  match Schema.fields? entries with
  | some fields => schema.ofFields (fields.override overrides.given)
  | none => throw (schema.trouble host (keys entries overrides.given)).fault

end Config

end StepPattern
