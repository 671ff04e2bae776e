/-
# StepPattern.Config.Document -- YAML documents as values

A document is read in three steps: its characters are checked, its tree is read, and
the tree is turned into a value.  A mapping keeps the first place of a key and its
last value, and a list or mapping can be no key.  A text without a document, like an
empty one, has no value.
-/
import StepPattern.Config.Node

namespace StepPattern

set_option autoImplicit false

namespace Node

/-- The value of a key: here a sign that is reserved elsewhere stands for itself. -/
def keyOf (v : Except Fault Value) : Node → Except Fault Value
  | scalar true ['='] => .ok (.text ['='])
  | _ => v

mutual

def toValue : Node → Except Fault Value
  | scalar true text => Scalar.plain text
  | scalar false text => .ok (.text text)
  | tagged => .error (.unreadable .value)
  | list items => (itemValues [] items).map .list
  | mapping entries => (entryValues [] entries).map .dict
termination_by structural node => node

/-- The values of items; `done` holds those before, the last one first. -/
def itemValues : List Value → List Node → Except Fault (List Value)
  | done, [] => .ok done.reverse
  | done, node :: nodes =>
      match toValue node with
      | .ok v => itemValues (v :: done) nodes
      | .error fault => .error fault
termination_by structural _ nodes => nodes

def entryValues : Entries → List (Node × Node) → Except Fault Entries
  | done, [] => .ok done
  | done, (key, v) :: entries =>
      match keyOf (toValue key) key with
      | .error fault => .error fault
      | .ok k =>
          if !k.isKey then .error (.unreadable .value)
          else match toValue v with
            | .error fault => .error fault
            | .ok v => entryValues (Entries.insert k v done) entries
termination_by structural _ entries => entries

end

end Node

namespace Document

def withoutMark : Text → Text
  | '\uFEFF' :: rest => rest
  | t => t

/-- The value of a document. -/
def read (t : Text) : Except Fault Value :=
  let t := Cursor.unifyBreaks t
  if !t.all Cursor.isReadable then .error (.unreadable .character)
  else match Node.ofText? (withoutMark t) with
    | .error fault => .error fault
    | .ok none => .ok .none
    | .ok (some node) => node.toValue

end Document

end StepPattern
