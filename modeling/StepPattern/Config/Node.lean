/-
# StepPattern.Config.Node -- the tree of a YAML text

A node is a scalar, a list or a mapping.  Lists and mappings are blocks of items or
entries, or stand between brackets; a part that is missing is a plain scalar without
text.  Names of nodes are read over, and no name can be used.

Each function reads from the front of the lexemes.  Every call takes at least one
lexeme or stands for a part that is missing, so the number of lexemes bounds the
depth of the calls.
-/
import StepPattern.Config.Lexeme

namespace StepPattern

set_option autoImplicit false

/-- A part of a YAML text. -/
inductive Node where
  | scalar (plain : Bool) (text : Text)
  /-- A node with a tag. -/
  | tagged
  | list (items : List Node)
  | mapping (entries : List (Node × Node))
  deriving Repr

namespace Node

/-- Lexemes, each of them read or, at the end, a fault. -/
abbrev Lexemes := List (Except Fault Lexeme)

/-- A part read, and the lexemes after it. -/
abbrev Reading (α : Type) := Except Fault (α × Lexemes)

def absent : Node :=
  scalar true []

/-- The fault of lexemes of which the first one may not be where it is. -/
def misplaced : Lexemes → Fault
  | .error fault :: _ => fault
  | _ => .unreadable .structure

def startsWith (xs : Lexemes) (first : List Lexeme) : Bool :=
  match xs with
  | .ok x :: _ => first.contains x
  | _ => false

/-- The lexemes behind a name and a tag, in any order, and whether there is any of the two and
whether there is a tag. -/
def properties : Lexemes → Bool × Bool × Lexemes
  | .ok .anchor :: .ok .tag :: xs | .ok .tag :: .ok .anchor :: xs | .ok .tag :: xs => (true, true, xs)
  | .ok .anchor :: xs => (true, false, xs)
  | xs => (false, false, xs)

mutual

/-- A node.  A block can only be where `block` holds, and items without a block of their own only
where `loose` holds. -/
def read (block loose : Bool) : Nat → Lexemes → Reading Node
  | 0, xs => .error (misplaced xs)
  | _ + 1, .ok .alias :: _ => .error (.unreadable .reference)
  | fuel + 1, xs =>
      match properties xs with
      | (named, isTagged, xs) =>
          match content block loose named fuel xs with
          | .ok (node, xs) => .ok (if isTagged then tagged else node, xs)
          | .error fault => .error fault

/-- A node behind its name and tag; with one of those it may be missing. -/
def content (block loose named : Bool) : Nat → Lexemes → Reading Node
  | 0, xs => .error (misplaced xs)
  | fuel + 1, xs =>
      match xs with
      | .ok (.scalar plain text) :: xs => .ok (scalar plain text, xs)
      | .ok .listOpen :: xs => flowItems true fuel [] xs
      | .ok .mappingOpen :: xs => flowEntries true fuel [] xs
      | xs =>
          if loose && startsWith xs [.item] then looseItems fuel [] xs
          else if block && startsWith xs [.itemsStart] then blockItems fuel [] (xs.drop 1)
          else if block && startsWith xs [.entriesStart] then blockEntries fuel [] (xs.drop 1)
          else if named then .ok (absent, xs)
          else .error (misplaced xs)

/-- The items of a block up to its end; `done` holds those before, the last one first. -/
def blockItems : Nat → List Node → Lexemes → Reading Node
  | 0, _, xs => .error (misplaced xs)
  | fuel + 1, done, xs =>
      match xs with
      | .ok .item :: xs =>
          if startsWith xs [.item, .blockEnd] then blockItems fuel (absent :: done) xs
          else match read true false fuel xs with
            | .ok (node, xs) => blockItems fuel (node :: done) xs
            | .error fault => .error fault
      | .ok .blockEnd :: xs => .ok (list done.reverse, xs)
      | xs => .error (misplaced xs)

/-- The items that are indented no further than the key they are the value of. -/
def looseItems : Nat → List Node → Lexemes → Reading Node
  | 0, _, xs => .error (misplaced xs)
  | fuel + 1, done, xs =>
      match xs with
      | .ok .item :: xs =>
          if startsWith xs [.item, .key, .value, .blockEnd] then looseItems fuel (absent :: done) xs
          else match read true false fuel xs with
            | .ok (node, xs) => looseItems fuel (node :: done) xs
            | .error fault => .error fault
      | xs => .ok (list done.reverse, xs)

def blockEntries : Nat → List (Node × Node) → Lexemes → Reading Node
  | 0, _, xs => .error (misplaced xs)
  | fuel + 1, done, xs =>
      match xs with
      | .ok .blockEnd :: xs => .ok (mapping done.reverse, xs)
      | .ok .key :: xs =>
          match blockPart fuel xs with
          | .error fault => .error fault
          | .ok (key, xs) =>
              match blockValue fuel xs with
              | .error fault => .error fault
              | .ok (v, xs) => blockEntries fuel ((key, v) :: done) xs
      | xs => .error (misplaced xs)

/-- A key or a value of a block, which may be missing. -/
def blockPart : Nat → Lexemes → Reading Node
  | 0, xs => .error (misplaced xs)
  | fuel + 1, xs =>
      if startsWith xs [.key, .value, .blockEnd] then .ok (absent, xs)
      else read true true fuel xs

/-- The value behind a key of a block. -/
def blockValue : Nat → Lexemes → Reading Node
  | 0, xs => .error (misplaced xs)
  | fuel + 1, xs =>
      match xs with
      | .ok .value :: xs => blockPart fuel xs
      | xs => .ok (absent, xs)

/-- The items of a list in brackets; `first` tells whether none is read yet. -/
def flowItems (first : Bool) : Nat → List Node → Lexemes → Reading Node
  | 0, _, xs => .error (misplaced xs)
  | fuel + 1, done, xs =>
      match xs with
      | .ok .listClose :: xs => .ok (list done.reverse, xs)
      | xs =>
          match separated first xs with
          | .error fault => .error fault
          | .ok (.ok .listClose :: xs) => .ok (list done.reverse, xs)
          | .ok (.ok .key :: xs) =>
              match flowEntry .listClose fuel xs with
              | .error fault => .error fault
              | .ok (entry, xs) => flowItems false fuel (mapping [entry] :: done) xs
          | .ok xs =>
              match read false false fuel xs with
              | .error fault => .error fault
              | .ok (node, xs) => flowItems false fuel (node :: done) xs

/-- The entries of a mapping in brackets; a part without a colon is a key without a value. -/
def flowEntries (first : Bool) : Nat → List (Node × Node) → Lexemes → Reading Node
  | 0, _, xs => .error (misplaced xs)
  | fuel + 1, done, xs =>
      match xs with
      | .ok .mappingClose :: xs => .ok (mapping done.reverse, xs)
      | xs =>
          match separated first xs with
          | .error fault => .error fault
          | .ok (.ok .mappingClose :: xs) => .ok (mapping done.reverse, xs)
          | .ok (.ok .key :: xs) =>
              match flowEntry .mappingClose fuel xs with
              | .error fault => .error fault
              | .ok (entry, xs) => flowEntries false fuel (entry :: done) xs
          | .ok xs =>
              match read false false fuel xs with
              | .error fault => .error fault
              | .ok (node, xs) => flowEntries false fuel ((node, absent) :: done) xs

def separated (first : Bool) (xs : Lexemes) : Except Fault Lexemes :=
  match first, xs with
  | true, xs => .ok xs
  | false, .ok .comma :: xs => .ok xs
  | false, xs => .error (misplaced xs)

/-- A key and its value inside brackets, of which either may be missing. -/
def flowEntry (close : Lexeme) : Nat → Lexemes → Reading (Node × Node)
  | 0, xs => .error (misplaced xs)
  | fuel + 1, xs =>
      match flowPart [.value, .comma, close] fuel xs with
      | .error fault => .error fault
      | .ok (key, .ok .value :: xs) =>
          (flowPart [.comma, close] fuel xs).map fun (v, xs) => ((key, v), xs)
      | .ok (key, xs) => .ok ((key, absent), xs)

def flowPart (ends : List Lexeme) : Nat → Lexemes → Reading Node
  | 0, xs => .error (misplaced xs)
  | fuel + 1, xs =>
      if startsWith xs ends then .ok (absent, xs) else read false false fuel xs

end

def skipEnds : Lexemes → Lexemes
  | .ok .documentEnd :: xs => skipEnds xs
  | xs => xs

/-- The root of the document that the first lexeme begins; it may be missing only behind the mark of
the beginning. -/
def root (xs : Lexemes) : Reading Node :=
  let fuel := 4 * xs.length + 4
  match xs with
  | .ok .documentStart :: xs =>
      if xs.isEmpty || startsWith xs [.documentStart, .documentEnd] then .ok (absent, xs)
      else read true false fuel xs
  | xs => read true false fuel xs

/-- The root of a text, if there is a document in it; there may be only one. -/
def ofText? (t : Text) : Except Fault (Option Node) :=
  match Lexeme.ofText t with
  | [] => .ok none
  | xs =>
      match root xs with
      | .error fault => .error fault
      | .ok (node, xs) =>
          match skipEnds xs with
          | [] => .ok (some node)
          | .ok .documentStart :: _ => .error (.unreadable .reference)
          | xs => .error (misplaced xs)

end Node

end StepPattern
