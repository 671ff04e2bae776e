/-
# StepPattern.Config.Lexeme -- the lexemes of a YAML text

A text is cut into scalars and signs.  Where the lines are indented, signs that are
not written mark the beginnings and ends of blocks: a block begins at an item or a
key that stands further right than the block around it, and ends before the first
lexeme that stands further left.

That a lexeme is a key shows only at the colon behind it.  So the place where a key
may begin is kept, and the sign of the key is put in there when its colon comes.
Such a place is given up at the end of its line and after 1024 characters; a key is
required where a block goes on, and then it is an error to give its place up.

A text that cannot be cut to the end gives the lexemes that no key can change any
more, and the fault.
-/
import StepPattern.Config.Written

namespace StepPattern

set_option autoImplicit false

/-- A scalar or a sign of a YAML text. -/
inductive Lexeme where
  /-- The beginning and the end of a document. -/
  | documentStart | documentEnd
  /-- The beginnings of a block of items and of a block of entries, and the end of a block. -/
  | itemsStart | entriesStart | blockEnd
  /-- The brackets of a list and those of a mapping. -/
  | listOpen | listClose | mappingOpen | mappingClose
  /-- The sign before an item of a block. -/
  | item
  /-- The comma between the parts inside brackets. -/
  | comma
  /-- The signs before a key and before its value. -/
  | key | value
  /-- A name given to what follows, a name used, and a tag on what follows. -/
  | anchor | alias | tag
  /-- A scalar, plain or quoted. -/
  | scalar (plain : Bool) (text : Text)
  deriving DecidableEq, Repr

/-- A place where a key may have begun: the number of lexemes before it, and where it is. -/
structure KeyPlace where
  before : Nat
  required : Bool
  index : Nat
  line : Nat
  column : Nat
  deriving DecidableEq, Repr

/-- A text that is cut into lexemes as far as a cursor. -/
structure Layout where
  cursor : Cursor
  /-- The lexemes so far. -/
  lexemes : Array Lexeme := #[]
  /-- The column of the innermost block, -1 outside of all, and those of the blocks around it. -/
  indent : Int := -1
  indents : List Int := []
  /-- Where a key may have begun inside the innermost brackets, and inside those around them. -/
  place : Option KeyPlace := none
  places : List (Option KeyPlace) := []
  /-- Whether a key may begin at the cursor. -/
  fresh : Bool := true

namespace Layout

open Cursor (isBreak isGap gapAhead)

def fault : Fault :=
  .unreadable .lexeme

def maxKey : Nat := 1024

def inFlow (l : Layout) : Bool :=
  !l.places.isEmpty

def advance (l : Layout) : Layout :=
  { l with cursor := l.cursor.advance }

def push (l : Layout) (x : Lexeme) : Layout :=
  { l with lexemes := l.lexemes.push x }

/-- A lexeme put in behind a number of lexemes. -/
def putIn (l : Layout) (before : Nat) (x : Lexeme) : Layout :=
  { l with lexemes := l.lexemes.insertIdxIfInBounds before x }

/-! ## Places of keys -/

def dropKey (l : Layout) : Except Fault Layout :=
  if l.place.any KeyPlace.required then .error fault else .ok { l with place := none }

/-- The place of a key that may begin at the cursor. -/
def keepKey (l : Layout) : Except Fault Layout :=
  if l.fresh then
    l.dropKey.map fun l =>
      { l with place := some {
          before := l.lexemes.size
          required := !l.inFlow && l.indent = l.cursor.column
          index := l.cursor.index
          line := l.cursor.line
          column := l.cursor.column } }
  else .ok l

/-- Whether the colon of a key can no longer come. -/
def isStale (l : Layout) (place : KeyPlace) : Bool :=
  place.line ≠ l.cursor.line || maxKey < l.cursor.index - place.index

/-- The stale places of keys given up. -/
def dropStale (l : Layout) : Except Fault Layout :=
  let stale := (l.place :: l.places).filterMap fun place => place.filter l.isStale
  if stale.any KeyPlace.required then .error fault
  else
    let keep (place : Option KeyPlace) := place.filter fun place => !l.isStale place
    .ok { l with place := keep l.place, places := l.places.map keep }

/-! ## Blocks -/

/-- The columns of blocks without those right of a column, and how many those are. -/
def popped (column : Int) : Int → List Int → Nat × Int × List Int
  | indent, [] => (0, indent, [])
  | indent, outer :: indents =>
      if column < indent then
        let (count, rest) := popped column outer indents
        (count + 1, rest)
      else (0, indent, outer :: indents)

/-- The blocks right of a column ended. -/
def unwind (column : Int) (l : Layout) : Layout :=
  if l.inFlow then l
  else
    let (count, indent, indents) := popped column l.indent l.indents
    { l with
      lexemes := l.lexemes ++ Array.replicate count .blockEnd
      indent := indent
      indents := indents }

/-- A block begun at a column, unless one is there. -/
def beginBlock (l : Layout) (column : Nat) (before : Nat) (x : Lexeme) : Layout :=
  if l.indent < column then
    { l.putIn before x with indent := column, indents := l.indent :: l.indents }
  else l

/-! ## Signs -/

def skip : Nat → Layout → Layout
  | 0, l => l
  | fuel + 1, l =>
      let c := l.cursor.skipWhile (· = ' ')
      let c := if c.rest.head? = some '#' then c.skipWhile fun next => !isBreak next else c
      match c.rest with
      | next :: _ =>
          if isBreak next then
            skip fuel { l with cursor := c.advance, fresh := l.fresh || !l.inFlow }
          else { l with cursor := c }
      | [] => { l with cursor := c }

def documentMark (l : Layout) (x : Lexeme) : Except Fault Layout :=
  (l.unwind (-1)).dropKey.map fun l =>
    { l.push x with cursor := l.cursor.after 3, fresh := false }

def openFlow (l : Layout) (x : Lexeme) : Except Fault Layout :=
  l.keepKey.map fun l =>
    { (l.push x).advance with place := none, places := l.place :: l.places, fresh := true }

def closeFlow (l : Layout) (x : Lexeme) : Except Fault Layout :=
  l.dropKey.map fun l =>
    { (l.push x).advance with
      place := l.places.head?.join, places := l.places.tail, fresh := false }

def comma (l : Layout) : Except Fault Layout :=
  l.dropKey.map fun l => { (l.push .comma).advance with fresh := true }

def item (l : Layout) : Except Fault Layout :=
  if l.inFlow then l.dropKey.map fun l => { (l.push .item).advance with fresh := true }
  else if l.fresh then
    (l.beginBlock l.cursor.column l.lexemes.size .itemsStart).dropKey.map fun l =>
      { (l.push .item).advance with fresh := true }
  else .error fault

/-- The sign before a key that is marked. -/
def markedKey (l : Layout) : Except Fault Layout :=
  if l.inFlow then l.dropKey.map fun l => { (l.push .key).advance with fresh := false }
  else if l.fresh then
    (l.beginBlock l.cursor.column l.lexemes.size .entriesStart).dropKey.map fun l =>
      { (l.push .key).advance with fresh := true }
  else .error fault

/-- A colon behind a key whose place is kept. -/
def valueAt (l : Layout) (place : KeyPlace) : Layout :=
  let keyed := l.putIn place.before .key
  let begun :=
    if l.inFlow then keyed else keyed.beginBlock place.column place.before .entriesStart
  { (begun.push .value).advance with place := none, fresh := false }

def value (l : Layout) : Except Fault Layout :=
  match l.place with
  | some place => .ok (l.valueAt place)
  | none =>
      if l.inFlow then .ok { (l.push .value).advance with fresh := false }
      else if l.fresh then
        let l := l.beginBlock l.cursor.column l.lexemes.size .entriesStart
        .ok { (l.push .value).advance with fresh := true }
      else .error fault

/-! ## Words -/

def isNamePart (c : Char) : Bool :=
  c.isAlphanum || c = '-' || c = '_'

/-- Whether a text goes on in a way that ends a name. -/
def nameEnds (t : Text) : Bool :=
  gapAhead t || t.head?.any ['?', ':', ',', ']', '\x7d', '%', '@', '\x60'].contains

def name (l : Layout) (x : Lexeme) : Except Fault Layout :=
  l.keepKey.bind fun l =>
    let c := l.cursor.advance
    let length := (c.rest.takeWhile isNamePart).length
    let behind := c.after length
    if length = 0 ∨ !nameEnds behind.rest then .error fault
    else .ok { l.push x with cursor := behind, fresh := false }

def tag (l : Layout) : Except Fault Layout :=
  l.keepKey.map fun l =>
    { l.push .tag with cursor := l.cursor.skipWhile fun c => !isGap c, fresh := false }

def quoted (l : Layout) (mark : Char) : Except Fault Layout :=
  l.keepKey.bind fun l =>
    (Written.quoted mark l.cursor).map fun (text, cursor) =>
      { l.push (.scalar false text) with cursor, fresh := false }

def plain (l : Layout) : Except Fault Layout :=
  l.keepKey.map fun l =>
    let scalar := Written.plain l.inFlow (l.indent + 1) l.cursor
    { l.push (.scalar true scalar.text) with cursor := scalar.cursor, fresh := scalar.crossed }

/-- Whether a character cannot begin a plain scalar. -/
def isReserved (c : Char) : Bool :=
  isGap c || ['?', ':', ',', '[', ']', '\x7b', '\x7d', '#', '&', '*', '!', '|', '>', '\'', '"', '%',
    '@', '\x60'].contains c

/-- One lexeme, which begins with a character; `rest` is what follows that one. -/
def readAt (l : Layout) (c : Char) (rest : Text) : Except Fault Layout :=
  if l.cursor.column = 0 && c = '%' then .error fault
  else if l.cursor.column = 0 && l.cursor.atDocumentMark then
    l.documentMark (if c = '-' then .documentStart else .documentEnd)
  else match c with
    | '[' => l.openFlow .listOpen
    | '\x7b' => l.openFlow .mappingOpen
    | ']' => l.closeFlow .listClose
    | '\x7d' => l.closeFlow .mappingClose
    | ',' => l.comma
    | '-' => if gapAhead rest then l.item else l.plain
    | '?' => if l.inFlow || gapAhead rest then l.markedKey else l.plain
    | ':' => if l.inFlow || gapAhead rest then l.value else l.plain
    | '*' => l.name .alias
    | '&' => l.name .anchor
    | '!' => l.tag
    | '\'' => l.quoted '\''
    | '"' => l.quoted '"'
    | c => if isReserved c then .error fault else l.plain

/-! ## Texts -/

/-- One step: the next lexeme and the ends of blocks before it, and whether there is none. -/
def step (l : Layout) : Except Fault (Layout × Bool) :=
  (l.skip (l.cursor.rest.length + 1)).dropStale.bind fun l =>
    let l := l.unwind l.cursor.column
    match l.cursor.rest with
    | [] => (l.unwind (-1)).dropKey.map fun l => (l, true)
    | c :: rest => ((l.readAt c rest).bind dropStale).map fun l => (l, false)

/-- The number of lexemes that stay as they are whatever follows: those before the first place where
a key may have begun. -/
def settled (l : Layout) : Nat :=
  ((l.place :: l.places).filterMap fun place => place.map KeyPlace.before).foldl min l.lexemes.size

/-- The lexemes of a text: all of them, or those that are settled where a fault is met and the
fault. -/
def run : Nat → Layout → List (Except Fault Lexeme)
  | 0, _ => [.error fault]
  | fuel + 1, l =>
      match l.step with
      | .error fault => ((l.lexemes.toList.take l.settled).map .ok) ++ [.error fault]
      | .ok (l, true) => l.lexemes.toList.map .ok
      | .ok (l, false) => run fuel l

end Layout

/-- The lexemes of a text, or some of them and a fault. -/
def Lexeme.ofText (t : Text) : List (Except Fault Lexeme) :=
  Layout.run (t.length + 1) { cursor := { rest := t } }

end StepPattern
