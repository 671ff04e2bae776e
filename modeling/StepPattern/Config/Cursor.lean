/-
# StepPattern.Config.Cursor -- places in a YAML text

A cursor is a place in a text with its line and column, which decide how the text
is laid out.  Four characters end a line, a gap is a line break, a space or a tab,
and a byte order mark takes no column.  Carriage returns are line breaks too, but
`unifyBreaks` has replaced them before a text is read.

Where a text runs over several lines it is folded: a single line break counts as a
space, and of several the first one does not count.
-/
import StepPattern.Text.Basic

namespace StepPattern

set_option autoImplicit false

/-- A place in a text: what is left, the number of characters before it, its line and its column. -/
structure Cursor where
  rest : Text
  index : Nat := 0
  line : Nat := 0
  column : Nat := 0
  deriving DecidableEq, Repr

namespace Cursor

/-! ## Characters -/

def isBreak (c : Char) : Bool :=
  ['\n', '\x85', '\u2028', '\u2029'].contains c

def isSpace (c : Char) : Bool :=
  c = ' ' || c = '\t'

/-- Whether a character separates words. -/
def isGap (c : Char) : Bool :=
  isSpace c || isBreak c

def gapAhead (t : Text) : Bool :=
  t.head?.all isGap

/-- Whether a text may hold a character: no control characters but for tabs and line breaks, and
none that stand for nothing. -/
def isReadable (c : Char) : Bool :=
  let n := c.toNat
  c = '\t' || c = '\n' || c = '\x85' || (0x20 ≤ n && n ≤ 0x7E) || (0xA0 ≤ n && n ≤ 0xFFFD)
    || 0x10000 ≤ n

/-- A text with every carriage return, with or without a line feed, written as a line feed. -/
def unifyBreaks : Text → Text
  | '\r' :: '\n' :: rest => '\n' :: unifyBreaks rest
  | '\r' :: rest => '\n' :: unifyBreaks rest
  | c :: rest => c :: unifyBreaks rest
  | [] => []

/-! ## Moving -/

def advance (c : Cursor) : Cursor :=
  match c.rest with
  | [] => c
  | next :: rest =>
      let moved := { c with rest, index := c.index + 1 }
      if isBreak next then { moved with line := c.line + 1, column := 0 }
      else if next = '\uFEFF' then moved
      else { moved with column := c.column + 1 }

def after (c : Cursor) (count : Nat) : Cursor :=
  Nat.repeat advance count c

/-- The place of the first character that is not of a class. -/
def skipWhile (p : Char → Bool) (c : Cursor) : Cursor :=
  c.after (c.rest.takeWhile p).length

def atDocumentMark (c : Cursor) : Bool :=
  match c.rest with
  | '-' :: '-' :: '-' :: rest | '.' :: '.' :: '.' :: rest => gapAhead rest
  | _ => false

/-! ## Folding -/

/-- A line break as it counts in a text: the separators of lines and paragraphs stay. -/
def breakText (c : Char) : Char :=
  if c = '\x85' then '\n' else c

/-- The line breaks from the beginning of a line on and the place behind them and the indent of the
last line; none if a document mark begins one of the lines. -/
def breaks (isIndent : Char → Bool) : Nat → Cursor → Option Text × Cursor
  | 0, c => (none, c)
  | fuel + 1, c =>
      if c.atDocumentMark then (none, c)
      else
        let c := c.skipWhile isIndent
        match c.rest with
        | next :: _ =>
            if isBreak next then
              let (more, c) := breaks isIndent fuel c.advance
              (more.map (breakText next :: ·), c)
            else (some [], c)
        | [] => (some [], c)

/-- What a line break and those behind it are folded to. -/
def folded (first : Char) (more : Text) : Text :=
  if breakText first ≠ '\n' then breakText first :: more
  else if more.isEmpty then [' ']
  else more

/-- What a line break ahead and those behind it are folded to, and the place behind them. -/
def fold (isIndent : Char → Bool) (first : Char) (c : Cursor) : Option Text × Cursor :=
  let (more, c) := breaks isIndent (c.rest.length + 1) c.advance
  (more.map (folded first), c)

end Cursor

end StepPattern
