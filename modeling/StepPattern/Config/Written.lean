/-
# StepPattern.Config.Written -- scalars as they are written

A scalar is written between quotation marks or plain.  In single quotes a quote is
written twice; in double quotes a backslash begins an escape.  A plain scalar ends
at a comment, at a colon with a gap behind it, at a tab, and where the indent of its
block does; inside brackets it also ends at the signs that divide what is there.
Only spaces and line breaks around a plain scalar do not belong to it.
-/
import StepPattern.Config.Cursor
import StepPattern.Config.Scalar

namespace StepPattern.Written

set_option autoImplicit false

open Cursor (isBreak isGap isSpace gapAhead)

/-! ## Escapes -/

/-- The characters of the escapes of one letter. -/
def escapes : List (Char × Char) :=
  [('0', '\x00'), ('a', '\x07'), ('b', '\x08'), ('t', '\t'), ('\t', '\t'), ('n', '\n'),
    ('v', '\x0b'), ('f', '\x0c'), ('r', '\r'), ('e', '\x1b'), (' ', ' '), ('"', '"'),
    ('\\', '\\'), ('/', '/'), ('N', '\x85'), ('_', '\xa0'), ('L', '\u2028'), ('P', '\u2029')]

/-- The numbers of hexadecimal digits of the other escapes. -/
def codeLengths : List (Char × Nat) :=
  [('x', 2), ('u', 4), ('U', 8)]

def isFirstHalf (n : Nat) : Bool :=
  0xD800 ≤ n && n < 0xDC00

def isSecondHalf (n : Nat) : Bool :=
  0xDC00 ≤ n && n < 0xE000

/-- The text of some codes, where two halves that meet are one character and a lone one is
replaced. -/
def ofCodes : List Nat → Text
  | [] => []
  | [n] => [single n]
  | m :: n :: rest =>
      if isFirstHalf m && isSecondHalf n then
        Char.ofNat (0x10000 + (m - 0xD800) * 0x400 + (n - 0xDC00)) :: ofCodes rest
      else single m :: ofCodes (n :: rest)
where
  /-- The character of one code. -/
  single (n : Nat) : Char :=
    if isFirstHalf n || isSecondHalf n then '\uFFFD' else Char.ofNat n

/-- The code of an escape of `count` digits and the place behind it. -/
def code (count : Nat) (c : Cursor) : Except Fault (Nat × Cursor) :=
  let digits := c.rest.take count
  let n := Scalar.digitsIn 16 digits
  if digits.length = count ∧ digits.all (Scalar.isDigitIn 16) ∧ n < 0x110000 then
    .ok (n, c.after count)
  else .error (.unreadable .lexeme)

/-- The codes of an escape, the last one first, and the place behind it; the backslash is already
read. -/
def escape (c : Cursor) : Except Fault (List Nat × Cursor) :=
  match c.rest with
  | [] => .error (.unreadable .lexeme)
  | sign :: _ =>
      match escapes.lookup sign, codeLengths.lookup sign with
      | some char, _ => .ok ([char.toNat], c.advance)
      | none, some count => (code count c.advance).map fun (n, c) => ([n], c)
      | none, none =>
          if isBreak sign then
            match Cursor.breaks isSpace (c.rest.length + 1) c.advance with
            | (some more, c) => .ok ((more.map Char.toNat).reverse, c)
            | (none, _) => .error (.unreadable .lexeme)
          else .error (.unreadable .lexeme)

/-! ## Quoted scalars -/

/-- The spaces or folded line breaks ahead inside quotation marks, and the place behind them. -/
def quotedGap (c : Cursor) : Except Fault (Text × Cursor) :=
  let spaces := c.rest.takeWhile isSpace
  let c := c.after spaces.length
  match c.rest with
  | [] => .error (.unreadable .lexeme)
  | next :: _ =>
      if isBreak next then
        match c.fold isSpace next with
        | (some text, c) => .ok (text, c)
        | (none, _) => .error (.unreadable .lexeme)
      else .ok (spaces, c)

/-- The inside of quotation marks of one kind and the place behind them; `done` holds the codes so
far, the last one first. -/
def quotedFrom (mark : Char) : Nat → List Nat → Cursor → Except Fault (Text × Cursor)
  | 0, _, _ => .error (.unreadable .lexeme)
  | fuel + 1, done, c =>
      match c.rest with
      | [] => .error (.unreadable .lexeme)
      | next :: rest =>
          if next = mark then
            if mark = '\'' ∧ rest.head? = some '\'' then
              quotedFrom mark fuel (mark.toNat :: done) (c.after 2)
            else .ok (ofCodes done.reverse, c.advance)
          else if isGap next then
            match quotedGap c with
            | .ok (text, c) => quotedFrom mark fuel ((text.map Char.toNat).reverse ++ done) c
            | .error fault => .error fault
          else if mark = '"' ∧ next = '\\' then
            match escape c.advance with
            | .ok (codes, c) => quotedFrom mark fuel (codes ++ done) c
            | .error fault => .error fault
          else quotedFrom mark fuel (next.toNat :: done) c.advance

def quoted (mark : Char) (c : Cursor) : Except Fault (Text × Cursor) :=
  quotedFrom mark (c.rest.length + 1) [] c.advance

/-! ## Plain scalars -/

/-- The signs that divide what is inside brackets. -/
def isDivider (c : Char) : Bool :=
  [',', '[', ']', '\x7b', '\x7d'].contains c

/-- The part of a plain scalar up to a gap. -/
def plainPart (inFlow : Bool) : Text → Text
  | [] => []
  | c :: rest =>
      if isGap c || (inFlow && (isDivider c || c = '?'))
          || (c = ':' && (gapAhead rest || (inFlow && rest.head?.any isDivider))) then []
      else c :: plainPart inFlow rest

/-- A plain scalar, the place behind it, and whether that is on a later line. -/
structure Plain where
  text : Text
  cursor : Cursor
  crossed : Bool

/-- The spaces or folded line breaks ahead, the place behind them, and whether a line has ended. -/
def plainGap (c : Cursor) : Plain :=
  let spaces := c.rest.takeWhile (· = ' ')
  let c := c.after spaces.length
  match c.rest with
  | [] => ⟨spaces, c, false⟩
  | next :: _ =>
      if isBreak next then
        let (text, c) := c.fold (· = ' ') next
        ⟨text.getD [], c, true⟩
      else ⟨spaces, c, false⟩

/-- A plain scalar in a block whose lines are indented by `indent` at least; `done` holds its parts
so far, the last one first, and `gap` what is between them and the next one. -/
def plainFrom (inFlow : Bool) (indent : Int) : Nat → List Text → Plain → Plain
  | 0, done, gap => { gap with text := done.reverse.flatten }
  | fuel + 1, done, gap =>
      let c := gap.cursor
      let part := if c.rest.head? = some '#' then [] else plainPart inFlow c.rest
      if part.isEmpty then { gap with text := done.reverse.flatten }
      else
        let done := part :: gap.text :: done
        let next := plainGap (c.after part.length)
        if next.text.isEmpty || (!inFlow && next.cursor.column < indent) then
          { next with text := done.reverse.flatten }
        else plainFrom inFlow indent fuel done next

def plain (inFlow : Bool) (indent : Int) (c : Cursor) : Plain :=
  plainFrom inFlow indent (c.rest.length + 1) [] ⟨[], c, false⟩

end StepPattern.Written
