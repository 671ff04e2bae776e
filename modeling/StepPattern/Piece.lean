/-
# StepPattern.Piece -- the pieces of a pattern text

A pattern text falls into pieces: raw tokens, the whitespace between them, closing
brackets that close nothing, and at the end perhaps a token whose bracket is never
closed.  Whitespace separates tokens outside brackets only, so a bracket with all
it holds is one token:

* an identifier written directly before `[` belongs to the bracket token, any
  other text before it is a token of its own;
* a bracket token ends with its closing bracket, or, where `*` follows directly,
  with the last character before the next whitespace or bracket.

The scan reads one character at a time and keeps all it knows in a `Scanner`, so
it can be stopped and resumed anywhere.
-/
import StepPattern.Call
import StepPattern.Text.Blank

namespace StepPattern

set_option autoImplicit false

/-- A piece of a pattern text. -/
inductive Piece where
  /-- A raw token. -/
  | token (raw : Text)
  /-- A whitespace character outside brackets. -/
  | blank (c : Char)
  /-- A closing bracket, at a position, that closes nothing. -/
  | stray (position : Nat)
  /-- A token in which `depth` brackets are open at the end of the text. -/
  | unfinished (depth : Nat) (raw : Text)
  deriving DecidableEq, Repr

namespace Piece

def text : Piece → Text
  | token raw => raw
  | blank c => [c]
  | stray _ => [']']
  | unfinished _ raw => raw

def token? : Piece → Option Text
  | token raw => some raw
  | _ => none

def error? : Piece → Option PatternError
  | stray position => some (.strayBracket position)
  | unfinished depth raw => some (.unfinished depth raw)
  | _ => none

end Piece

/-- Where a scan stands; `pending` is the token so far, its last character first. -/
inductive ScanMode where
  /-- Outside brackets, with a perhaps empty word pending. -/
  | word (pending : Text)
  /-- Inside `inner + 1` brackets. -/
  | bracket (pending : Text) (inner : Nat)
  /-- Just after the bracket that closed the token. -/
  | closed (pending : Text)
  /-- In the count of a closed bracket. -/
  | tail (pending : Text)
  deriving DecidableEq, Repr

/-- A scan in progress: the position of the next character, the mode, and the pieces so far, the
last one first. -/
structure Scanner where
  position : Nat
  mode : ScanMode
  pieces : List Piece
  deriving Repr

namespace Scanner

def start : Scanner :=
  { position := 0, mode := .word [], pieces := [] }

/-- The pieces with a pending token added, unless it is empty. -/
def flush (pending : Text) (pieces : List Piece) : List Piece :=
  if pending.isEmpty then pieces else .token pending.reverse :: pieces

/-- One character outside brackets, after a pending word. -/
def readOutside (position : Nat) (pieces : List Piece) (pending : Text) (c : Char) :
    ScanMode × List Piece :=
  if Text.isBlank c then (.word [], .blank c :: flush pending pieces)
  else if c = '[' then
    if Text.isIdentifier pending.reverse then (.bracket ('[' :: pending) 0, pieces)
    else (.bracket ['['] 0, flush pending pieces)
  else if c = ']' then (.word [], .stray position :: flush pending pieces)
  else (.word (c :: pending), pieces)

/-- One character inside `inner + 1` brackets. -/
def readInside (pending : Text) (inner : Nat) (c : Char) : ScanMode :=
  if c = '[' then .bracket (c :: pending) (inner + 1)
  else if c = ']' then
    match inner with
    | 0 => .closed (c :: pending)
    | outer + 1 => .bracket (c :: pending) outer
  else .bracket (c :: pending) inner

/-- Whether a character ends the count of a closed bracket. -/
def endsTail (c : Char) : Bool :=
  Text.isBlank c || c = '[' || c = ']'

def readIn (position : Nat) (pieces : List Piece) (c : Char) : ScanMode → ScanMode × List Piece
  | .word pending => readOutside position pieces pending c
  | .bracket pending inner => (readInside pending inner c, pieces)
  | .closed pending =>
      if c = '*' then (.tail (c :: pending), pieces)
      else readOutside position (flush pending pieces) [] c
  | .tail pending =>
      if endsTail c then readOutside position (flush pending pieces) [] c
      else (.tail (c :: pending), pieces)

def read (s : Scanner) (c : Char) : Scanner :=
  let (mode, pieces) := readIn s.position s.pieces c s.mode
  { position := s.position + 1, mode, pieces }

def readAll (s : Scanner) (t : Text) : Scanner :=
  t.foldl read s

def finish (s : Scanner) : List Piece :=
  match s.mode with
  | .word pending | .closed pending | .tail pending => (flush pending s.pieces).reverse
  | .bracket pending inner => (.unfinished (inner + 1) pending.reverse :: s.pieces).reverse

end Scanner

namespace Piece

def ofText (t : Text) : List Piece :=
  (Scanner.start.readAll t).finish

def tokens (pieces : List Piece) : List Text :=
  pieces.filterMap token?

def errors (pieces : List Piece) : List PatternError :=
  pieces.filterMap error?

end Piece

end StepPattern
