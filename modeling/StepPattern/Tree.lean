/-
# StepPattern.Tree -- pattern text as a tree of tokens

A pattern text is cut into pieces, each raw token is classified by itself, and
what stands inside a bracket is parsed in the same way one level deeper.  Errors
stay local: a piece or raw token at fault, or a bracket whose inside would lie
deeper than the limit, adds a record to the log and nothing to the tree.

The levels that are left bound the recursion, so an inside is only looked at
where the limit allows it.
-/
import StepPattern.Piece
import StepPattern.Settings.Compile
import StepPattern.Token

namespace StepPattern

set_option autoImplicit false

/-- Tokens parsed from a text, and the log of what was dropped. -/
structure Parsed where
  tokens : List Token
  log : Log
  deriving Repr

namespace Parsed

def one (token : Token) (log : Log) : Parsed :=
  { tokens := [token], log }

def dropped (loud : Bool) (error : PatternError) : Parsed :=
  { tokens := [], log := [.diagnostic loud error] }

def concat (parts : List Parsed) : Parsed :=
  { tokens := parts.flatMap tokens, log := parts.flatMap log }

end Parsed

namespace Tree

/-- What one raw token adds; `descend` parses an inside, and is absent at the depth limit. -/
def parseToken (s : CompileSettings) (descend : Option (Text → Parsed)) (raw : Text) : Parsed :=
  match Token.classify s.restSymbol raw with
  | .error error => .dropped s.loud error
  | .ok (.bracket call inner _ count) =>
      match descend with
      | none => .dropped s.loud (.tooDeep s.depthLimit raw)
      | some parse =>
          let inside := parse inner
          .one (.bracket call inner inside.tokens count) inside.log
  | .ok token => .one token []

/-- The tokens of a text, given how an inside is parsed: first the errors of the scan, then what
each raw token adds. -/
def parseLevel (s : CompileSettings) (descend : Option (Text → Parsed)) (t : Text) : Parsed :=
  let pieces := Piece.ofText t
  let body := Parsed.concat ((Piece.tokens pieces).map (parseToken s descend))
  { body with log := (Piece.errors pieces).map (.diagnostic s.loud) ++ body.log }

/-- The tokens of a text with `levels` more levels of brackets allowed. -/
def parseWithin (s : CompileSettings) : Nat → Text → Parsed
  | 0, t => parseLevel s none t
  | levels + 1, t => parseLevel s (some (parseWithin s levels)) t

/-- The tokens of a text that itself lies at some depth. -/
def parse (s : CompileSettings) (t : Text) (depth : Int) : Parsed :=
  parseWithin s (s.depthLimit - depth).toNat t

end Tree

end StepPattern
