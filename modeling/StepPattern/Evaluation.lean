/-
# StepPattern.Evaluation -- token trees flattened into sequences

A literal is one step.  A bracket is its children in order, passed through the
transform called on it, if any.  What a token gives is computed once and then
repeated as often as its count says, so a random transform draws once per token.
A token that would take the sequence past `maxSteps` items is dropped and logged;
what its inside drew stays drawn.

The state of an evaluation is the sequence so far, the log and the source.
-/
import StepPattern.Apply
import StepPattern.Token

namespace StepPattern

set_option autoImplicit false

/-- What stays the same while a tree is evaluated. -/
structure Setting where
  registry : Registry
  loud : Bool
  restSymbol : Text

/-- An evaluation in progress: the sequence so far as an array, the log with its last record
first, and the source. -/
structure Progress where
  sequence : Array Value
  log : Log
  source : Twister

/-- The end of an evaluation: its sequence or a fault, the log in order, and the source. -/
structure Evaluated where
  result : Except Fault Sequence
  log : Log
  source : Twister

namespace Progress

def start (log : Log) (source : Twister) : Progress :=
  { sequence := #[], log, source }

/-- The progress after a token's steps were computed: they are added `count` times, or the token is
dropped where the sequence would get too long. -/
def add (p : Progress) (loud : Bool) (token : String) (piece : Sequence) (count : Nat) : Progress :=
  if p.sequence.size + piece.length * count > maxSteps then
    { p with log := .diagnostic loud (.tooManySteps maxSteps token) :: p.log }
  else { p with sequence := p.sequence ++ (List.replicate count piece).flatten }

end Progress

/-- The step that a literal writes: a rest if it is the rest symbol, else the note of its integer.
A text that is neither is refused. -/
def literalStep (restSymbol t : Text) : Except Fault Value :=
  if t = restSymbol then .ok .rest
  else match Token.integer? t with
    | some n => .ok (.note n)
    | none => .error (.setting (.notInteger 10 t))

namespace Token

mutual

/-- The steps of one token before its count, with the log and the source after them. -/
def steps (c : Setting) (log : Log) (source : Twister) : Token → Except Fault Sequence × Log × Twister
  | .literal text | .repeated text _ =>
      ((literalStep c.restSymbol text).map ([·]), log, source)
  | .bracket call _ children _ =>
      match evaluateFrom c (.start log source) children with
      | (.error fault, inside) => (.error fault, inside.log, inside.source)
      | (.ok (), inside) =>
          match call with
          | none => (.ok inside.sequence.toList, inside.log, inside.source)
          | some call =>
              let applied :=
                c.registry.call c.loud call .none inside.sequence.toList inside.source
              (.ok applied.sequence, applied.log.reverse ++ inside.log, applied.source)
termination_by structural token => token

/-- Tokens evaluated one after the other from some progress on. -/
def evaluateFrom (c : Setting) (p : Progress) : List Token → Except Fault Unit × Progress
  | [] => (.ok (), p)
  | token :: tokens =>
      match steps c p.log p.source token with
      | (.error fault, log, source) => (.error fault, { p with log, source })
      | (.ok piece, log, source) =>
          evaluateFrom c
            (Progress.add { p with log, source } c.loud token.formName piece token.count) tokens
termination_by structural tokens => tokens

end

end Token

namespace Tree

def evaluate (c : Setting) (tokens : List Token) (source : Twister) : Evaluated :=
  match Token.evaluateFrom c (.start [] source) tokens with
  | (.error fault, p) => ⟨.error fault, p.log.reverse, p.source⟩
  | (.ok (), p) => ⟨.ok p.sequence.toList, p.log.reverse, p.source⟩

end Tree

end StepPattern
