/-
# StepPattern.Error -- what can go wrong, and what is logged of it

Three layers of causes:

* a `PatternError` is recoverable: the token or transform call that caused it
  contributes nothing, or passes its input through, and the cause is logged;
* a `SettingError` refuses a setting, a registration or a request as a whole;
* a `Fault` is anything that ends an operation early, the two above included.

A cause holds the data that its message needs; the wording is in `message`.
-/
import StepPattern.Text.Quoted

namespace StepPattern

set_option autoImplicit false

def Text.string (t : Text) : String :=
  String.ofList t

/-- A text as messages show it, between quotation marks. -/
def Text.quoted (t : Text) : String :=
  (Text.quote t).string

/-! ## Recoverable errors -/

/-- The classes of recoverable errors. -/
inductive ErrorClass where
  | invalidInput
  | unbalancedBrackets
  | malformedToken
  | unknownToken
  | unknownTransform
  | missingRequiredParameter
  | invalidParameter
  | recursionLimitExceeded
  | outputLimitExceeded
  deriving DecidableEq, Repr

/-- The name of a class, with which its log records begin. -/
def ErrorClass.name : ErrorClass → String
  | .invalidInput => "InvalidInput"
  | .unbalancedBrackets => "UnbalancedBrackets"
  | .malformedToken => "MalformedToken"
  | .unknownToken => "UnknownToken"
  | .unknownTransform => "UnknownTransform"
  | .missingRequiredParameter => "MissingRequiredParameter"
  | .invalidParameter => "InvalidParameter"
  | .recursionLimitExceeded => "RecursionLimitExceeded"
  | .outputLimitExceeded => "OutputLimitExceeded"

/-- A recoverable error: `raw` is the whole token at fault. -/
inductive PatternError where
  | patternUnusable (shown : Text)
  | optionsUnusable (reason : String)
  | strayBracket (position : Nat)
  | unfinished (depth : Nat) (raw : Text)
  | unmatchedBracket (raw : Text)
  | unclosedBracket (raw : Text)
  | unexpectedTail (tail raw : Text)
  | countMissing (raw : Text)
  | countMalformed (count raw : Text)
  | countNotPositive (raw : Text)
  | countTooLarge (limit : Nat) (raw : Text)
  | integerTooLong (raw : Text)
  | nameMalformed (name raw : Text)
  | valueMissing (raw : Text)
  | valueMalformed (value : Text)
  | tokenUnknown (raw : Text)
  | nameNotText (kind : String)
  | nameInvalid (name : Text)
  | parameterTooLong (name : Text)
  | transformUnknown (name : Text)
  | parameterMissing (name : Text)
  | repeatTooLarge (copies steps : Nat)
  | gridZero
  | parameterRejected (reason : String)
  | tooDeep (limit : Nat) (raw : Text)
  | tooManySteps (limit : Nat) (token : String)
  deriving DecidableEq, Repr

namespace PatternError

def errorClass : PatternError → ErrorClass
  | patternUnusable _ | optionsUnusable _ => .invalidInput
  | unfinished _ _ | unclosedBracket _ => .unbalancedBrackets
  | strayBracket _ | unmatchedBracket _ | unexpectedTail _ _ | countMissing _ | countMalformed _ _
  | countNotPositive _ | countTooLarge _ _ | integerTooLong _ | nameMalformed _ _ | valueMissing _
  | valueMalformed _ => .malformedToken
  | tokenUnknown _ => .unknownToken
  | nameNotText _ | nameInvalid _ | parameterTooLong _ | transformUnknown _ => .unknownTransform
  | parameterMissing _ => .missingRequiredParameter
  | repeatTooLarge _ _ | gridZero | parameterRejected _ => .invalidParameter
  | tooDeep _ _ => .recursionLimitExceeded
  | tooManySteps _ _ => .outputLimitExceeded

def message : PatternError → String
  | patternUnusable shown => "Invalid pattern input: " ++ shown.string
  | optionsUnusable reason => "Invalid options: " ++ reason
  | strayBracket position => s!"Unmatched ']' at position {position}"
  | unfinished depth raw => s!"{depth} unclosed bracket(s) in " ++ raw.quoted
  | unmatchedBracket raw => "Unmatched ']' in " ++ raw.quoted
  | unclosedBracket raw => "Unclosed bracket in " ++ raw.quoted
  | unexpectedTail tail raw =>
      "Unexpected " ++ tail.quoted ++ " after closing bracket in " ++ raw.quoted
  | countMissing raw => "Repeat operator with no count in " ++ raw.quoted
  | countMalformed count raw => "Invalid repeat count " ++ count.quoted ++ " in " ++ raw.quoted
  | countNotPositive raw => "Repeat count must be positive in " ++ raw.quoted
  | countTooLarge limit raw => s!"Repeat count exceeds {limit} in " ++ raw.quoted
  | integerTooLong raw => "Integer too long in " ++ Text.quoted (raw.take 40) ++ "..."
  | nameMalformed name raw =>
      "Invalid transformation name " ++ name.quoted ++ " in " ++ raw.quoted
  | valueMissing raw => "Repeat operator with no value in " ++ raw.quoted
  | valueMalformed value => "Invalid value for repetition: " ++ value.quoted
  | tokenUnknown raw => "Unknown token: " ++ raw.quoted
  | nameNotText kind => "Transformation name must be a string, got " ++ kind
  | nameInvalid name => "Invalid transformation name: " ++ name.quoted
  | parameterTooLong name => "Parameter too long in transformation " ++ name.quoted
  | transformUnknown name => "Unknown transformation: " ++ name.string
  | parameterMissing name => name.string ++ " transformation requires a numeric parameter"
  | repeatTooLarge copies steps => s!"repeat is limited to {copies} copies and {steps} steps"
  | gridZero => "quantize grid cannot be zero"
  | parameterRejected reason => reason
  | tooDeep limit raw =>
      s!"Maximum recursion depth ({limit}) exceeded, skipping " ++ raw.quoted
  | tooManySteps limit token => s!"Sequence would exceed {limit} steps, skipping " ++ token

end PatternError

/-! ## Refused settings -/

/-- A setting, a registration or a request that is refused; `shown` is the value at fault. -/
inductive SettingError where
  | unknownKeys (owner : String) (keys : List Text)
  | depthNotInteger (shown : Text)
  | depthOutOfRange (limit : Nat)
  | restSymbolEmpty
  | restSymbolForbidden (symbol : Text)
  | lengthNegative (shown : Text)
  | boundsCrossed (low high : Text)
  | probabilityOutOfRange (field : String) (shown : Text)
  | configNotMapping (path : Text)
  | entryNotPair (index length : Nat)
  | noChoices
  | weightNotPositive
  | nameNotLetters (name : Text)
  | modeUnknown (shown : Text)
  | notInteger (base : Nat) (t : Text)
  | digitLimit (limit : Nat)
  | boundNotNumber
  | lowNotWhole
  | highNotWhole
  | rangeEmpty (low stop : Int)
  deriving DecidableEq, Repr

def SettingError.message : SettingError → String
  | unknownKeys owner keys => "Unknown " ++ owner ++ " keys: " ++ (Text.commaList keys).string
  | depthNotInteger shown => "max_recursion_depth must be an integer, got " ++ shown.string
  | depthOutOfRange limit => s!"max_recursion_depth must be between 0 and {limit}"
  | restSymbolEmpty => "rest_symbol must be a non-empty string"
  | restSymbolForbidden symbol =>
      "rest_symbol cannot contain whitespace, brackets or '*': " ++ symbol.quoted
  | lengthNegative shown => "length cannot be negative (" ++ shown.string ++ ")"
  | boundsCrossed low high =>
      "min_value (" ++ low.string ++ ") must be <= max_value (" ++ high.string ++ ")"
  | probabilityOutOfRange field shown =>
      field ++ " must be between 0.0 and 1.0, got " ++ shown.string
  | configNotMapping path => "Config file " ++ path.string ++ " must contain a mapping"
  | entryNotPair index length =>
      s!"dictionary update sequence element #{index} has length {length}; 2 is required"
  | noChoices => "Options list cannot be empty"
  | weightNotPositive => "Total weight must be positive"
  | nameNotLetters name => "Transform names must be letters only: " ++ name.quoted
  | modeUnknown shown => "Unknown parameter mode: " ++ shown.string
  | notInteger base t => s!"invalid literal for int() with base {base}: " ++ t.quoted
  | digitLimit limit =>
      s!"Exceeds the limit ({limit} digits) for integer string conversion; "
        ++ "use sys.set_int_max_str_digits() to increase the limit"
  | boundNotNumber => "cannot convert float NaN to integer"
  | lowNotWhole => "non-integer arg 1 for randrange()"
  | highNotWhole => "non-integer stop for randrange()"
  | rangeEmpty low stop =>
      let width := stop - low
      s!"empty range for randrange() ({low}, {stop}, {width})"

/-! ## Faults -/

/-- What makes a file unreadable. -/
inductive Unreadable where
  /-- A character that no file may hold. -/
  | character
  /-- Characters that are no part of the language where they stand. -/
  | lexeme
  /-- A part where no such part may be. -/
  | «structure»
  /-- A name that nothing has, or a second document. -/
  | reference
  /-- A part that has no value. -/
  | value
  deriving DecidableEq, Repr

/-- Why an operation ended early. -/
inductive Fault where
  /-- A recoverable error that nothing recovered from. -/
  | pattern (error : PatternError)
  /-- A refused setting or request. -/
  | setting (error : SettingError)
  /-- A value of a kind that the operation does not take. -/
  | wrongKind
  /-- A part looked for in a value that has none of that name. -/
  | noPart
  /-- A number too large for a double. -/
  | tooLarge
  /-- An operation on decimals that has no result. -/
  | undefined
  /-- A decimal beyond the largest exponent. -/
  | outOfRange
  /-- A request for a sequence without end. -/
  | endless
  /-- A file that is not in the form that is read. -/
  | unreadable (why : Unreadable)
  /-- A directory where a file is wanted. -/
  | directory
  /-- A registered function that failed for a reason of its own. -/
  | raised (reason : String)
  deriving DecidableEq, Repr

/-! ## The log -/

/-- The text of a diagnostic: its class and its wording. -/
def PatternError.record (error : PatternError) : String :=
  error.errorClass.name ++ ": " ++ error.message

/-- How loud a record of the log is. -/
inductive Level where
  | debug
  | warning
  | error
  deriving DecidableEq, Repr

/-- One record of the log. -/
inductive LogEntry where
  /-- A recovered error, at warning level if `loud` and at debug level otherwise. -/
  | diagnostic (loud : Bool) (error : PatternError)
  /-- A fault that was caught, at error level. -/
  | failure (fault : Fault) (message : String)
  /-- A warning that is no diagnostic. -/
  | notice (message : String)
  deriving DecidableEq, Repr

namespace LogEntry

def level : LogEntry → Level
  | diagnostic true _ | notice _ => .warning
  | diagnostic false _ => .debug
  | failure _ _ => .error

def text : LogEntry → String
  | diagnostic _ error => error.record
  | failure _ message | notice message => message

end LogEntry

abbrev Log := List LogEntry

/-! ## Results -/

section Results

variable {ε α β : Type} {result : Except ε α} {cause : ε} {b : β}

theorem map_eq_ok_iff {f : α → β} : result.map f = .ok b ↔ ∃ a, result = .ok a ∧ f a = b := by
  cases result <;> simp [Except.map]

theorem map_eq_error_iff {f : α → β} : result.map f = .error cause ↔ result = .error cause := by
  cases result <;> simp [Except.map]

/-- An operation followed by another gives a result where both do. -/
theorem bind_eq_ok_iff {f : α → Except ε β} :
    result >>= f = .ok b ↔ ∃ a, result = .ok a ∧ f a = .ok b := by
  cases result <;> simp [bind, Except.bind]

theorem bind_eq_error_iff {f : α → Except ε β} :
    result >>= f = .error cause ↔
      result = .error cause ∨ ∃ a, result = .ok a ∧ f a = .error cause := by
  cases result <;> simp [bind, Except.bind]

end Results

end StepPattern
