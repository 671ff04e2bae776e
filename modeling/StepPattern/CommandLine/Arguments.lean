/-
# StepPattern.CommandLine.Arguments -- the words of a command line

The arguments are options and at most one pattern, in any order.  An option may be
shortened as long as it stays unique; its value is the next word or what follows
`=`, and the last of several wins.  After `--` every word is a plain one.  A word
that begins with `-` is still a plain one if it is `-` itself, looks like a negative
number, or holds a space, unless it is the beginning of an option.  What is behind
an `=` or behind the short word for help is taken in one of two ways (`Release`).

All words are told apart before any of them is used, so an ambiguous option is
reported first.  A plain word too many and an unknown option are reported last.
-/
import StepPattern.Value

namespace StepPattern

set_option autoImplicit false

/-- The options of the command line. -/
inductive Flag where
  | help
  | config
  | maxDepth
  | restSymbol
  | normalize
  | verbose
  | seed
  | random
  | length
  | style
  deriving DecidableEq, Repr

namespace Flag

def all : List Flag :=
  [help, config, maxDepth, restSymbol, normalize, verbose, seed, random, length, style]

def word : Flag → String
  | help => "--help"
  | config => "--config"
  | maxDepth => "--max-depth"
  | restSymbol => "--rest-symbol"
  | normalize => "--normalize"
  | verbose => "--verbose"
  | seed => "--seed"
  | random => "--random"
  | length => "--length"
  | style => "--style"

def shortHelp : String := "-h"

def label : Flag → String
  | help => shortHelp ++ "/" ++ word help
  | f => f.word

def takesValue : Flag → Bool
  | config | maxDepth | restSymbol | seed | length | style => true
  | help | normalize | verbose | random => false

def takesInteger : Flag → Bool
  | maxDepth | seed | length => true
  | _ => false

def ofWord? (t : Text) : Option Flag :=
  if t = shortHelp.toList then some help else all.find? fun f => f.word.toList = t

def beginningWith (t : Text) : List Flag :=
  all.filter fun f => t.isPrefixOf f.word.toList

end Flag

/-- What is wrong with a command line. -/
inductive UsageError where
  | ambiguous (word : Text) (flags : List Flag)
  | notInteger (flag : Flag) (value : Text)
  | valueMissing (flag : Flag)
  | valueIgnored (flag : Flag) (value : Text)
  | unrecognized (words : List Text)
  | setting (error : SettingError)
  | patternMissing
  deriving DecidableEq, Repr

def UsageError.message : UsageError → String
  | ambiguous word flags =>
      "ambiguous option: " ++ word.string ++ " could match "
        ++ ", ".intercalate (flags.map Flag.word)
  | notInteger flag value => "argument " ++ flag.label ++ ": invalid int value: " ++ value.quoted
  | valueMissing flag => "argument " ++ flag.label ++ ": expected one argument"
  | valueIgnored flag value =>
      "argument " ++ flag.label ++ ": ignored explicit argument " ++ value.quoted
  | unrecognized words => "unrecognized arguments: " ++ (Text.join [' '] words).string
  | setting error => error.message
  | patternMissing => "a pattern is required unless --random or --style is given"

/-- What a command line asks for.  An option that is not given has no value. -/
structure Arguments where
  pattern : Option Text := none
  config : Value := .none
  maxDepth : Value := .none
  restSymbol : Value := .none
  normalize : Value := .none
  verbose : Value := .none
  seed : Value := .none
  random : Bool := false
  length : Value := .none
  style : Value := .none
  deriving Repr

/-- The releases of the reader of words that differ in what they make of an attached `--` and of
letters behind the short word for help. -/
inductive Release where
  | earlier
  | later
  deriving DecidableEq, Repr

/-- Why the words of a command line are not read to their end. -/
inductive Stop where
  | usage (error : UsageError)
  /-- Help is asked for. -/
  | help
  deriving DecidableEq, Repr

/-! ## Telling words apart -/

/-- A word of the command line by its kind. -/
inductive Word where
  | plain (t : Text)
  | option (flag : Flag) (value : Option Text)
  /-- The short word for help with more behind it, by an `=` or at once. -/
  | shortHelp (attached : Bool) (more : Text)
  | unknown (t : Text)
  | separator
  deriving DecidableEq, Repr

namespace Word

/-- Whether a text is a minus sign and digits, perhaps with a point before the last of them. -/
def isNegativeNumber (t : Text) : Bool :=
  match Text.dropFinalNewline t with
  | '-' :: digits =>
      match digits.dropWhile Text.isDecimal with
      | [] => !digits.isEmpty
      | '.' :: fraction => Text.isDigits fraction
      | _ => false
  | _ => false

/-- A text up to its first `=`, and what follows it. -/
def splitValue (t : Text) : Option (Text × Text) :=
  match t.dropWhile (· ≠ '=') with
  | [] => none
  | _ :: value => some (t.takeWhile (· ≠ '='), value)

/-- The options that a word with two dashes may be short for, and the value attached to it. -/
def candidates (t : Text) : List Flag × Option Text :=
  match splitValue t with
  | some (word, value) => (Flag.beginningWith word, some value)
  | none => (Flag.beginningWith t, none)

/-- The kind of a word with two dashes that is not a whole option. -/
def ofDashed (t : Text) : Except UsageError Word :=
  match candidates t with
  | ([flag], value) => .ok (option flag value)
  | (first :: second :: others, _) => .error (.ambiguous t (first :: second :: others))
  | ([], _) => .ok (if t.contains ' ' then plain t else unknown t)

/-- The kind of a word with one dash that is not a whole option. -/
def ofShort (t : Text) : Word :=
  match t with
  | '-' :: 'h' :: more => shortHelp false more
  | _ => if isNegativeNumber t ∨ t.contains ' ' then plain t else unknown t

/-- The option that a word names in full before an `=`. -/
def withValue? (t : Text) : Option Word :=
  match splitValue t with
  | none => none
  | some (word, value) =>
      if word = Flag.shortHelp.toList then some (shortHelp true value)
      else (Flag.ofWord? word).map fun flag => option flag (some value)

/-- The kind of a word before any separator. -/
def ofText (t : Text) : Except UsageError Word :=
  match t with
  | '-' :: second :: _ =>
      match Flag.ofWord? t, withValue? t with
      | some flag, _ => .ok (option flag none)
      | none, some word => .ok word
      | none, none => if second = '-' then ofDashed t else .ok (ofShort t)
  | _ => .ok (plain t)

/-- The kinds of all words, up to an ambiguous one. -/
def ofTexts : List Text → Except UsageError (List Word)
  | [] => .ok []
  | t :: ts =>
      if t = ['-', '-'] then .ok (separator :: ts.map plain)
      else do return (← ofText t) :: (← ofTexts ts)

end Word

/-! ## Using the words -/

namespace Arguments

/-- The value that a text gives to an option. -/
def valueOf (flag : Flag) (t : Text) : Except Stop Value :=
  if flag.takesInteger then
    match Text.readInteger? t with
    | some n => .ok (.int n)
    | none => .error (.usage (.notInteger flag t))
  else .ok (.text t)

/-- The value that a text attached by `=` gives to an option: an earlier release drops `--`, which
leaves an empty list. -/
def attachedValue (release : Release) (flag : Flag) (t : Text) : Except Stop Value :=
  if release = .earlier ∧ t = ['-', '-'] then .ok (.list []) else valueOf flag t

def give (a : Arguments) (v : Value) : Flag → Arguments
  | .config => { a with config := v }
  | .maxDepth => { a with maxDepth := v }
  | .restSymbol => { a with restSymbol := v }
  | .seed => { a with seed := v }
  | .length => { a with length := v }
  | .style => { a with style := v }
  | .help | .normalize | .verbose | .random => a

/-- An option that takes no value. -/
def switch (a : Arguments) : Flag → Except Stop Arguments
  | .help => .error .help
  | .normalize => .ok { a with normalize := .bool true }
  | .verbose => .ok { a with verbose := .bool true }
  | .random => .ok { a with random := true }
  | .config | .maxDepth | .restSymbol | .seed | .length | .style => .ok a

/-- What letters at once behind the short word for help mean in a later release: help, unless a dash
or a value is found among those that ask for it again. -/
def helpLetters : Text → Stop
  | 'h' :: '=' :: value => .usage (.valueIgnored .help value)
  | 'h' :: more => helpLetters more
  | '-' :: more => .usage (.valueIgnored .help ('-' :: more))
  | _ => .help

/-- What more behind the short word for help means.  In an earlier release all of it must ask for
help again. -/
def moreHelp (release : Release) (attached : Bool) (more : Text) : Stop :=
  match release, attached with
  | .earlier, _ =>
      if !more.isEmpty ∧ more.all (· = 'h') then .help
      else .usage (.valueIgnored .help (more.dropWhile (· = 'h')))
  | .later, true => .usage (.valueIgnored .help more)
  | .later, false => helpLetters more

/-- The words of a command line used in order: whether the pattern's place is taken, what they ask
for so far, and the words left over, the last one first. -/
def useWords (release : Release) (taken : Bool) (a : Arguments) (left : List Text) :
    List Word → Except Stop Arguments
  | [] => if left.isEmpty then .ok a else .error (.usage (.unrecognized left.reverse))
  | .shortHelp attached more :: _ => .error (moreHelp release attached more)
  | .option flag (some value) :: words =>
      if flag.takesValue then do
        useWords release taken (a.give (← attachedValue release flag value) flag) left words
      else .error (.usage (.valueIgnored flag value))
  | .option flag none :: words =>
      if flag.takesValue then
        match words with
        | .plain value :: words => do
            useWords release taken (a.give (← valueOf flag value) flag) left words
        | _ => .error (.usage (.valueMissing flag))
      else do useWords release taken (← a.switch flag) left words
  | .plain t :: .separator :: words =>
      if taken then useWords release taken a (['-', '-'] :: t :: left) words
      else useWords release true { a with pattern := some t } left words
  | .separator :: .plain t :: words =>
      if taken then useWords release taken a (t :: ['-', '-'] :: left) words
      else useWords release true { a with pattern := some t } left words
  | .separator :: words =>
      if taken then useWords release taken a (['-', '-'] :: left) words
      else useWords release true a left words
  | .plain t :: words =>
      if taken then useWords release taken a (t :: left) words
      else useWords release true { a with pattern := some t } left words
  | .unknown t :: words => useWords release taken a (t :: left) words

/-- What the words of a command line ask for. -/
def read (words : List Text) (release : Release := .earlier) : Except Stop Arguments :=
  match Word.ofTexts words with
  | .error error => .error (.usage error)
  | .ok words => useWords release false {} [] words

end Arguments

end StepPattern
