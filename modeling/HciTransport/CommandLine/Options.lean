/-!
# Options on a command line

What the words of a command line mean by their shape alone. A word is an option in its long form, a
group of short ones, the mark that ends the options, or plain. The value of an option stands in the
same word or in the next; only an option that admits it takes a next word that begins with a hyphen.
No option may be given twice.
-/

namespace HciTransport.CommandLine

/-- Why a command line makes no sense. -/
inductive UsageError where
  | noCommand
  | unknownCommand (word : String)
  | unknownOption (text : String)
  | repeated (option : String)
  | missingValue (option : String)
  /-- A value was given to an option that takes none. -/
  | unexpectedValue (option : String)
  | invalidValue (name value : String)
  | missingArgument (name : String)
  | extraArgument (word : String)
  deriving DecidableEq, Repr

namespace UsageError

def message : UsageError → String
  | .noCommand => "a command is required"
  | .unknownCommand word => "unrecognized command: " ++ word
  | .unknownOption text => "unexpected option: " ++ text
  | .repeated option => "given more than once: --" ++ option
  | .missingValue option => "a value is required: --" ++ option
  | .unexpectedValue option => "takes no value: --" ++ option
  | .invalidValue name value => "invalid value for " ++ name ++ ": " ++ value
  | .missingArgument name => "missing: " ++ name
  | .extraArgument word => "unexpected argument: " ++ word

end UsageError

/-- An option that a command knows. -/
structure OptionSpec where
  long : String
  short : Option Char
  takesValue : Bool
  /-- The value may begin with a hyphen. -/
  hyphenValue : Bool
  deriving DecidableEq, Repr

/-- What a command line holds: its options in order, each with its value if it takes one, and the
plain words. -/
structure Matched where
  options : List (String × Option String) := []
  words : List String := []
  deriving DecidableEq, Repr

namespace Matched

def has (found : Matched) (option : String) : Bool := found.options.any (·.1 = option)

def value? (found : Matched) (option : String) : Option String :=
  (found.options.find? (·.1 = option)).bind (·.2)

/-- Adds an option, unless it is there already. -/
def add (found : Matched) (option : String) (value : Option String) : Except UsageError Matched :=
  if found.has option then .error (.repeated option)
  else .ok { found with options := found.options ++ [(option, value)] }

end Matched

/-- The shape of a word. -/
inductive Word where
  | endOfOptions
  | long (name : String) (value : Option String)
  /-- Letters behind one hyphen; there is at least one. -/
  | shorts (letters : List Char)
  | plain
  deriving DecidableEq, Repr

/-- The shape of a word, by its characters; a lone hyphen is plain. -/
def Word.ofChars : List Char → Word
  | ['-', '-'] => .endOfOptions
  | '-' :: '-' :: rest =>
    match rest.dropWhile (· ≠ '=') with
    | [] => .long (String.ofList rest) none
    | _ :: value => .long (String.ofList (rest.takeWhile (· ≠ '='))) (some (String.ofList value))
  | '-' :: c :: rest => .shorts (c :: rest)
  | _ => .plain

/-- Reads a group of short options. An option with a value takes the rest of the group for it, with
or without a sign of equality between; if nothing is left, the next word has to bring it. -/
def matchShorts (specs : List OptionSpec) (found : Matched) :
    List Char → Except UsageError (Matched × Option OptionSpec)
  | [] => .ok (found, none)
  | c :: rest =>
    match specs.find? (·.short = some c) with
    | none => .error (.unknownOption (String.ofList ['-', c]))
    | some spec =>
      if spec.takesValue then
        match rest with
        | [] => .ok (found, some spec)
        | '=' :: value => (found.add spec.long (some (String.ofList value))).map (·, none)
        | value => (found.add spec.long (some (String.ofList value))).map (·, none)
      else
        match found.add spec.long none with
        | .error error => .error error
        | .ok found => matchShorts specs found rest

/-- Reads an option in its long form; may leave its value to the next word. -/
def matchLong (specs : List OptionSpec) (found : Matched) (name : String) (value : Option String) :
    Except UsageError (Matched × Option OptionSpec) :=
  match specs.find? (·.long = name) with
  | none => .error (.unknownOption ("--" ++ name))
  | some spec =>
    match spec.takesValue, value with
    | true, none => .ok (found, some spec)
    | true, some value => (found.add spec.long (some value)).map (·, none)
    | false, none => (found.add spec.long none).map (·, none)
    | false, some _ => .error (.unexpectedValue spec.long)

/-- Reads the words of a command. `waiting` is an option whose value is still to come, and `plain`
says that no more options follow. -/
def matchWords (specs : List OptionSpec) (waiting : Option OptionSpec) (plain : Bool)
    (found : Matched) : List String → Except UsageError Matched
  | [] =>
    match waiting with
    | some spec => .error (.missingValue spec.long)
    | none => .ok found
  | word :: rest =>
    match waiting with
    | some spec =>
      if spec.hyphenValue ∨ Word.ofChars word.toList = .plain then
        match found.add spec.long (some word) with
        | .error error => .error error
        | .ok found => matchWords specs none plain found rest
      else .error (.missingValue spec.long)
    | none =>
      if plain then matchWords specs none true { found with words := found.words ++ [word] } rest
      else
        match Word.ofChars word.toList with
        | .endOfOptions => matchWords specs none true found rest
        | .plain => matchWords specs none false { found with words := found.words ++ [word] } rest
        | .shorts letters =>
          match matchShorts specs found letters with
          | .error error => .error error
          | .ok (found, waiting) => matchWords specs waiting false found rest
        | .long name value =>
          match matchLong specs found name value with
          | .error error => .error error
          | .ok (found, waiting) => matchWords specs waiting false found rest

/-! ### Numbers -/

/-- Decimal digits, at least one. -/
def digits? (text : List Char) : Option Nat :=
  if text.isEmpty ∨ text.any fun c => !c.isDigit then none
  else some (text.foldl (fun total c => 10 * total + (c.toNat - 48)) 0)

/-- A number with a sign or without. -/
def integer? (text : String) : Option Int :=
  match text.toList with
  | '-' :: rest => (digits? rest).map fun n => -(n : Int)
  | '+' :: rest => (digits? rest).map fun n => (n : Int)
  | rest => (digits? rest).map fun n => (n : Int)

/-- A number that takes no minus sign, not even before a zero. -/
def natural? (text : String) : Option Nat :=
  match text.toList with
  | '+' :: rest => digits? rest
  | rest => digits? rest

end HciTransport.CommandLine
