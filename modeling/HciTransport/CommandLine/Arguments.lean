import HciTransport.CommandLine.Options

/-!
# Arguments

The commands and what each of them takes. One option, which asks for more to be logged, may stand
before the command or behind it, and in both places at once.
-/

namespace HciTransport.CommandLine

/-- What `dump` takes. -/
structure DumpOptions where
  /-- The controller, or minus one for the first that can be had. -/
  index : Int
  /-- Stop after this many frames. -/
  count : Option Nat
  sendReset : Bool
  /-- How long to wait for stale input, in milliseconds. -/
  drainMillis : UInt64
  deriving DecidableEq, Repr

inductive Command where
  | list
  | info (devId : UInt16)
  | up (devId : UInt16)
  | down (devId : UInt16)
  | reset (devId : UInt16)
  | dump (options : DumpOptions)
  deriving DecidableEq, Repr

structure Arguments where
  command : Command
  verbose : Bool
  deriving DecidableEq, Repr

def verboseOption : OptionSpec := ⟨"verbose", some 'v', false, false⟩
def indexOption : OptionSpec := ⟨"index", some 'i', true, true⟩
def countOption : OptionSpec := ⟨"count", some 'c', true, false⟩
def sendResetOption : OptionSpec := ⟨"send-reset", none, false, false⟩
def drainOption : OptionSpec := ⟨"drain-ms", none, true, false⟩

def dumpSpecs : List OptionSpec :=
  [verboseOption, indexOption, countOption, sendResetOption, drainOption]

/-- The index of a controller. The sign is read before the range is looked at, so minus zero is one. -/
def index? (text : String) : Option UInt16 :=
  match integer? text with
  | some n => if 0 ≤ n ∧ n < 65536 then some (UInt16.ofNat n.toNat) else none
  | none => none

/-- An index that may also be negative, as far as a signed word of 32 bits holds it. -/
def selectorIndex? (text : String) : Option Int :=
  match integer? text with
  | some n => if -2147483648 ≤ n ∧ n < 2147483648 then some n else none
  | none => none

/-- A count or a span of time, as far as a word of 64 bits holds it. -/
def word64? (text : String) : Option UInt64 :=
  match natural? text with
  | some n => if n < UInt64.size then some (UInt64.ofNat n) else none
  | none => none

/-- The value of an option, read by `read`; `none` if the option is not there. -/
def optionValue {α : Type} (found : Matched) (spec : OptionSpec) (read : String → Option α) :
    Except UsageError (Option α) :=
  match found.value? spec.long with
  | none => .ok none
  | some text =>
    match read text with
    | some value => .ok (some value)
    | none => .error (.invalidValue ("--" ++ spec.long) text)

/-- No words are left over. -/
def noWords (found : Matched) : Except UsageError Unit :=
  match found.words with
  | [] => .ok ()
  | word :: _ => .error (.extraArgument word)

/-- A command that takes the index of a controller and nothing else. -/
def onController (found : Matched) (command : UInt16 → Command) : Except UsageError Command :=
  match found.words with
  | [] => .error (.missingArgument "dev_id")
  | [word] =>
    match index? word with
    | some devId => .ok (command devId)
    | none => .error (.invalidValue "dev_id" word)
  | _ :: word :: _ => .error (.extraArgument word)

def dumpCommand (found : Matched) : Except UsageError Command := do
  noWords found
  let index ← optionValue found indexOption selectorIndex?
  let count ← optionValue found countOption word64?
  let drain ← optionValue found drainOption word64?
  return .dump
    { index := index.getD (-1)
      count := count.map (·.toNat)
      sendReset := found.has sendResetOption.long
      drainMillis := drain.getD 20 }

/-- Reads the words that follow the name of a command. -/
def commandArguments (name : String) (words : List String) : Except UsageError (Command × Bool) := do
  let specs := if name = "dump" then dumpSpecs else [verboseOption]
  let found ← matchWords specs none false {} words
  let command ← match name with
    | "list" => (noWords found).map fun () => Command.list
    | "info" => onController found .info
    | "up" => onController found .up
    | "down" => onController found .down
    | "reset" => onController found .reset
    | _ => dumpCommand found
  return (command, found.has verboseOption.long)

def commandNames : List String := ["list", "info", "up", "down", "reset", "dump"]

/-- Reads a whole command line: options, the name of a command, and what belongs to it. -/
def parseFrom (found : Matched) : List String → Except UsageError Arguments
  | [] => .error .noCommand
  | word :: rest =>
    match Word.ofChars word.toList with
    | .plain =>
      if word ∈ commandNames then
        (commandArguments word rest).map fun (command, verbose) =>
          ⟨command, verbose || found.has verboseOption.long⟩
      else .error (.unknownCommand word)
    | .endOfOptions =>
      match rest with
      | [] => .error .noCommand
      | word :: _ => .error (.unknownCommand word)
    | .shorts letters =>
      match matchShorts [verboseOption] found letters with
      | .error error => .error error
      | .ok (found, _) => parseFrom found rest
    | .long name value =>
      match matchLong [verboseOption] found name value with
      | .error error => .error error
      | .ok (found, _) => parseFrom found rest

def Arguments.parse (words : List String) : Except UsageError Arguments := parseFrom {} words

end HciTransport.CommandLine
