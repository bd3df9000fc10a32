import TypedBundle.Command.Commands

/-!
# Command lines

What the words of a command line ask for. An option has a long name, or a letter for short, and
takes one value: the next word, or what follows an equals sign or the letter. The order of
options and command does not matter.
-/

namespace TypedBundle

/-- What a command line asks for. -/
inductive Request where
  /-- How the program is used. -/
  | help
  | generate (input output : String)
  | check (input : String)
  | describe (input : String)
  deriving Repr, BEq, DecidableEq

/-- A request, and the least level of reports that are shown on the way. -/
structure Invocation where
  request : Request
  logLevel : Level := .byDefault
  deriving Repr, BEq, DecidableEq

/-- Why a command line makes no sense. -/
inductive UsageError where
  | noCommand
  | unknownCommand (word : String)
  | unexpectedWord (word : String)
  | unknownOption (word : String)
  | missingValue (option : String)
  | repeatedOption (option : String)
  | missingOption (option : String)
  | unknownLevel (reason : String)
  deriving Repr, BEq, DecidableEq

namespace UsageError

/-- The error as a sentence. -/
def message : UsageError → String
  | noCommand => "a command is required"
  | unknownCommand word => "unrecognized subcommand '" ++ word ++ "'"
  | unexpectedWord word => "unexpected argument '" ++ word ++ "' found"
  | unknownOption word => "unexpected argument '" ++ word ++ "' found"
  | missingValue option => "a value is required for '" ++ option ++ "' but none was supplied"
  | repeatedOption option => "the argument '" ++ option ++ "' cannot be used multiple times"
  | missingOption option => "the required argument '" ++ option ++ "' was not provided"
  | unknownLevel reason => "invalid value for '--log-level': " ++ reason

end UsageError

namespace Invocation

/-- How the program is used. -/
def usage : String :=
  "Typed Bundle accessor generator for Android\n\n" ++
  "Usage: bunch [--log-level LEVEL] COMMAND\n\n" ++
  "Commands:\n" ++
  "  generate -o DIRECTORY [-i MANIFEST]  Generate Kotlin sources\n" ++
  "  check [-i MANIFEST]                  Validate a manifest without writing anything\n" ++
  "  describe [-i MANIFEST]               Print the synthesized types as JSON\n\n" ++
  "MANIFEST is bunch.toml by default; LEVEL is one of trace, debug, info, warn, error, off.\n"

/-- The options with a value, each with its letter if it has one. -/
def options : List (String × Option Char) :=
  [("--input", some 'i'), ("--output", some 'o'), ("--log-level", none)]

/-- The option that a word names, and the value that is written with it. -/
def option? (word : String) : Option (String × Option String) :=
  let cs := word.toList
  let name := String.ofList (cs.takeWhile (· != '='))
  match options.find? (·.1 == name), cs with
  | some (long, _), _ =>
    match cs.dropWhile (· != '=') with
    | [] => some (long, none)
    | _ :: value => some (long, some (String.ofList value))
  | none, '-' :: letter :: rest =>
    (options.find? (·.2 == some letter)).map fun o =>
      match rest with
      | [] => (o.1, none)
      | '=' :: value => (o.1, some (String.ofList value))
      | value => (o.1, some (String.ofList value))
  | none, _ => none

/-- The words of a command line that are no options, and the options with their values. -/
structure Words where
  plain : List String := []
  given : List (String × String) := []
  deriving Repr

namespace Words

/-- Adds an option. -/
def give (w : Words) (option value : String) : Except UsageError Words :=
  if (w.given.lookup option).isSome then .error (.repeatedOption option)
  else .ok { w with given := w.given ++ [(option, value)] }

/-- Takes up words in turn. -/
def scan (w : Words) : List String → Except UsageError Words
  | [] => .ok w
  | word :: rest =>
    match option? word with
    | some (option, some value) => do (← w.give option value).scan rest
    | some (option, none) =>
      match rest with
      | [] => .error (.missingValue option)
      | value :: rest => do (← w.give option value).scan rest
    | none =>
      if word.startsWith "-" then .error (.unknownOption word)
      else ({ w with plain := w.plain ++ [word] } : Words).scan rest

/-- The manifest to work on. -/
def input (w : Words) : String := (w.given.lookup "--input").getD "bunch.toml"

/-- What the words ask for. -/
def request (w : Words) : Except UsageError Request :=
  match w.plain, w.given.lookup "--output" with
  | [], _ => .error .noCommand
  | ["generate"], some output => .ok (.generate w.input output)
  | ["generate"], none => .error (.missingOption "--output")
  | ["check"], none => .ok (.check w.input)
  | ["describe"], none => .ok (.describe w.input)
  | ["check"], some _ | ["describe"], some _ => .error (.unexpectedWord "--output")
  | [word], _ => .error (.unknownCommand word)
  | _ :: word :: _, _ => .error (.unexpectedWord word)

/-- The least level of reports that are shown. -/
def logLevel (w : Words) : Except UsageError Level :=
  match w.given.lookup "--log-level" with
  | none => .ok .byDefault
  | some text => (Level.parse text).mapError .unknownLevel

end Words

/-- What a command line asks for. -/
def ofWords (words : List String) : Except UsageError Invocation :=
  if words.contains "--help" ∨ words.contains "-h" then .ok { request := .help }
  else do
    let w ← Words.scan {} words
    return { logLevel := ← w.logLevel, request := ← w.request }

end Invocation

/-- Does what is asked for. -/
def Request.run {m : Type → Type} [Monad m] (sys : System m) : Request → Command.Run m Unit
  | help => sys.print Invocation.usage
  | generate input output => discard (Command.generate sys input output)
  | check input => Command.check sys input
  | describe input => Command.describe sys input

end TypedBundle
