/-!
# Requests to the development command line

A request names a task, with a flag or a target where the task takes one, or
asks for help.  Words are read from the left, and the first that does not fit
decides how the reading ends.
-/

namespace VirtualAdapter
namespace Tasks

/-- The commands of the command line. -/
inductive Command
  | test
  | fuzz
  | wintun
  | loopback
  | clippy
  | fmt
  | help
  deriving DecidableEq

/-- What can be done for a developer. -/
inductive Task
  /-- Run all tests. -/
  | test
  /-- Run one fuzz target, or try all of them. -/
  | fuzz (target : Option String)
  /-- Run the tests against the real driver. -/
  | wintun
  /-- Run the loopback example. -/
  | loopback
  /-- Lint the code, on demand also the part for Windows. -/
  | clippy (windows : Bool)
  /-- Check the formatting, or mend it. -/
  | fmt (fix : Bool)
  deriving DecidableEq

/-- Why a request cannot be read. -/
inductive UsageError
  | missingCommand
  | unknownCommand (name : String)
  | unexpectedArgument (command : Option Command) (argument : String)
  | unexpectedValue (command : Option Command) (flag value : String)
  | repeatedFlag (command : Command) (flag : String)
  deriving DecidableEq

/-- What the words of a request ask for. -/
inductive Request
  | perform (task : Task)
  /-- Help on one command, or on all. -/
  | help (command : Option Command)
  | refused (error : UsageError)
  deriving DecidableEq

namespace Command

/-- All commands, in the order in which help lists them. -/
def all : List Command :=
  [test, fuzz, wintun, loopback, clippy, fmt, help]

/-- The word for a command. -/
def name : Command → String
  | test => "test"
  | fuzz => "fuzz"
  | wintun => "wintun"
  | loopback => "loopback"
  | clippy => "clippy"
  | fmt => "fmt"
  | help => "help"

/-- The command of a word. -/
def ofName? (word : String) : Option Command :=
  all.find? fun command => command.name == word

/-- Every command is found by its word. -/
@[simp]
theorem ofName?_name (command : Command) : ofName? command.name = some command := by
  cases command <;> decide

/-- The flag that a command takes. -/
def flag? : Command → Option String
  | clippy => some "windows"
  | fmt => some "fix"
  | _ => none

/-- A command that takes a target. -/
def takesTarget (command : Command) : Bool :=
  command == fuzz

end Command

/-- What was read of the arguments of a command. -/
structure Arguments where
  /-- The flag of the command was given. -/
  flagged : Bool := false
  /-- The target. -/
  target : Option String := none
  deriving DecidableEq

/-- How one word counts, unless it stands after the mark that ends all
flags. -/
inductive Word
  /-- The mark that ends all flags. -/
  | endOfFlags
  /-- A flag, with a value if one is attached. -/
  | flag (name : String) (value : Option String)
  /-- Flags of one letter each, the first of them shown. -/
  | letters (first : Char)
  | plain
  deriving DecidableEq

/-- How a word counts; a single dash is a plain word. -/
def Word.ofText (text : String) : Word :=
  match text.toList with
  | ['-', '-'] => .endOfFlags
  | '-' :: '-' :: rest =>
      let name := rest.takeWhile (· != '=')
      match rest.drop name.length with
      | [] => .flag (String.ofList name) none
      | _ :: value => .flag (String.ofList name) (some (String.ofList value))
  | '-' :: first :: _ => .letters first
  | _ => .plain

namespace Request

/-- The task of a command with its arguments; help is not a task. -/
def ofArguments (command : Command) (arguments : Arguments) : Request :=
  match command with
  | .test => .perform .test
  | .fuzz => .perform (.fuzz arguments.target)
  | .wintun => .perform .wintun
  | .loopback => .perform .loopback
  | .clippy => .perform (.clippy arguments.flagged)
  | .fmt => .perform (.fmt arguments.flagged)
  | .help => .help none

/-- Read the arguments of a command, where flags may have ended. -/
def readArguments
    (command : Command) :
    (flagsEnded : Bool) → Arguments → List String → Request
  | _, arguments, [] => ofArguments command arguments
  | flagsEnded, arguments, text :: rest =>
      let unexpected : Request :=
        .refused (.unexpectedArgument (some command) text)
      let word := if flagsEnded then .plain else Word.ofText text
      match word with
      | .endOfFlags => readArguments command true arguments rest
      | .letters first => if first = 'h' then .help (some command) else unexpected
      | .flag name value =>
          if name = "help" ∨ command.flag? = some name then
            match value with
            | some value =>
                .refused (.unexpectedValue (some command) name value)
            | none =>
                if name = "help" then .help (some command)
                else if arguments.flagged then
                  .refused (.repeatedFlag command name)
                else
                  readArguments command false { arguments with flagged := true }
                    rest
          else unexpected
      | .plain =>
          if command.takesTarget ∧ arguments.target = none then
            readArguments command flagsEnded
              { arguments with target := some text } rest
          else unexpected

/-- Read the words after the command that asks for help. -/
def readHelp : List String → Request
  | [] => .help none
  | word :: rest =>
      match Command.ofName? word, rest with
      | none, _ => .refused (.unknownCommand word)
      | some command, [] => .help (some command)
      | some _, next :: _ => .refused (.unknownCommand next)

/-- Read a request. -/
def ofWords : List String → Request
  | [] => .refused .missingCommand
  | text :: rest =>
      match Word.ofText text with
      | .endOfFlags =>
          match rest with
          | [] => .refused .missingCommand
          | next :: _ => .refused (.unexpectedArgument none next)
      | .letters first =>
          if first = 'h' then .help none
          else .refused (.unexpectedArgument none text)
      | .flag "help" none => .help none
      | .flag "help" (some value) =>
          .refused (.unexpectedValue none "help" value)
      | .flag _ _ => .refused (.unexpectedArgument none text)
      | .plain =>
          match Command.ofName? text with
          | none => .refused (.unknownCommand text)
          | some .help => readHelp rest
          | some command => readArguments command false {} rest

end Request
end Tasks
end VirtualAdapter
