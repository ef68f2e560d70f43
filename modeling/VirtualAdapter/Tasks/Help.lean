import VirtualAdapter.Tasks.Request

/-!
# Help on the development command line

The texts that explain the commands, and the texts for requests that cannot be
read.
-/

namespace VirtualAdapter
namespace Tasks

/-- What the tasks are for. -/
def about : String := "Development tasks for tunring"

/-- Lines of names and explanations, the explanations below each other. -/
def columns (rows : List (String × String)) : List String :=
  let width := rows.foldl (fun width row => max width row.1.length) 0
  rows.map fun row =>
    "  " ++ row.1 ++ String.ofList (List.replicate (width - row.1.length + 2) ' ') ++
      row.2

namespace Command

/-- What a command does. -/
def about : Command → String
  | test => "Run all tests (workspace + fuzz harnesses)"
  | fuzz => "Run fuzz tests with bolero"
  | wintun =>
      "Run the Wintun conformance tests (Windows, elevated, wintun.dll on PATH)"
  | loopback => "Run the in-memory loopback example"
  | clippy => "Run clippy on all code"
  | fmt => "Check formatting"
  | help => "Print this message or the help of the given subcommand(s)"

/-- How a command is called. -/
def usage (command : Command) : String :=
  "xtask " ++ command.name ++
    match command with
    | fuzz => " [TARGET]"
    | clippy | fmt => " [OPTIONS]"
    | help => " [COMMAND]..."
    | _ => ""

/-- The plain words that a command takes, explained. -/
def argumentRows : Command → List (String × String)
  | fuzz =>
      [("[TARGET]", "Target to fuzz (\"packet_ring\" or \"session\"). " ++
        "If not specified, runs all fuzz harnesses in test mode " ++
        "(quick smoke test)")]
  | help => [("[COMMAND]...", "Print help for the subcommand(s)")]
  | _ => []

/-- The flags that a command takes, explained. -/
def flagRows : Command → List (String × String)
  | clippy =>
      [("    --windows", "Also lint the Windows-only crates for the MSVC target"),
        ("-h, --help", "Print help")]
  | fmt =>
      [("    --fix", "Fix formatting issues instead of just checking"),
        ("-h, --help", "Print help")]
  | help => []
  | _ => [("-h, --help", "Print help")]

end Command

/-- A part of a help text, left out if it has no rows. -/
def helpSection (title : String) (rows : List (String × String)) : List String :=
  if rows.isEmpty then [] else ["", title ++ ":"] ++ columns rows

/-- How a command is called, or the command line as a whole. -/
def usageOf (command : Option Command) : String :=
  "Usage: " ++
    match command with
    | none => "xtask <COMMAND>"
    | some command => command.usage

/-- Several lines as one text. -/
def unlines (lines : List String) : String :=
  String.join (lines.map (· ++ "\n"))

/-- The help on a command, or on all. -/
def helpText : Option Command → String
  | none =>
      unlines ([about, "", usageOf none] ++
        helpSection "Commands"
          (Command.all.map fun command => (command.name, command.about)) ++
        helpSection "Options" [("-h, --help", "Print help")])
  | some command =>
      unlines ([command.about, "", usageOf (some command)] ++
        helpSection "Arguments" command.argumentRows ++
        helpSection "Options" command.flagRows)

namespace UsageError

/-- What is wrong with a request, and where. -/
def reason : UsageError → String × Option Command
  | missingCommand =>
      ("'xtask' requires a subcommand but one was not provided", none)
  | unknownCommand name => ("unrecognized subcommand '" ++ name ++ "'", none)
  | unexpectedArgument command argument =>
      ("unexpected argument '" ++ argument ++ "' found", command)
  | unexpectedValue command flag value =>
      ("unexpected value '" ++ value ++ "' for '--" ++ flag ++
        "' found; no more were accepted", command)
  | repeatedFlag command flag =>
      ("the argument '--" ++ flag ++ "' cannot be used multiple times",
        some command)

/-- The text for a request that cannot be read. -/
def message (error : UsageError) : String :=
  let (reason, command) := error.reason
  unlines ["error: " ++ reason, "", usageOf command, "",
    "For more information, try '--help'."]

end UsageError
end Tasks
end VirtualAdapter
