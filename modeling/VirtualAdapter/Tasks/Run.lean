import VirtualAdapter.Tasks.Folder
import VirtualAdapter.Tasks.Help
import VirtualAdapter.Text.Digits

/-!
# Carrying out a task

A task is a series of calls to the build tool with lines of text between them.
A call that fails ends the task, except for the calls that only ask whether an
extension of the tool is there.
-/

namespace VirtualAdapter
namespace Tasks

/-- A call to the build tool. -/
structure Call where
  /-- The arguments of the tool. -/
  arguments : List String
  /-- The folder in which the tool runs. -/
  folder : Folder
  /-- The setting for log output, if the call comes with one. -/
  logging : Option String := none
  deriving DecidableEq

/-- A blank of the basic characters. -/
def isBlank (character : Char) : Bool :=
  character == ' ' || character == '\t' || character == '\n' ||
    character == '\x0c' || character == '\r'

/-- One character of an argument between quotes: quotes and control characters
are marked, and of other alphabets only the number is shown. -/
def escapeChar (character : Char) : String :=
  match character with
  | '"' => "\\\""
  | '\'' => "\\'"
  | '\\' => "\\\\"
  | '\n' => "\\n"
  | '\r' => "\\r"
  | '\t' => "\\t"
  | other =>
      if ' ' ≤ other ∧ other ≤ '~' then other.toString
      else "\\u\x7b" ++ String.ofList (Nat.toDigits 16 other.toNat) ++ "\x7d"

/-- An argument as it is shown: between quotes if it has blanks. -/
def showArgument (argument : String) : String :=
  if argument.toList.any isBlank then
    "\"" ++ String.join (argument.toList.map escapeChar) ++ "\""
  else argument

/-- A call with some arguments as it is shown. -/
def showCall (arguments : List String) : String :=
  " ".intercalate ("cargo" :: arguments.map showArgument)

namespace Call

/-- A call as the tool meets it: where, with which setting, and its
arguments. -/
def text (call : Call) : String :=
  let setting :=
    match call.logging with
    | none => ""
    | some value => " RUST_LOG=" ++ value
  call.folder.lastName ++ setting ++ ": " ++
    " ".intercalate ("cargo" :: call.arguments)

end Call

/-- What a task finds around it. -/
structure Surroundings where
  /-- The folder in which the program was started. -/
  current : Folder
  /-- The folder of the program's own package, as a path, if it is told. -/
  package : Option String
  /-- Tell what exists where a folder would be. -/
  look : Folder → Option Entry
  /-- The exit code of the tool for its arguments. -/
  exitCode : List String → Nat

/-- Why a task ended before its time. -/
inductive JobFailure
  | noParent
  /-- The path to the folder of a call leads nowhere. -/
  | missingFolder (path : Path)
  /-- The system refused a call. -/
  | refused (arguments : List String) (code : OsCode)
  /-- A call ended with a code other than zero. -/
  | exited (arguments : List String) (code : Nat)
  | fuzzerMissing
  | notOnWindows
  deriving DecidableEq

/-- The text of a failure. -/
def JobFailure.message : JobFailure → String
  | noParent => "xtask has no parent directory"
  | missingFolder path =>
      "failed to get current directory \x60" ++ path.text ++ "\x60: " ++
        nothingThere.text
  | refused arguments code =>
      "io error when running command \x60" ++ showCall arguments ++ "\x60: " ++
        code.text
  | exited arguments code =>
      "command exited with non-zero code \x60" ++ showCall arguments ++
        "\x60: " ++ toString code
  | fuzzerMissing => "cargo-bolero not installed"
  | notOnWindows => "the Wintun tests only run on Windows"

/-- The state of a task at work. -/
structure JobState where
  /-- The path to the folder in which the next call runs. -/
  path : Path
  /-- The setting for log output. -/
  logging : Option String := none
  /-- All calls that were made, in order. -/
  calls : List Call := []
  /-- The text on standard output. -/
  output : String := ""
  /-- The text on standard error. -/
  complaints : String := ""

/-- Steps of a task. -/
abbrev Job := ReaderT Surroundings (ExceptT JobFailure (StateM JobState))

namespace Job

/-- Write a line. -/
def say (line : String) : Job Unit :=
  modify fun state => { state with output := state.output ++ line ++ "\n" }

/-- Write a line about what is wrong or what is going on. -/
def note (line : String) : Job Unit :=
  modify fun state =>
    { state with complaints := state.complaints ++ line ++ "\n" }

/-- Go to where a path leads; whether there is a folder shows with the next
call. -/
def enter (path : Path) : Job Unit :=
  modify fun state => { state with path := state.path.join path }

/-- Why a call was not made. -/
def whyNotMade
    (arguments : List String)
    (path : Path)
    (code : OsCode) : JobFailure :=
  if code = nothingThere then .missingFolder path else .refused arguments code

/-- Make a call; the failure that comes of it, if it fails. -/
def attempt (arguments : List String) : Job (Option JobFailure) := do
  let surroundings ← read
  let state ← get
  match Folder.reach surroundings.look state.path with
  | .error code => return some (whyNotMade arguments state.path code)
  | .ok folder =>
      let call : Call := ⟨arguments, folder, state.logging⟩
      set { state with calls := state.calls ++ [call] }
      let code := surroundings.exitCode arguments
      return if code = 0 then none else some (.exited arguments code)

/-- Make a call silently and tell whether it succeeds. -/
def succeeds (arguments : List String) : Job Bool := do
  return (← attempt arguments).isNone

/-- Make a call that is shown first and has to succeed. -/
def launch (arguments : List String) : Job Unit := do
  note ("$ " ++ showCall arguments)
  match ← attempt arguments with
  | none => return
  | some failure => throw failure

/-- Make a call that has to succeed, its arguments in one text. -/
def launchLine (line : String) : Job Unit :=
  launch (line.splitOn " ")

/-- The path to the workspace: the parent of the package. -/
def workspace : Job Path := do
  let surroundings ← read
  let package :=
    match surroundings.package with
    | some text => Path.ofText text
    | none => surroundings.current.path.child "xtask"
  match package.parent? with
  | some parent => return parent
  | none => throw .noParent

/-- The system for which the code for Windows is linted. -/
def windowsTarget : String := "x86_64-pc-windows-msvc"

/-- The targets for fuzzing, explained. -/
def fuzzTargets : List String :=
  ["  - packet_ring  (PacketRing alloc/commit/pop/release)",
    "  - session      (Session send/receive over MemDriver)"]

/-- Run all tests. -/
def runTests (workspace : Path) : Job Unit := do
  say "=== Running workspace tests ==="
  if ← succeeds ["nextest", "--version"] then
    say "Using cargo-nextest"
    launchLine "nextest run --workspace"
  else
    say "cargo-nextest not found, using cargo test"
    launchLine "test --workspace"
  launchLine "test --workspace --doc"
  say "\n=== Running fuzz harnesses (test mode) ==="
  enter (workspace.child "fuzz")
  launchLine "test"
  say "\n=== All tests passed ==="

/-- Try every fuzz target shortly. -/
def tryFuzzTargets : Job Unit := do
  say "=== Running all fuzz harnesses in test mode ==="
  say "(For real fuzzing, specify a target: cargo xtask fuzz session)\n"
  say "Available targets:"
  fuzzTargets.forM say
  say ""
  launchLine "test"

/-- Run one fuzz target. -/
def runFuzzTarget (target : String) : Job Unit := do
  say ("=== Fuzzing target: " ++ target ++ " ===")
  say "Press Ctrl+C to stop.\n"
  unless ← succeeds ["bolero", "--version"] do
    note "cargo-bolero not found. Install with:"
    note "  cargo install cargo-bolero"
    throw .fuzzerMissing
  launch ["bolero", "test", target]

/-- Lint the code. -/
def runLinter (workspace : Path) (windows : Bool) : Job Unit := do
  say "=== Running clippy ==="
  launchLine "clippy --workspace --all-features --all-targets -- -D warnings"
  if windows then
    say ("\n=== Clippy for " ++ windowsTarget ++ " ===")
    launchLine ("clippy -p tunring-wintun --all-targets --target " ++
      windowsTarget ++ " -- -D warnings")
  say "\n=== Clippy on fuzz crate ==="
  enter (workspace.child "fuzz")
  launchLine "clippy --all-targets -- -D warnings"

/-- Check the formatting, or mend it. -/
def runFormatter (workspace : Path) (fix : Bool) : Job Unit := do
  let check := if fix then "" else " -- --check"
  say (if fix then "=== Fixing formatting ===" else "=== Checking formatting ===")
  launchLine ("fmt --all" ++ check)
  enter (workspace.child "fuzz")
  launchLine ("fmt" ++ check)

/-- Carry out a task. -/
def perform (task : Task) : Job Unit := do
  let workspace ← Job.workspace
  enter workspace
  match task with
  | .test => runTests workspace
  | .fuzz target =>
      enter (workspace.child "fuzz")
      match target with
      | none => tryFuzzTargets
      | some target => runFuzzTarget target
  | .wintun => throw .notOnWindows
  | .loopback =>
      modify fun state =>
        { state with logging := some "info,tunring=debug" }
      launchLine "run -p tunring --example loopback"
  | .clippy windows => runLinter workspace windows
  | .fmt fix => runFormatter workspace fix

end Job

/-- All that comes of a request. -/
structure Report where
  /-- The exit code of the program. -/
  code : Nat
  /-- The calls to the build tool, in order. -/
  calls : List Call := []
  /-- The text on standard output. -/
  output : String := ""
  /-- The text on standard error. -/
  complaints : String := ""

namespace Report

/-- The exit code of a request that cannot be read. -/
def usageCode : Nat := 2

/-- Carry out a task. -/
def ofTask (surroundings : Surroundings) (task : Task) : Report :=
  let (result, state) :=
    (Job.perform task).run surroundings |>.run |>.run
      { path := surroundings.current.path }
  match result with
  | .ok _ => ⟨0, state.calls, state.output, state.complaints⟩
  | .error failure =>
      ⟨1, state.calls, state.output,
        state.complaints ++ "Error: " ++ failure.message ++ "\n"⟩

/-- Answer a request. -/
def ofRequest (surroundings : Surroundings) : Request → Report
  | .perform task => ofTask surroundings task
  | .help command => { code := 0, output := helpText command }
  | .refused .missingCommand =>
      { code := usageCode, complaints := helpText none }
  | .refused error => { code := usageCode, complaints := error.message }

/-- Answer the words of a request. -/
def ofWords (surroundings : Surroundings) (words : List String) : Report :=
  ofRequest surroundings (Request.ofWords words)

end Report
end Tasks
end VirtualAdapter
