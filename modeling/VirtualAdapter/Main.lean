import VirtualAdapter.Tasks.Run

/-!
# The development command line

The program reads a request and shows what carrying it out comes to.  The
calls to the build tool are shown and taken to succeed; making them is left to
the reader.
-/

open VirtualAdapter.Tasks

/-- Answer the words of the command line and exit with the code of the
answer. -/
def main (words : List String) : IO UInt32 := do
  let current ← IO.currentDir
  let package ← IO.getEnv "CARGO_MANIFEST_DIR"
  let report :=
    Report.ofWords
      { current := Folder.ofText current.toString
        package
        look := fun _ => some .folder
        exitCode := fun _ => 0 }
      words
  IO.print report.output
  IO.eprint report.complaints
  return report.code.toUInt32
