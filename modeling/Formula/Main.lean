import Formula.CommandLine

/-!
# The program

Reads the arguments and the file, and prints what `CommandLine.run` says.
-/

set_option autoImplicit false

open Formula

/-- The text of a file, if it can be read and is text. -/
def readText? (name : String) : IO (Option String) := do
  try
    return String.fromUTF8? (← IO.FS.readBinFile name)
  catch _ => return none

/-- The program. -/
def main (commandLine : List String) : IO UInt32 := do
  match CommandLine.Arguments.read? commandLine with
  | none =>
    IO.eprintln CommandLine.usage
    return 2
  | some arguments =>
    let file? ← if arguments.file then readText? arguments.contents else pure none
    let report := CommandLine.run arguments file?
    IO.print report.output
    IO.eprint report.errors
    return UInt32.ofNat report.exitCode
