import Formula.CommandLine.Arguments
import Formula.Compiled
import Formula.Text.Blank

/-!
# The command line

What the program prints, as a function of its arguments and of the file that it may be told to read.
The source is the last argument or the contents of the file that it names, without the blanks at its
end.  The program prints the tree if asked for it, and otherwise the value in the context that the
substitution values make; these are literals, each evaluated on its own and in order, after the
source has been read.
-/

set_option autoImplicit false

namespace Formula.CommandLine

/-- What a run leaves behind: its exit code and what it has printed. -/
structure Report where
  exitCode : Nat
  output : String
  errors : String
  deriving DecidableEq, Repr

namespace Report

/-- A run that has printed a line. -/
def success (line : String) : Report := { exitCode := 0, output := line ++ "\n", errors := "" }

/-- A run that has failed with a message. -/
def failure (message : String) : Report :=
  { exitCode := 1, output := "", errors := message ++ "\n" }

end Report

/-- The values of the literals, or the error of the first that has none. -/
def substitutions : List String → Except Error (List Value)
  | [] => .ok []
  | literal :: rest =>
    match evaluate literal .empty with
    | .error e => .error e
    | .ok v =>
      match substitutions rest with
      | .error e => .error e
      | .ok vs => .ok (v :: vs)

/-- The line to print for a source. -/
def answer (arguments : Arguments) (source : String) : Except Error String :=
  match compile source with
  | .error e => .error (.parse e)
  | .ok compiled =>
    if arguments.tree then .ok compiled.root.render
    else
      match substitutions arguments.values with
      | .error e => .error e
      | .ok values =>
        match compiled.evaluate { values } with
        | .error e => .error (.evaluation e)
        | .ok v => .ok v.text

/-- The source before its end is trimmed: none if it is in a file that is not there or is not
text.  `file?` is the text of the file. -/
def source? (arguments : Arguments) (file? : Option String) : Option String :=
  if arguments.file then file? else some arguments.contents

/-- A whole run. -/
def run (arguments : Arguments) (file? : Option String) : Report :=
  match source? arguments file? with
  | none =>
    .failure ("Failed to read the input file '" ++ arguments.contents ++
      "'. Perhaps this file does not exist?")
  | some source =>
    match answer arguments (Text.trimEnd source) with
    | .ok line => .success line
    | .error e => .failure e.message

end Formula.CommandLine
