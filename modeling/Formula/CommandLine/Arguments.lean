/-!
# Arguments of the command line

What a command line may say: `-f` or `--file`, `-t` or `--tree`, any number of `-v` or `--value`,
and the source.  `Arguments.read?` collects it, and has no answer for a command line that is
malformed.
-/

set_option autoImplicit false

namespace Formula.CommandLine

/-- The arguments: the source or the name of its file, the substitution values, and whether to read
a file and to print the tree. -/
structure Arguments where
  contents : String
  values : List String := []
  tree : Bool := false
  file : Bool := false
  deriving DecidableEq, Repr

/-! ## Reading the arguments -/

namespace Arguments

/-- One thing that a command line says. -/
inductive Setting where
  | file
  | tree
  | value (literal : String)
  | contents (text : String)
  deriving DecidableEq, Repr

/-- What an argument is: settings; settings and then an option that takes the next argument as its
value; the mark after which nothing is an option; no option at all; or an option that is unknown. -/
inductive Word where
  | settings (said : List Setting)
  | needsValue (said : List Setting)
  | endOfOptions
  | plain
  | unknown
  deriving DecidableEq, Repr

/-- A cluster of one-letter options.  The value of `v` is the rest of its cluster, after an equals
sign if there is one. -/
def clusterOf (said : List Setting) : List Char → Word
  | [] => .settings said
  | ['v'] => .needsValue said
  | 'v' :: '=' :: literal => .settings (said ++ [.value (String.ofList literal)])
  | 'v' :: literal => .settings (said ++ [.value (String.ofList literal)])
  | 'f' :: rest => clusterOf (said ++ [.file]) rest
  | 't' :: rest => clusterOf (said ++ [.tree]) rest
  | _ => .unknown

/-- A long option, from what follows its two hyphens. -/
def longOf (name : String) : Word :=
  if name = "" then .endOfOptions
  else if name = "file" then .settings [.file]
  else if name = "tree" then .settings [.tree]
  else if name = "value" then .needsValue []
  else if "value=".toList.isPrefixOf name.toList then
    .settings [.value (String.ofList (name.toList.drop 6))]
  else .unknown

/-- What an argument is, from its characters. -/
def wordOf : List Char → Word
  | '-' :: '-' :: name => longOf (String.ofList name)
  | '-' :: c :: cluster => clusterOf [] (c :: cluster)
  | _ => .plain

/-- Everything that a command line says, in order; none if it has an unknown option or an option
without its value.  A value in an argument of its own cannot look like an option. -/
def settings? : List String → Option (List Setting)
  | [] => some []
  | argument :: rest =>
    match wordOf argument.toList with
    | .settings said => (settings? rest).map (said ++ ·)
    | .endOfOptions => some (rest.map .contents)
    | .plain => (settings? rest).map (.contents argument :: ·)
    | .unknown => none
    | .needsValue said =>
      match rest with
      | [] => none
      | literal :: rest =>
        if wordOf literal.toList = .plain then
          (settings? rest).map (said ++ .value literal :: ·)
        else none

/-- The substitution values among settings, in order. -/
def valuesIn (said : List Setting) : List String :=
  said.filterMap fun
    | .value literal => some literal
    | _ => none

/-- The texts among settings that say what the contents are, in order. -/
def contentsIn (said : List Setting) : List String :=
  said.filterMap fun
    | .contents text => some text
    | _ => none

/-- The arguments that a command line gives.  It has to say what the contents are, once, and it can
say each flag only once. -/
def read? (commandLine : List String) : Option Arguments :=
  (settings? commandLine).bind fun said ↦
    match contentsIn said with
    | [contents] =>
      if said.count .file ≤ 1 ∧ said.count .tree ≤ 1 then
        some
          { contents
            values := valuesIn said
            tree := said.contains .tree
            file := said.contains .file }
      else none
    | _ => none

end Arguments

/-- How the program is called. -/
def usage : String := "Usage: formula [--file] [--tree] [--value <LITERAL>]... <CONTENTS>"

end Formula.CommandLine
