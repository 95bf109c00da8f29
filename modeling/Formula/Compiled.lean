import Formula.Expr.Eval
import Formula.Expr.Parser

/-!
# Compiled expressions

The public interface: `compile` reads a source text once, `Compiled.evaluate` evaluates it in as
many contexts as there are, and `evaluate` does both.  An `Error` is what either step can fail
with.
-/

set_option autoImplicit false

namespace Formula

/-- An expression and the text that it was read from. -/
structure Compiled where
  source : String
  root : Expr
  deriving DecidableEq

/-- Why a text has no value: it is no expression, or its evaluation fails. -/
inductive Error where
  | parse (cause : ParseError)
  | evaluation (cause : EvalError)
  deriving DecidableEq, Repr

/-- The message of an error. -/
def Error.message : Error → String
  | parse cause => "syntax error: " ++ cause.message
  | evaluation cause => "evaluation error: " ++ cause.message

/-- Reads a source text. -/
def compile (source : String) : Except ParseError Compiled :=
  match Expr.parse source with
  | .ok root => .ok { source, root }
  | .error e => .error e

namespace Compiled

/-- The value in a context. -/
def evaluate (e : Compiled) (c : Context) : Except EvalError Value := e.root.eval c

/-- Whether two expressions have the same source and agreeing trees. -/
def agrees (e e' : Compiled) : Bool := e.source == e'.source && e.root.agrees e'.root

end Compiled

/-- The value of a source text in a context. -/
def evaluate (source : String) (c : Context) : Except Error Value :=
  match compile source with
  | .error e => .error (.parse e)
  | .ok compiled =>
    match compiled.evaluate c with
    | .error e => .error (.evaluation e)
    | .ok v => .ok v

end Formula
