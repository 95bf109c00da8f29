import Formula.Expr.Basic
import Formula.Value.Cast
import Formula.Value.Operators

/-!
# Evaluation

An expression has a value in a context, which binds the variables `0`, `1`, … to values.  Operands
are evaluated from left to right and the first error is the answer.  The conditional operators
evaluate their right operand only if the left one does not decide.
-/

set_option autoImplicit false

namespace Formula

/-- The values of the variables, by index. -/
structure Context where
  values : List Value
  deriving DecidableEq

namespace Context

/-- The context without variables. -/
def empty : Context := { values := [] }

/-- The number of variables. -/
def size (c : Context) : Nat := c.values.length

/-- Whether there are no variables. -/
def isEmpty (c : Context) : Bool := c.values.isEmpty

/-- The value of a variable. -/
def get (c : Context) (index : Nat) : Except EvalError Value :=
  match c.values[index]? with
  | some v => .ok v
  | none => .error (.variableOutOfRange index c.size)

/-- Whether two contexts bind the same variables to agreeing values. -/
def agrees (c d : Context) : Bool :=
  c.size == d.size && (c.values.zip d.values).all fun (v, w) ↦ v.agrees w

end Context

/-- Whether an operator may leave its right operand unevaluated. -/
def BinaryOp.isConditional : BinaryOp → Bool
  | conditionalAnd | conditionalOr => true
  | _ => false

/-- The value of an expression in a context. -/
def Expr.eval (c : Context) : Expr → Except EvalError Value
  | const v => .ok v
  | var index => c.get index
  | unary op e =>
    match e.eval c with
    | .ok v => v.unary op
    | .error error => .error error
  | binary op l r =>
    match l.eval c with
    | .error error => .error error
    | .ok v =>
      if op.isConditional then v.conditional op fun _ ↦ r.eval c
      else
        match r.eval c with
        | .ok w => v.binary op w
        | .error error => .error error
  | cast target e =>
    match e.eval c with
    | .ok v => v.cast target
    | .error error => .error error

end Formula
