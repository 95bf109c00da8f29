import Formula.Operator
import Formula.Value.Text

/-!
# Expressions

The tree that a source text stands for.  Grouping, a prefix `+` and the layout of the source leave
no trace in it.  `Expr.render` writes a tree as a source text in which every operation has its
parentheses.
-/

set_option autoImplicit false

namespace Formula

/-- An expression. -/
inductive Expr where
  | const (value : Value)
  | var (index : Nat)
  | unary (op : UnaryOp) (operand : Expr)
  | binary (op : BinaryOp) (left right : Expr)
  | cast (target : ValueType) (operand : Expr)
  deriving DecidableEq, Inhabited

namespace Expr

/-- Whether two trees have the same shape, and agreeing values at their constants. -/
def agrees : Expr → Expr → Bool
  | const v, const w => v.agrees w
  | var i, var j => i == j
  | unary op e, unary op' e' => op == op' && e.agrees e'
  | binary op l r, binary op' l' r' => op == op' && l.agrees l' && r.agrees r'
  | cast t e, cast t' e' => t == t' && e.agrees e'
  | _, _ => false

/-- The tree as a source text, with parentheses around every operation. -/
def render : Expr → String
  | const v => v.literal
  | var i => "\x7b" ++ String.ofList (Digits.write i) ++ "\x7d"
  | unary op e => "(" ++ op.symbol ++ e.render ++ ")"
  | binary op l r => "(" ++ l.render ++ " " ++ op.symbol ++ " " ++ r.render ++ ")"
  | cast t e => "((" ++ t.castName ++ ") " ++ e.render ++ ")"

end Expr

end Formula
