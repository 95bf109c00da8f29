/-!
# Operators

The binary operators, in ten tiers of precedence, and the prefix operators that leave a trace in an
expression.  Each has one spelling; `BinaryOp.ofSymbol?` reads it back.
-/

set_option autoImplicit false

namespace Formula

/-! ## Binary operators -/

/-- The binary operators, from the loosest to the tightest. -/
inductive BinaryOp where
  | conditionalOr
  | conditionalAnd
  | logicalOr
  | logicalXor
  | logicalAnd
  | equal
  | notEqual
  | less
  | lessEqual
  | greater
  | greaterEqual
  | shiftLeft
  | shiftRight
  | add
  | subtract
  | multiply
  | divide
  | modulus
  deriving DecidableEq, Repr

namespace BinaryOp

/-- The spelling of an operator. -/
def symbol : BinaryOp → String
  | conditionalOr => "||"
  | conditionalAnd => "&&"
  | logicalOr => "|"
  | logicalXor => "^"
  | logicalAnd => "&"
  | equal => "=="
  | notEqual => "!="
  | less => "<"
  | lessEqual => "<="
  | greater => ">"
  | greaterEqual => ">="
  | shiftLeft => "<<"
  | shiftRight => ">>"
  | add => "+"
  | subtract => "-"
  | multiply => "*"
  | divide => "/"
  | modulus => "%"

/-- All operators. -/
def all : List BinaryOp :=
  [conditionalOr, conditionalAnd, logicalOr, logicalXor, logicalAnd, equal, notEqual, less,
   lessEqual, greater, greaterEqual, shiftLeft, shiftRight, add, subtract, multiply, divide,
   modulus]

/-- The operator with a spelling. -/
def ofSymbol? (symbol : String) : Option BinaryOp := all.find? (·.symbol == symbol)

/-- The tier of an operator: those of a lower tier bind tighter. -/
def tier : BinaryOp → Nat
  | multiply | divide | modulus => 1
  | add | subtract => 2
  | shiftLeft | shiftRight => 3
  | less | lessEqual | greater | greaterEqual => 4
  | equal | notEqual => 5
  | logicalAnd => 6
  | logicalXor => 7
  | logicalOr => 8
  | conditionalAnd => 9
  | conditionalOr => 10

/-- The tier of the operators that compare by order, of which one operand cannot be another such
comparison. -/
def relationalTier : Nat := 4

/-- The tier of the loosest operator. -/
def loosestTier : Nat := 10

/-- Whether an operator compares by order. -/
def isRelational (op : BinaryOp) : Bool := op.tier == relationalTier

theorem mem_all (op : BinaryOp) : op ∈ all := by cases op <;> decide

theorem ofSymbol?_symbol (op : BinaryOp) : ofSymbol? op.symbol = some op := by
  cases op <;> decide

/-- Only the spelling of an operator is read as that operator. -/
theorem symbol_of_ofSymbol? {symbol : String} {op : BinaryOp} (h : ofSymbol? symbol = some op) :
    op.symbol = symbol := by
  simpa using List.find?_some h

end BinaryOp

/-! ## Prefix operators -/

/-- The prefix operators.  A prefix `+` is not among them, since it has no effect. -/
inductive UnaryOp where
  | negate
  | not
  | complement
  deriving DecidableEq, Repr

namespace UnaryOp

/-- The spelling of an operator. -/
def symbol : UnaryOp → String
  | negate => "-"
  | not => "!"
  | complement => "~"

/-- All operators. -/
def all : List UnaryOp := [negate, not, complement]

/-- The operator with a spelling. -/
def ofSymbol? (symbol : String) : Option UnaryOp := all.find? (·.symbol == symbol)

theorem ofSymbol?_symbol (op : UnaryOp) : ofSymbol? op.symbol = some op := by
  cases op <;> decide

end UnaryOp

end Formula
