import Formula.Value.Type

/-!
# What can go wrong in an evaluation

The causes, each with what its message names.  An operator is named by its spelling; where a
conversion overflows, the keyword of the target type stands in its place.
-/

set_option autoImplicit false

namespace Formula

/-- Why an evaluation has no value. -/
inductive EvalError where
  | divideByZero
  | unsupportedOperands (operator : String) (left right : ValueType)
  | unsupportedOperand (operator : String) (operand : ValueType)
  | invalidCast (source target : ValueType)
  | variableOutOfRange (index count : Nat)
  | nullOperand (operator : String)
  | overflow (operator : String)
  deriving DecidableEq, Repr

/-- The message of an error. -/
def EvalError.message : EvalError → String
  | divideByZero => "divide by zero"
  | unsupportedOperands operator left right =>
    "unsupported operand types for '" ++ operator ++ "': " ++ left.name ++ " and " ++ right.name
  | unsupportedOperand operator operand =>
    "unsupported operand type for '" ++ operator ++ "': " ++ operand.name
  | invalidCast source target => "invalid cast from " ++ source.name ++ " to " ++ target.name
  | variableOutOfRange index count =>
    s!"variable index {index} out of range ({count} values supplied)"
  | nullOperand operator => "operator '" ++ operator ++ "' cannot be applied to null"
  | overflow operator => "arithmetic overflow in '" ++ operator ++ "'"

end Formula
