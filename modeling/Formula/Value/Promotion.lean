import Formula.Decimal.Remainder
import Formula.Floating.Arithmetic
import Formula.Value.Basic

/-!
# Promotion

Two numeric values are widened to the type in which they meet, and a numeric operator then works in
that type.  `NumberPair.ofValues?` does the widening, and the result of an operator is a value of
the pair's type.

Integral arithmetic wraps at the width of its type, and truncates its quotients.
-/

set_option autoImplicit false

namespace Formula

/-- The arithmetic operations. -/
inductive Arithmetic where
  | add
  | sub
  | mul
  | div
  | rem
  deriving DecidableEq, Repr

/-- The bitwise operations. -/
inductive Bitwise where
  | and
  | or
  | xor
  deriving DecidableEq, Repr

/-- Two numbers of one type. -/
inductive NumberPair where
  | byte (a b : UInt8)
  | int16 (a b : Int16)
  | int32 (a b : Int32)
  | int64 (a b : Int64)
  | single (a b : Single)
  | double (a b : Double)
  | decimal (a b : Decimal)
  deriving DecidableEq

/-! ## Widening one value -/

namespace Value

/-- The integer of a value in the format of 32 bits, or its number if it already has that format. -/
def widenToSingle? : Value → Option Single
  | single x => some x
  | v => v.integral?.map Floating.ofInt

/-- The number of an integral or binary value in the format of 64 bits. -/
def widenToDouble? : Value → Option Double
  | double x => some x
  | single x => some x.convert
  | v => v.integral?.map Floating.ofInt

/-- The decimal of an integral or decimal value. -/
def widenToDecimal? : Value → Option Decimal
  | decimal d => some d
  | v => v.integral?.map fun i ↦ Decimal.ofInt64 (Int64.ofInt i)

end Value

namespace NumberPair

/-- Two values in the type in which they meet. -/
def ofValues? (v w : Value) : Option NumberPair :=
  match v.type.promoteWith w.type with
  | some .byte =>
    match v, w with
    | .byte a, .byte b => some (byte a b)
    | _, _ => none
  | some .int16 => do return int16 (Int16.ofInt (← v.integral?)) (Int16.ofInt (← w.integral?))
  | some .int32 => do return int32 (Int32.ofInt (← v.integral?)) (Int32.ofInt (← w.integral?))
  | some .int64 => do return int64 (Int64.ofInt (← v.integral?)) (Int64.ofInt (← w.integral?))
  | some .single => do return single (← v.widenToSingle?) (← w.widenToSingle?)
  | some .double => do return double (← v.widenToDouble?) (← w.widenToDouble?)
  | some .decimal => do return decimal (← v.widenToDecimal?) (← w.widenToDecimal?)
  | _ => none

/-! ## Views -/

/-- The first number of a pair. -/
def first : NumberPair → Value
  | byte a _ => .byte a
  | int16 a _ => .int16 a
  | int32 a _ => .int32 a
  | int64 a _ => .int64 a
  | single a _ => .single a
  | double a _ => .double a
  | decimal a _ => .decimal a

/-- The second number of a pair. -/
def second : NumberPair → Value
  | byte _ b => .byte b
  | int16 _ b => .int16 b
  | int32 _ b => .int32 b
  | int64 _ b => .int64 b
  | single _ b => .single b
  | double _ b => .double b
  | decimal _ b => .decimal b

theorem type_first (p : NumberPair) : p.first.type = p.second.type := by cases p <;> rfl

/-! ## Operations -/

/-- Arithmetic in an integral type. -/
def integralArithmetic {α : Type} [Add α] [Sub α] [Mul α] [Div α] [Mod α] [OfNat α 0]
    [DecidableEq α] (op : Arithmetic) (a b : α) : Except EvalError α :=
  match op with
  | .add => .ok (a + b)
  | .sub => .ok (a - b)
  | .mul => .ok (a * b)
  | .div => if b = 0 then .error .divideByZero else .ok (a / b)
  | .rem => if b = 0 then .error .divideByZero else .ok (a % b)

/-- Arithmetic in a binary format, which always has a result. -/
def floatingArithmetic {f : Format} (op : Arithmetic) (a b : Floating f) : Floating f :=
  match op with
  | .add => a + b
  | .sub => a - b
  | .mul => a * b
  | .div => a / b
  | .rem => a % b

/-- Arithmetic of decimals; an overflow names the operator. -/
def decimalArithmetic (op : Arithmetic) (operator : String) (a b : Decimal) :
    Except EvalError Decimal :=
  if (op = .div ∨ op = .rem) ∧ b.isZero = true then .error .divideByZero
  else
    let result? := match op with
      | .add => a.add? b
      | .sub => a.sub? b
      | .mul => a.mul? b
      | .div => a.div? b
      | .rem => a.rem? b
    match result? with
    | some result => .ok result
    | none => .error (.overflow operator)

/-- Arithmetic on a pair, with a result of the pair's type. -/
def arithmetic (op : Arithmetic) (operator : String) : NumberPair → Except EvalError Value
  | byte a b => (integralArithmetic op a b).map .byte
  | int16 a b => (integralArithmetic op a b).map .int16
  | int32 a b => (integralArithmetic op a b).map .int32
  | int64 a b => (integralArithmetic op a b).map .int64
  | single a b => .ok (.single (floatingArithmetic op a b))
  | double a b => .ok (.double (floatingArithmetic op a b))
  | decimal a b => (decimalArithmetic op operator a b).map .decimal

/-- The order of a pair; none if a number in it is not a number. -/
def compare? : NumberPair → Option Ordering
  | byte a b => some (Ord.compare a.toNat b.toNat)
  | int16 a b => some (Ord.compare a.toInt b.toInt)
  | int32 a b => some (Ord.compare a.toInt b.toInt)
  | int64 a b => some (Ord.compare a.toInt b.toInt)
  | single a b => a.compare? b
  | double a b => a.compare? b
  | decimal a b => some (a.compare b)

/-- A bitwise operation on two words. -/
def combine {α : Type} [AndOp α] [OrOp α] [XorOp α] (op : Bitwise) (a b : α) : α :=
  match op with
  | .and => a &&& b
  | .or => a ||| b
  | .xor => a ^^^ b

/-- A bitwise operation on a pair; only integral types have one. -/
def bitwise? (op : Bitwise) : NumberPair → Option Value
  | byte a b => some (.byte (combine op a b))
  | int16 a b => some (.int16 (combine op a b))
  | int32 a b => some (.int32 (combine op a b))
  | int64 a b => some (.int64 (combine op a b))
  | single .. | double .. | decimal .. => none

end NumberPair

end Formula
