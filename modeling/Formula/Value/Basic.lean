import Formula.Decimal.Basic
import Formula.Floating.Basic
import Formula.Value.Error

/-!
# Values

What an expression evaluates to.  Equality in the sense of `=` tells values apart that print
differently; `Value.agrees` is the coarser relation that compares binary floating point and decimals
as numbers, under which not a number agrees with nothing.
-/

set_option autoImplicit false

namespace Formula

/-- A value. -/
inductive Value where
  | null
  | boolean (b : Bool)
  | string (text : String)
  | byte (n : UInt8)
  | int16 (n : Int16)
  | int32 (n : Int32)
  | int64 (n : Int64)
  | single (x : Single)
  | double (x : Double)
  | decimal (d : Decimal)
  deriving DecidableEq

namespace Value

instance : Inhabited Value := ⟨null⟩

/-! ## Views -/

/-- The type of a value. -/
def type : Value → ValueType
  | null => .null
  | boolean _ => .boolean
  | string _ => .string
  | byte _ => .byte
  | int16 _ => .int16
  | int32 _ => .int32
  | int64 _ => .int64
  | single _ => .single
  | double _ => .double
  | decimal _ => .decimal

/-- Whether a value is `null`. -/
def isNull : Value → Bool
  | null => true
  | _ => false

/-- The integer that a value of an integral type stands for. -/
def integral? : Value → Option Int
  | byte n => some n.toNat
  | int16 n => some n.toInt
  | int32 n => some n.toInt
  | int64 n => some n.toInt
  | _ => none

/-- The truth value that an operator takes from its operand. -/
def truth (operator : String) : Value → Except EvalError Bool
  | boolean b => .ok b
  | null => .error (.nullOperand operator)
  | v => .error (.unsupportedOperand operator v.type)

theorem isNull_iff (v : Value) : v.isNull = true ↔ v = null := by
  cases v <;> simp [isNull]

/-- The values with an integer are those of the integral types. -/
theorem isSome_integral? (v : Value) : v.integral?.isSome = v.type.isIntegral := by
  cases v <;> rfl

/-! ## Agreement -/

/-- Whether two values have the same type and are equal: as numbers, for binary floating point and
decimals, and otherwise in every respect. -/
def agrees : Value → Value → Bool
  | single x, single y => x.compare? y == some .eq
  | double x, double y => x.compare? y == some .eq
  | decimal x, decimal y => x.compare y == .eq
  | v, w => v == w

end Value

end Formula
