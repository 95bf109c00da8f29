import Formula.Decimal.Conversion
import Formula.Value.Basic

/-!
# Casts

`Value.cast` converts a value to a type.  A value of that type already is left alone, and otherwise
both types have to be numeric.  Between integral types the low bits are kept; from binary floating
point the integer part is taken and moved into the range of the target; from a decimal the integer
part is taken and has to lie in that range.  A conversion from or to decimals that leaves the range
of its target is an overflow.
-/

set_option autoImplicit false

namespace Formula

/-- The integers of an integral type. -/
def ValueType.integers? : ValueType → Option IntegerType
  | byte => some (.unsignedOf 8)
  | int16 => some (.signedOf 16)
  | int32 => some (.signedOf 32)
  | int64 => some (.signedOf 64)
  | _ => none

namespace Value

/-- An integer as a value of a numeric type.  In an integral type it is taken modulo the width; in
a decimal it has to be a 64-bit integer. -/
def ofInteger? (target : ValueType) (i : Int) : Option Value :=
  match target with
  | .byte => some (byte (UInt8.ofInt i))
  | .int16 => some (int16 (Int16.ofInt i))
  | .int32 => some (int32 (Int32.ofInt i))
  | .int64 => some (int64 (Int64.ofInt i))
  | .single => some (single (Floating.ofInt i))
  | .double => some (double (Floating.ofInt i))
  | .decimal => some (decimal (Decimal.ofInt64 (Int64.ofInt i)))
  | .null | .boolean | .string => none

/-- A binary number as a value of another type; `decimal?` is the decimal for it. -/
def ofFloating {f : Format} (target : ValueType) (x : Floating f) (decimal? : Option Decimal) :
    Except EvalError (Option Value) :=
  match target with
  | .byte | .int16 | .int32 | .int64 =>
    .ok <| target.integers?.bind fun t ↦ ofInteger? target (x.truncateWithin t.low t.high)
  | .single => .ok (some (single x.convert))
  | .double => .ok (some (double x.convert))
  | .decimal =>
    match decimal? with
    | some d => .ok (some (decimal d))
    | none => .error (.overflow target.castName)
  | .null | .boolean | .string => .ok none

/-- A decimal as a value of another type. -/
def ofDecimal (target : ValueType) (d : Decimal) : Except EvalError (Option Value) :=
  match target with
  | .byte | .int16 | .int32 | .int64 =>
    match target.integers?.bind fun t ↦ d.toInteger? t with
    | some i => .ok (ofInteger? target i)
    | none => .error (.overflow target.castName)
  | .single => .ok (some (single d.toSingle))
  | .double => .ok (some (double d.toDouble))
  | .decimal => .ok (some (decimal d))
  | .null | .boolean | .string => .ok none

/-- A value as one of another type; none if there is no conversion between the two types. -/
def convert? (target : ValueType) : Value → Except EvalError (Option Value)
  | single x => ofFloating target x (Decimal.ofSingle? x)
  | double x => ofFloating target x (Decimal.ofDouble? x)
  | decimal d => ofDecimal target d
  | v => .ok (v.integral?.bind (ofInteger? target))

/-- The value as one of the target type. -/
def cast (target : ValueType) (v : Value) : Except EvalError Value :=
  if v.type = target then .ok v
  else
    match convert? target v with
    | .ok (some w) => .ok w
    | .ok none => .error (.invalidCast v.type target)
    | .error e => .error e

end Value

end Formula
