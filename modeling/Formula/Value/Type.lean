/-!
# The types of values

Ten types, with the names that a cast may use for nine of them.  The seven numeric types are ranked,
and `ValueType.promoteWith` is the type in which two of them meet: the higher one, except that
decimals do not meet binary floating point.
-/

set_option autoImplicit false

namespace Formula

/-- The type of a value. -/
inductive ValueType where
  | null
  | boolean
  | string
  | byte
  | int16
  | int32
  | int64
  | single
  | double
  | decimal
  deriving DecidableEq, Repr

namespace ValueType

/-- All types. -/
def all : List ValueType :=
  [null, boolean, string, byte, int16, int32, int64, single, double, decimal]

theorem mem_all (t : ValueType) : t ∈ all := by cases t <;> decide

/-! ## Names -/

/-- The name of a type, as messages have it. -/
def name : ValueType → String
  | null => "Null"
  | boolean => "Boolean"
  | string => "String"
  | byte => "Byte"
  | int16 => "Int16"
  | int32 => "Int32"
  | int64 => "Int64"
  | single => "Single"
  | double => "Double"
  | decimal => "Decimal"

/-- The keyword for a type. -/
def castName : ValueType → String
  | null => "null"
  | boolean => "bool"
  | string => "string"
  | byte => "byte"
  | int16 => "short"
  | int32 => "int"
  | int64 => "long"
  | single => "float"
  | double => "double"
  | decimal => "decimal"

/-- The type that a cast names, by its keyword or by its full name; case counts.  There is no cast
to the type of `null`. -/
def ofCastName? (text : String) : Option ValueType :=
  all.find? fun t ↦ t != null && (t.castName == text || t.name == text)

theorem ofCastName?_castName {t : ValueType} (h : t ≠ null) :
    ofCastName? t.castName = some t := by
  revert h
  cases t <;> decide

theorem ne_null_of_ofCastName? {text : String} {t : ValueType} (h : ofCastName? text = some t) :
    t ≠ null := by
  have := List.find?_some h
  simp_all

/-! ## Promotion -/

/-- The rank of a numeric type. -/
def rank? : ValueType → Option Nat
  | byte => some 0
  | int16 => some 1
  | int32 => some 2
  | int64 => some 3
  | single => some 4
  | double => some 5
  | decimal => some 6
  | null | boolean | string => none

/-- Whether a type is one of binary floating point. -/
def isFloating : ValueType → Bool
  | single | double => true
  | _ => false

/-- Whether a type is one of the four integral ones. -/
def isIntegral : ValueType → Bool
  | byte | int16 | int32 | int64 => true
  | _ => false

/-- Whether a type is numeric. -/
def isNumeric (t : ValueType) : Bool := t.rank?.isSome

/-- The type in which two numeric types meet. -/
def promoteWith (s t : ValueType) : Option ValueType :=
  match s.rank?, t.rank? with
  | some i, some j =>
    if (s == decimal && t.isFloating) || (t == decimal && s.isFloating) then none
    else some (if j ≤ i then s else t)
  | _, _ => none

theorem promoteWith_comm (s t : ValueType) : s.promoteWith t = t.promoteWith s := by
  cases s <;> cases t <;> rfl

end ValueType

end Formula
