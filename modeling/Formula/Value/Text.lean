import Formula.Floating.Shortest
import Formula.Text.Quoted
import Formula.Value.Basic

/-!
# The text of values

`Value.text` is the plain text of a value, which a concatenation appends.  `Value.literal` is an
expression for the value: a suffix tells the numeric types apart, the two narrow ones are casts, and
a string is quoted.
-/

set_option autoImplicit false

namespace Formula

/-- The text of an integer: its digits, with a sign if it is negative. -/
def integerText (i : Int) : String :=
  String.ofList (if i < 0 then '-' :: Digits.write i.natAbs else Digits.write i.natAbs)

namespace Value

/-- The text of a truth value. -/
def truthText (b : Bool) : String := if b then "true" else "false"

/-- The plain text of a value. -/
def text : Value → String
  | null => "null"
  | boolean b => truthText b
  | string s => s
  | byte n => integerText n.toNat
  | int16 n => integerText n.toInt
  | int32 n => integerText n.toInt
  | int64 n => integerText n.toInt
  | single x => x.text
  | double x => x.text
  | decimal d => d.text

/-- The expression for a value. -/
def literal : Value → String
  | null => "null"
  | boolean b => truthText b
  | string s => Quoted.write s
  | byte n => "(byte) " ++ integerText n.toNat
  | int16 n => "(short) " ++ integerText n.toInt
  | int32 n => integerText n.toInt
  | int64 n => integerText n.toInt ++ "L"
  | single x => x.text ++ "f"
  | double x => x.text ++ "d"
  | decimal d => d.text ++ "m"

end Value

end Formula
