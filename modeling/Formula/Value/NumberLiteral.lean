import Formula.Decimal.Reader
import Formula.Floating.Scientific
import Formula.Integer
import Formula.Value.Basic

/-!
# Number literals

A number token is one of three forms.  After `0x` or `0X` stand hexadecimal digits, which give the
bit pattern of the integer.  A text with a point, an exponent mark or a type suffix among its
characters is a real number: the suffix is its last character, and without one it has 64 bits.
Anything else is decimal digits.  An integer has 64 bits if it ends in `l` or `L`, and otherwise 32.

A literal whose value does not fit its type is malformed, like one with wrong characters.
-/

set_option autoImplicit false

namespace Formula.NumberLiteral

/-! ## Suffixes -/

/-- Whether a character is the suffix of 64-bit integers. -/
def isLongSuffix (c : Char) : Bool := c == 'l' || c == 'L'

/-- The text without the suffix of 64-bit integers, and whether it was there. -/
def splitLong (text : List Char) : List Char × Bool :=
  if text.getLast?.any isLongSuffix then (text.dropLast, true) else (text, false)

/-- The real type that a suffix asks for. -/
def suffixType? (c : Char) : Option ValueType :=
  if c = 'd' ∨ c = 'D' then some .double
  else if c = 'f' ∨ c = 'F' then some .single
  else if c = 'm' ∨ c = 'M' then some .decimal
  else none

/-- The text of a real literal without its suffix, and the type that it asks for. -/
def splitReal (text : List Char) : List Char × ValueType :=
  match text.getLast?.bind suffixType? with
  | some t => (text.dropLast, t)
  | none => (text, .double)

/-- Whether a character makes a literal a real number. -/
def isRealMark (c : Char) : Bool :=
  c == '.' || c == 'e' || c == 'E' || (suffixType? c).isSome

/-! ## The three forms -/

/-- An integer in hexadecimal, from what follows its mark. -/
def readHex? (text : List Char) : Option Value :=
  let (digits, long) := splitLong text
  let bits := Digits.hexValue digits
  if digits.isEmpty || !digits.all Digits.isHexDigit then none
  else if long then
    if (IntegerType.unsignedOf 64).Holds bits then
      some (.int64 (.ofBitVec (BitVec.ofNat 64 bits)))
    else none
  else if (IntegerType.unsignedOf 32).Holds bits then
    some (.int32 (.ofBitVec (BitVec.ofNat 32 bits)))
  else none

/-- A finite binary number. -/
def readFinite? {f : Format} (text : List Char) : Option (Floating f) :=
  (Floating.read? text).filter Floating.isFinite

/-- A decimal, with or without an exponent. -/
def readDecimal? (text : List Char) : Option Decimal :=
  if text.any fun c ↦ c == 'e' || c == 'E' then Decimal.readScientific? text
  else Decimal.read? text

/-- A real number. -/
def readReal? (text : List Char) : Option Value :=
  let (body, type) := splitReal text
  match type with
  | .single => (readFinite? body).map .single
  | .decimal => (readDecimal? body).map .decimal
  | _ => (readFinite? body).map .double

/-- An integer in decimal digits. -/
def readInteger? (text : List Char) : Option Value :=
  let (digits, long) := splitLong text
  let n := Digits.value digits
  if digits.isEmpty || !digits.all Char.isDigit then none
  else if long then
    if (IntegerType.signedOf 64).Holds n then some (.int64 (Int64.ofNat n)) else none
  else if (IntegerType.signedOf 32).Holds n then some (.int32 (Int32.ofNat n))
  else none

/-- The value of a number literal; none if it is malformed. -/
def read? (text : List Char) : Option Value :=
  match text with
  | '0' :: 'x' :: rest | '0' :: 'X' :: rest => readHex? rest
  | _ => if text.any isRealMark then readReal? text else readInteger? text

end Formula.NumberLiteral
