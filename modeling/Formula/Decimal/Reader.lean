import Formula.Decimal.Arithmetic

/-!
# Reading decimals

`Decimal.read?` reads plain digits.  The scale is the number of places, as far as the type can hold
them: the first place that it cannot hold rounds the rest, a half going upwards, and later places
are only checked to be digits.  `Decimal.readScientific?` also reads an exponent.

An underscore may stand anywhere after the first digit.  It means nothing, with one exception: right
after the last place that the type can hold, it cuts off what follows if the digits so far are few.
Zero is read without its sign.
-/

set_option autoImplicit false

-- Powers of natural numbers are those of the core library, whatever else is imported.
attribute [local instance(high)] instPowNat

namespace Formula.Decimal

/-! ## Plain digits -/

/-- Below this bound a mantissa surely takes one more digit within 64 bits. -/
def wordBound : Nat := (2 ^ (64 : Nat) - 1) / 10 - 255

/-- Adds the places after the point to a mantissa, as many as fit, and rounds by the first that
does not.  None if rounding carries a whole number beyond the bound.

An underscore after the last place that the scale allows stands for a zero there, if the mantissa
without that place is below `wordBound`; all others are passed over. -/
def appendPlaces? (mantissa scale : Nat) : List Char → Option (Nat × Nat)
  | [] => some (mantissa, scale)
  | c :: rest =>
    let digit := Digits.digitValue c
    if c = '_' then
      if scale = maxScale ∧ mantissa / 10 < wordBound then some (mantissa, scale)
      else appendPlaces? mantissa scale rest
    else if scale < maxScale ∧ 10 * mantissa + digit < mantissaBound then
      appendPlaces? (10 * mantissa + digit) (scale + 1) rest
    else if digit < 5 then some (mantissa, scale)
    else if mantissa + 1 < mantissaBound then some (mantissa + 1, scale)
    else if scale = 0 then none
    else some ((mantissa + 5) / 10, scale - 1)

/-- Whether a text is digits and underscores that begins with a digit. -/
def isSeparatedDigits : List Char → Bool
  | [] => false
  | c :: rest => c.isDigit && rest.all fun d ↦ d.isDigit || d == '_'

/-- The decimal that digits with at most one point stand for. -/
def readMagnitude? (negative : Bool) (text : List Char) : Option Decimal :=
  let whole := text.takeWhile (· != '.')
  let places := (text.dropWhile (· != '.')).drop 1
  if isSeparatedDigits (whole ++ places) then
    let mantissa := Digits.value (whole.filter Char.isDigit)
    if mantissa < mantissaBound then
      ((appendPlaces? mantissa 0 places).bind fun (mantissa, scale) ↦
        make? negative mantissa scale).map unsignedZero
    else none
  else none

/-- The decimal that a text stands for: an optional sign, and digits with at most one point. -/
def read? : List Char → Option Decimal
  | '-' :: rest => readMagnitude? true rest
  | '+' :: rest => readMagnitude? false rest
  | text => readMagnitude? false text

/-! ## Exponents -/

/-- The exponent that a text without a minus sign stands for: an optional plus sign and digits, of
at most 32 bits. -/
def readExponent? (text : List Char) : Option Nat :=
  let digits := match text with
    | '+' :: rest => rest
    | _ => text
  if digits.isEmpty || !digits.all Char.isDigit then none
  else if Digits.value digits < shortBound then some (Digits.value digits) else none

/-- The decimal with another scale, if that is in bounds. -/
def withScale? (d : Decimal) (scale : Nat) : Option Decimal := make? d.negative d.mantissa scale

/-- Takes all zeros off the end of the places. -/
def stripPlaces (mantissa scale : Nat) : Nat × Nat :=
  if 0 < scale ∧ mantissa % 10 = 0 then stripPlaces (mantissa / 10) (scale - 1)
  else (mantissa, scale)
termination_by scale

/-- The same value with as few places as possible. -/
def normalize (d : Decimal) : Decimal :=
  let (mantissa, scale) := stripPlaces d.mantissa d.scale
  ((make? d.negative mantissa scale).map unsignedZero).getD d

/-- The decimal times `10 ^ exponent`, for an exponent of at most 28.  The product is taken in
factors of at most `10 ^ 19`. -/
def timesPowerOfTen? (d : Decimal) (exponent : Nat) : Option Decimal :=
  let step (d : Decimal) (power : Nat) : Option Decimal :=
    if power = 0 then some d else (make? false (10 ^ power) 0).bind d.mul?
  (step d (min exponent 19)).bind fun d ↦ step d (exponent - 19)

/-- The decimal that a text with an exponent stands for.

A negative exponent adds places.  One that is not negative takes places away, and if there are too
few of them multiplies and keeps as few places as possible. -/
def readScientific? (text : List Char) : Option Decimal :=
  let isMark (c : Char) : Bool := c == 'e' || c == 'E'
  let exponentText := (text.dropWhile fun c ↦ !isMark c).drop 1
  (read? (text.takeWhile fun c ↦ !isMark c)).bind fun base ↦
    match exponentText with
    | '-' :: digits =>
      (readExponent? digits).bind fun exponent ↦ base.withScale? (base.scale + exponent)
    | _ =>
      (readExponent? exponentText).bind fun exponent ↦
        if exponent ≤ base.scale then base.withScale? (base.scale - exponent)
        else if maxScale < exponent then none
        else (base.timesPowerOfTen? exponent).map normalize

end Formula.Decimal
