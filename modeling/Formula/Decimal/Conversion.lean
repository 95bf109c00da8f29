import Formula.Decimal.Basic
import Formula.Floating.Arithmetic
import Formula.Integer

/-!
# Decimals, integers and binary floating point

A decimal becomes an integer by losing its places.  It becomes a binary number by arithmetic in
the format of 64 bits: the integer part and the fraction are converted apart and added, and the sum
is rounded back to the places of the decimal.

A finite binary number becomes a decimal by turning its power of two into a power of ten, one
factor at a time, and then dropping digits: first those beyond the scale of a decimal, then those
beyond the precision of the binary format.
-/

set_option autoImplicit false

-- Powers of natural numbers are those of the core library, whatever else is imported.
attribute [local instance(high)] instPowNat

namespace Formula.Decimal

/-! ## From decimal to integer -/

/-- The integer part of a decimal, if it belongs to a type and to 64 bits with a sign. -/
def toInteger? (target : IntegerType) (d : Decimal) : Option Int :=
  if IntegerType.int64.Holds d.truncate ∧ target.Holds d.truncate then some d.truncate else none

/-! ## From decimal to binary -/

/-- The magnitude of a decimal as a binary number. -/
def magnitudeToDouble (mantissa scale : Nat) : Double :=
  let unit := 10 ^ scale
  let whole : Double := Floating.ofNat (mantissa / unit)
  let fraction := Floating.ofNat (mantissa % unit) / Floating.ofNat unit
  if fraction.isZero then whole
  else
    let power := Floating.power (Floating.ofNat 10) (Floating.ofNat 1) scale
    ((whole + fraction) * power).roundHalfAway / power

/-- The binary number of 64 bits for a decimal.  Zero without places has no sign. -/
def toDouble (d : Decimal) : Double :=
  (magnitudeToDouble d.mantissa d.scale).withSign
    (d.negative && !(d.isZero && d.scale == 0))

/-- The binary number of 32 bits for a decimal, by way of the one of 64 bits. -/
def toSingle (d : Decimal) : Single := d.toDouble.convert

/-! ## From binary to decimal -/

/-- Turns `count` factors of one half into tenths: each needs a factor of five, and where there is
no room for it a bit of the mantissa is lost instead.  An even mantissa is halved, which undoes the
factor without either. -/
def halvesToTenths : Nat → Nat × Int → Nat × Int
  | 0, state => state
  | count + 1, (mantissa, exponent) =>
    halvesToTenths count <|
      if mantissa % 2 = 0 then (mantissa / 2, exponent + 1)
      else if 5 * mantissa < mantissaBound then (5 * mantissa, exponent)
      else (mantissa / 2, exponent + 1)

/-- Turns `count` factors of two into factors of ten: each is a division by five, or as long as
there is room a doubling, which undoes the factor.  None if too few would be left to divide. -/
def doublesToTens? : Nat → Nat × Int → Option (Nat × Int)
  | 0, state => some state
  | count + 1, (mantissa, exponent) =>
    if 2 * mantissa < mantissaBound then doublesToTens? count (2 * mantissa, exponent - 1)
    else if (count + 1 : Int) < 2 * exponent then none
    else doublesToTens? count (mantissa / 5, exponent)

/-- Multiplies a mantissa by ten `count` times; none if it leaves the bound. -/
def timesTen? : Nat → Nat → Option Nat
  | 0, mantissa => some mantissa
  | count + 1, mantissa =>
    if mantissaBound ≤ 10 * mantissa then none else timesTen? count (10 * mantissa)

/-- A mantissa without its last digit, which rounds the rest; a half goes upwards. -/
def dropDigit (mantissa : Nat) : Nat := divHalfUp mantissa 10

/-- Drops `count` places, rounding at each; a mantissa that becomes zero has no places left. -/
def dropPlaces : Nat → Nat × Nat → Nat × Nat
  | 0, state => state
  | count + 1, (mantissa, scale) =>
    if mantissa / 10 = 0 then (0, 0)
    else dropPlaces count (dropDigit mantissa, scale - 1)

/-- Drops places, rounding at each, until the mantissa is below the bound or none are left. -/
def dropBeyond (bound : Nat) : Nat → Nat → Nat × Nat
  | mantissa, 0 => (mantissa, 0)
  | mantissa, scale + 1 =>
    if mantissa < bound then (mantissa, scale + 1)
    else dropBeyond bound (dropDigit mantissa) scale

/-- Takes the zeros off the end of the places. -/
def dropZeros : Nat → Nat → Nat × Nat
  | mantissa, 0 => (mantissa, 0)
  | mantissa, scale + 1 =>
    if mantissa % 10 = 0 then dropZeros (mantissa / 10) scale else (mantissa, scale + 1)

/-- The decimal for `mantissa * 2 ^ exponent`, with digits up to `precision` bits.  The sign stays
where the decimal is zero. -/
def ofBinary? (precision : Nat) (negative : Bool) (mantissa : Nat) (exponent : Int) :
    Option Decimal :=
  if mantissa = 0 then make? negative 0 0
  else
    let (mantissa, tens) := halvesToTenths (-exponent).toNat (mantissa, exponent)
    (doublesToTens? exponent.toNat (mantissa, tens)).bind fun (mantissa, tens) ↦
      (timesTen? tens.toNat mantissa).bind fun mantissa ↦
        let (mantissa, scale) := dropPlaces ((-tens).toNat - maxScale) (mantissa, (-tens).toNat)
        let (mantissa, scale) := dropBeyond (2 ^ precision) mantissa scale
        let (mantissa, scale) := dropZeros mantissa scale
        make? negative mantissa scale

/-- The decimal for a binary number: none for the infinities, for not a number, and for magnitudes
beyond the mantissa of a decimal. -/
def ofFloating? {f : Format} (x : Floating f) (precision : Nat) : Option Decimal :=
  match x with
  | .finite negative units _ =>
    let excess := f.excess units
    ofBinary? precision negative (units / 2 ^ excess) (excess - f.fractionBits)
  | _ => none

/-- The decimal for a binary number of 64 bits, with digits up to 52 bits. -/
def ofDouble? (x : Double) : Option Decimal := ofFloating? x 52

/-- The decimal for a binary number of 32 bits, with digits up to 24 bits. -/
def ofSingle? (x : Single) : Option Decimal := ofFloating? x 24

end Formula.Decimal
