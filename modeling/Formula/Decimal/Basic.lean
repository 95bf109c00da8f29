import Formula.Rounding
import Formula.Text.Digits

/-!
# Decimal numbers

A decimal is a sign, a mantissa of at most 96 bits and a scale of at most 28: the number
`mantissa / 10 ^ scale`.  Two decimals can be equal as numbers and yet differ in scale, or in the
sign of zero; both are kept, since both show in the text.

`Decimal.units` views a decimal as an integer number of `10 ^ -28`, and the order of decimals is
the order of their units.  `Decimal.fit?` rounds a mantissa of any size to the type.
-/

set_option autoImplicit false

-- Powers of natural numbers are those of the core library, whatever else is imported.
attribute [local instance(high)] instPowNat

namespace Formula

/-- Mantissas lie below this bound. -/
def mantissaBound : Nat := 2 ^ (96 : Nat)

/-- The largest scale. -/
def maxScale : Nat := 28

/-- The number `mantissa / 10 ^ scale` with a sign, which zero has too. -/
structure Decimal where
  negative : Bool
  mantissa : Nat
  scale : Nat
  mantissa_lt : mantissa < mantissaBound := by decide
  scale_le : scale ≤ maxScale := by decide
  deriving DecidableEq

namespace Decimal

/-! ## Construction -/

/-- Zero, with no places. -/
def zero : Decimal := { negative := false, mantissa := 0, scale := 0 }

instance : Inhabited Decimal := ⟨zero⟩

/-- The decimal of a sign, a mantissa and a scale, if both are in bounds. -/
def make? (negative : Bool) (mantissa scale : Nat) : Option Decimal :=
  if h : mantissa < mantissaBound ∧ scale ≤ maxScale then
    some { negative, mantissa, scale, mantissa_lt := h.1, scale_le := h.2 }
  else none

/-- The decimal of a 64-bit integer. -/
def ofInt64 (i : Int64) : Decimal where
  negative := decide (i.toInt < 0)
  mantissa := i.toInt.natAbs
  scale := 0
  mantissa_lt := by
    have hlow := i.le_toInt
    have hhigh := i.toInt_lt
    rw [mantissaBound]
    omega

/-! ## Views -/

/-- Whether a decimal is zero, of either sign. -/
def isZero (d : Decimal) : Bool := d.mantissa == 0

/-- The value as a whole number of `10 ^ -28`. -/
def units (d : Decimal) : Int :=
  let magnitude := d.mantissa * 10 ^ (maxScale - d.scale)
  if d.negative then -magnitude else magnitude

/-- The integer part. -/
def truncate (d : Decimal) : Int :=
  let magnitude := d.mantissa / 10 ^ d.scale
  if d.negative then -magnitude else magnitude

/-- The order of the values; neither the scale nor the sign of zero counts. -/
def compare (a b : Decimal) : Ordering := Ord.compare a.units b.units

/-- The text: plain digits with as many places as the scale, and the sign, of zero too. -/
def text (d : Decimal) : String :=
  let digits := Digits.fixed d.mantissa d.scale
  String.ofList (if d.negative then '-' :: digits else digits)

/-- The decimal with the sign that is given. -/
def withSign (negative : Bool) (d : Decimal) : Decimal := { d with negative }

/-- The decimal without the sign of zero. -/
def unsignedZero (d : Decimal) : Decimal := d.withSign (d.negative && !d.isZero)

/-! ## Rounding to the type -/

/-- How many last digits to drop until a mantissa is within the bound. -/
def excessDigits (mantissa : Nat) : Nat :=
  if mantissa < mantissaBound then 0 else excessDigits (mantissa / 10) + 1
termination_by mantissa
decreasing_by
  rename_i h
  exact Nat.div_lt_self (Nat.lt_of_lt_of_le (by decide) (Nat.not_lt.1 h)) (by decide)

/-- The decimal nearest to `mantissa / 10 ^ scale`, a half going to the even neighbour, with as
many places as the type can hold; none if the integer part does not fit. -/
def fit? (negative : Bool) (mantissa scale : Nat) : Option Decimal :=
  let surplus := scale - maxScale
  let drop := surplus + excessDigits (mantissa / 10 ^ surplus)
  if scale < drop then none
  else
    let rounded := divHalfEven mantissa (10 ^ drop)
    if rounded < mantissaBound then make? negative rounded (scale - drop)
    else if scale = drop then none
    else make? negative (divHalfEven rounded 10) (scale - drop - 1)

end Decimal

end Formula
