import Formula.Decimal.Basic

/-!
# Arithmetic of decimals

The operations give none where the exact result is too large for the type, and otherwise round to
the places that the type can hold.  Sums, differences and products round once, a half going to the
even neighbour.  A quotient is worked out a few digits at a time, as far as the mantissa has room,
and loses the trailing zeros that this added.

A zero result has no sign, with one exception: a product of which a factor has a mantissa of more
than 32 bits keeps its sign when it rounds to zero.
-/

set_option autoImplicit false

-- Powers of natural numbers are those of the core library, whatever else is imported.
attribute [local instance(high)] instPowNat

namespace Formula.Decimal

/-- The decimal with the other sign, of zero too. -/
protected def neg (d : Decimal) : Decimal := { d with negative := !d.negative }

instance : Neg Decimal := ⟨Decimal.neg⟩

/-! ## Sums -/

/-- The mantissa that a decimal has at a larger scale, with its sign. -/
def atScale (d : Decimal) (scale : Nat) : Int :=
  let magnitude := d.mantissa * 10 ^ (scale - d.scale)
  if d.negative then -magnitude else magnitude

/-- The sum.  A zero operand leaves the other one as it is. -/
def add? (a b : Decimal) : Option Decimal :=
  if a.isZero then some b
  else if b.isZero then some a
  else
    let scale := max a.scale b.scale
    let sum := a.atScale scale + b.atScale scale
    fit? (decide (sum < 0)) sum.natAbs scale

/-- The difference.  Zero less zero is the second operand as it is. -/
def sub? (a b : Decimal) : Option Decimal :=
  if a.isZero && b.isZero then some b else a.add? (-b)

/-! ## Products -/

/-- Mantissas of at most 32 bits lie below this bound. -/
def shortBound : Nat := 2 ^ (32 : Nat)

/-- Whether a mantissa has at most 32 bits. -/
def isShort (d : Decimal) : Bool := decide (d.mantissa < shortBound)

/-- The product.  Two short mantissas with more than 47 places together make a plain zero. -/
def mul? (a b : Decimal) : Option Decimal :=
  if a.isZero || b.isZero then some zero
  else
    let short := a.isShort && b.isShort
    let scale := a.scale + b.scale
    if short && decide (47 < scale) then some zero
    else
      (fit? (a.negative != b.negative) (a.mantissa * b.mantissa) scale).map fun product ↦
        if short then product.unsignedZero else product

/-! ## Quotients -/

/-- The most digits, `limit` or fewer, that a quotient can be extended by within the bound. -/
def room (quotient : Nat) : Nat → Nat
  | 0 => 0
  | limit + 1 =>
    if quotient ≤ (mantissaBound - 1) / 10 ^ (limit + 1) then limit + 1 else room quotient limit

/-- How many digits to work out next: up to nine, as far as the mantissa and the scale have room.
None if the quotient cannot be brought to a scale of zero or more. -/
def nextDigits? (quotient : Nat) (scale : Int) : Option Nat :=
  if 429496729 < quotient / 2 ^ (64 : Nat) then if scale < 0 then none else some 0
  else
    let digits := room quotient (min 9 (maxScale - scale).toNat)
    if digits ≠ 9 ∧ digits + scale < 0 then none else some digits

/-- A quotient with one place less, rounded to nearest; a tail beyond the last digit breaks a tie
upwards, and without it a tie goes to the even neighbour. -/
def dropPlace? (quotient : Nat) (scale : Int) (tail : Bool) : Option (Nat × Nat) :=
  if scale < 1 then none
  else
    let rest := quotient % 10
    let short := quotient / 10
    let up := decide (5 < rest) || (rest == 5 && (tail || short % 2 == 1))
    some (if up then short + 1 else short, (scale - 1).toNat)

/-- Takes `count` zeros off the end of a mantissa, if there are as many and the scale allows. -/
def stripZeros (count : Nat) : Nat × Nat → Nat × Nat
  | (mantissa, scale) =>
    if count ≤ scale ∧ mantissa % 10 ^ count = 0 then (mantissa / 10 ^ count, scale - count)
    else (mantissa, scale)

/-- Takes groups of eight zeros off the end of a mantissa that is a multiple of `2 ^ 32`, as often
as possible. -/
def stripEights (mantissa scale : Nat) : Nat × Nat :=
  if 8 ≤ scale ∧ mantissa % shortBound = 0 ∧ mantissa % 100000000 = 0 then
    stripEights (mantissa / 100000000) (scale - 8)
  else (mantissa, scale)
termination_by scale

/-- Takes the zeros off that working out a quotient has added at its end: groups of eight, and then
at most one group each of four, two and one. -/
def stripAdded (mantissa scale : Nat) : Nat × Nat :=
  stripZeros 1 (stripZeros 2 (stripZeros 4 (stripEights mantissa scale)))

/-- Works out the quotient further from what is there: `quotient` at `scale`, with `rest` of the
divisor left over.  `added` says whether a place has been added for a nonzero rest. -/
def divideOn? (divisor quotient rest : Nat) (scale : Int) (added : Bool) : Option (Nat × Nat) :=
  let finish (added : Bool) (result : Nat × Nat) : Nat × Nat :=
    if added then stripAdded result.1 result.2 else result
  let digits? : Option Nat :=
    if rest = 0 then some (min 9 (-scale).toNat)
    else if scale = maxScale then some 0 else nextDigits? quotient scale
  match digits? with
  | none => none
  | some digits =>
    let added := added || rest != 0
    if h : 0 < digits ∧ scale < maxScale then
      if mantissaBound ≤ quotient * 10 ^ digits then none
      else
        let quotient := quotient * 10 ^ digits + rest * 10 ^ digits / divisor
        let rest := rest * 10 ^ digits % divisor
        if mantissaBound ≤ quotient then
          (dropPlace? quotient (scale + digits) (rest != 0)).map (finish added)
        else divideOn? divisor quotient rest (scale + digits) added
    else
      let up := decide (divisor < 2 * rest) || (2 * rest == divisor && quotient % 2 == 1)
      let quotient := if up then quotient + 1 else quotient
      if quotient = mantissaBound then (dropPlace? quotient scale true).map (finish added)
      else some (finish added (quotient, scale.toNat))
termination_by (maxScale - scale).toNat
decreasing_by omega

/-- The quotient by a divisor that is not zero. -/
def div? (a b : Decimal) : Option Decimal :=
  if a.isZero then some zero
  else
    (divideOn? b.mantissa (a.mantissa / b.mantissa) (a.mantissa % b.mantissa)
      (a.scale - b.scale) false).bind fun (mantissa, scale) ↦
        (make? (a.negative != b.negative) mantissa scale).map unsignedZero

end Formula.Decimal
