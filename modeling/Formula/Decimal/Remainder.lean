import Formula.Decimal.Arithmetic

/-!
# Remainders of decimals

A remainder is worked out on the mantissas that the operands have at the larger of their scales.

A divisor of at most 64 bits leaves the exact remainder.  By a wider one the division is long
division in digits of 32 bits, after a shift that gives the divisor three digits and sets its top
bit.  Each digit of the quotient is estimated from the leading digits, and the estimate has room
for 32 bits.  `windowRemainder_eq_mod` says that a step whose estimate fits leaves the exact
remainder.  Where what is left does not begin with a smaller digit than the divisor, the estimate
does not fit and is cut: too small a multiple is taken away, and what remains is kept to 96 bits.
-/

set_option autoImplicit false

-- Powers of natural numbers are those of the core library, whatever else is imported.
attribute [local instance(high)] instPowNat

namespace Formula.Decimal

/-! ## Long division -/

/-- What one step of long division leaves of a window of four digits, by a divisor of three.

The digit of the quotient is the quotient of the window's two leading digits by the divisor's
leading one, cut to 32 bits.  If that is too large for the divisor's other digits, the divisor is
added back as often as needed. -/
def windowRemainder (divisor window : Nat) : Nat :=
  let leading := divisor / 2 ^ (64 : Nat)
  let others := divisor % 2 ^ (64 : Nat)
  let digit := window / 2 ^ (64 : Nat) / leading % shortBound
  let left := (window - digit * leading * 2 ^ (64 : Nat)) % mantissaBound
  if digit * others ≤ left then left - digit * others
  else (((left : Int) - (digit * others : Nat)) % (divisor : Int)).toNat

/-- A step whose estimate has at most 32 bits leaves the exact remainder. -/
theorem windowRemainder_eq_mod {divisor window : Nat} (hdivisor : divisor < mantissaBound)
    (h : window / mantissaBound < divisor / 2 ^ (64 : Nat)) :
    windowRemainder divisor window = window % divisor := by
  have hpos : 0 < divisor / 2 ^ (64 : Nat) := Nat.lt_of_le_of_lt (Nat.zero_le _) h
  have hdigit : window / 2 ^ (64 : Nat) / (divisor / 2 ^ (64 : Nat)) < shortBound := by
    rw [Nat.div_lt_iff_lt_mul hpos, Nat.mul_comm,
      ← Nat.div_lt_iff_lt_mul (show 0 < shortBound by decide), Nat.div_div_eq_div_mul,
      show 2 ^ (64 : Nat) * shortBound = mantissaBound by decide]
    exact h
  simp only [windowRemainder, Nat.mod_eq_of_lt hdigit]
  have htop := Nat.div_add_mod (window / 2 ^ (64 : Nat)) (divisor / 2 ^ (64 : Nat))
  have hrest := Nat.mod_lt (window / 2 ^ (64 : Nat)) hpos
  generalize hq : window / 2 ^ (64 : Nat) / (divisor / 2 ^ (64 : Nat)) = digit at *
  generalize window / 2 ^ (64 : Nat) % (divisor / 2 ^ (64 : Nat)) = rest at *
  have hsplit : digit * divisor =
      digit * (divisor / 2 ^ (64 : Nat)) * 2 ^ (64 : Nat) + digit * (divisor % 2 ^ (64 : Nat)) := by
    conv => lhs; rw [← Nat.div_add_mod divisor (2 ^ (64 : Nat))]
    rw [Nat.mul_add, Nat.mul_comm (2 ^ (64 : Nat)), Nat.mul_assoc]
  have htaken : digit * (divisor / 2 ^ (64 : Nat)) * 2 ^ (64 : Nat) ≤ window ∧
      window - digit * (divisor / 2 ^ (64 : Nat)) * 2 ^ (64 : Nat) < divisor := by
    rw [Nat.mul_comm digit]
    generalize divisor / 2 ^ (64 : Nat) * digit = taken at *
    omega
  rw [Nat.mod_eq_of_lt (Nat.lt_trans htaken.2 hdivisor)]
  split
  · rename_i hfit
    have hle : digit * divisor ≤ window := by omega
    have hlt : window - digit * divisor < divisor := by omega
    rw [Nat.sub_sub, ← hsplit, ← Nat.mod_eq_of_lt hlt, Nat.mul_comm,
      Nat.sub_mul_mod (by rwa [Nat.mul_comm])]
  · have hcast : ((window - digit * (divisor / 2 ^ (64 : Nat)) * 2 ^ (64 : Nat) : Nat) : Int) -
        (digit * (divisor % 2 ^ (64 : Nat)) : Nat) = window - divisor * digit := by
      rw [Int.natCast_sub htaken.1, Int.sub_sub, ← Int.natCast_add, ← hsplit, Nat.mul_comm,
        Int.natCast_mul]
    rw [hcast, Int.sub_mul_emod_self_left, ← Int.natCast_emod, Int.toNat_natCast]

/-- What long division leaves of a dividend, whose digits come down one by one from the top. -/
def digitwiseRemainder (divisor dividend : Nat) : Nat :=
  if dividend = 0 then 0
  else
    windowRemainder divisor
      (digitwiseRemainder divisor (dividend / shortBound) * shortBound + dividend % shortBound)
termination_by dividend
decreasing_by exact Nat.div_lt_self (by omega) (by decide)

/-- The remainder of a mantissa by one of at most 96 bits. -/
def mantissaRemainder (dividend divisor : Nat) : Nat :=
  if divisor < 2 ^ (64 : Nat) then dividend % divisor
  else
    let shift := 95 - divisor.log2
    digitwiseRemainder (divisor * 2 ^ shift) (dividend * 2 ^ shift) / 2 ^ shift

/-! ## The remainder -/

/-- The remainder by a divisor that is not zero, at the larger of the two scales and with the sign
of the dividend.  A dividend that is smaller than the divisor is its own remainder. -/
def rem? (a b : Decimal) : Option Decimal :=
  let scale := max a.scale b.scale
  let dividend := (a.atScale scale).natAbs
  let divisor := (b.atScale scale).natAbs
  if a.isZero || dividend == divisor then some zero
  else if dividend < divisor then some a
  else (make? a.negative (mantissaRemainder dividend divisor) scale).map unsignedZero

end Formula.Decimal
