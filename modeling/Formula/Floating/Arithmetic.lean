import Formula.Floating.Basic

/-!
# Arithmetic of binary floating point

Each operation takes the exact result on integers and rounds it once, to nearest with ties to
even.  The cases that have no exact result (an infinity less itself, zero times an infinity, zero
by zero, a remainder by zero) are not a number.
-/

set_option autoImplicit false

-- Powers of natural numbers are those of the core library, whatever else is imported.
attribute [local instance(high)] instPowNat

namespace Formula.Floating

variable {f : Format}

/-- The number with the other sign; not a number stays so. -/
protected def neg : Floating f → Floating f
  | .nan => .nan
  | .infinity negative => .infinity !negative
  | .finite negative units h => .finite (!negative) units h

/-- The sum.  An exact zero is negative only if both operands are. -/
protected def add : Floating f → Floating f → Floating f
  | .nan, _ | _, .nan => .nan
  | .infinity a, .infinity b => if a == b then .infinity a else .nan
  | .infinity a, .finite .. => .infinity a
  | .finite .., .infinity b => .infinity b
  | .finite a m _, .finite b n _ =>
    let sum := signed a m + signed b n
    ofUnits (if sum = 0 then a && b else decide (sum < 0)) sum.natAbs 1

/-- The difference. -/
protected def sub (x y : Floating f) : Floating f := x.add y.neg

/-- The product; its sign is negative if exactly one operand is. -/
protected def mul : Floating f → Floating f → Floating f
  | .nan, _ | _, .nan => .nan
  | .infinity a, .infinity b => .infinity (a != b)
  | .infinity a, .finite b n _ => if n = 0 then .nan else .infinity (a != b)
  | .finite a m _, .infinity b => if m = 0 then .nan else .infinity (a != b)
  | .finite a m _, .finite b n _ => ofUnits (a != b) (m * n) (2 ^ f.fractionBits)

/-- The quotient; by zero it is infinite, and not a number if the dividend is zero too. -/
protected def div : Floating f → Floating f → Floating f
  | .nan, _ | _, .nan => .nan
  | .infinity _, .infinity _ => .nan
  | .infinity a, .finite b _ _ => .infinity (a != b)
  | .finite a _ _, .infinity b => .finite (a != b) 0 f.fits_zero
  | .finite a m _, .finite b n _ =>
    if n = 0 then if m = 0 then .nan else .infinity (a != b)
    else ofUnits (a != b) (m * 2 ^ f.fractionBits) n

/-- The remainder of the division whose quotient is truncated; it is exact and has the sign of the
dividend. -/
protected def rem : Floating f → Floating f → Floating f
  | .nan, _ | _, .nan => .nan
  | .infinity _, _ => .nan
  | .finite a m h, .infinity _ => .finite a m h
  | .finite a m _, .finite _ n _ => if n = 0 then .nan else ofUnits a (m % n) 1

instance : Neg (Floating f) := ⟨Floating.neg⟩
instance : Add (Floating f) := ⟨Floating.add⟩
instance : Sub (Floating f) := ⟨Floating.sub⟩
instance : Mul (Floating f) := ⟨Floating.mul⟩
instance : Div (Floating f) := ⟨Floating.div⟩
instance : Mod (Floating f) := ⟨Floating.rem⟩

/-- A number raised to a power by repeated squaring: the factors of the bits of the exponent are
taken from the lowest bit up. -/
def power (base result : Floating f) (exponent : Nat) : Floating f :=
  if exponent = 0 then result
  else power (base * base) (if exponent % 2 = 1 then result * base else result) (exponent / 2)
termination_by exponent

end Formula.Floating
