import Formula.Floating.Basic

/-!
# Rounding depends on the ratio alone

`Format.roundUnits` and what is built on it are given a quotient as two numbers.  A common factor of
the two does not show in the result.
-/

set_option autoImplicit false

-- Powers of natural numbers are those of the core library, whatever else is imported.
attribute [local instance(high)] instPowNat

namespace Formula

theorem divHalfEven_mul_mul {k : Nat} (hk : 0 < k) (num den : Nat) :
    divHalfEven (k * num) (k * den) = divHalfEven num den := by
  have hlt : 2 * (k * num % (k * den)) < k * den ↔ 2 * (num % den) < den := by
    rw [Nat.mul_mod_mul_left, Nat.mul_left_comm, Nat.mul_lt_mul_left hk]
  have hgt : k * den < 2 * (k * num % (k * den)) ↔ den < 2 * (num % den) := by
    rw [Nat.mul_mod_mul_left, Nat.mul_left_comm, Nat.mul_lt_mul_left hk]
  simp only [divHalfEven, hlt, hgt, Nat.mul_div_mul_left num den hk]

theorem Format.roundUnits_mul_mul (f : Format) {k : Nat} (hk : 0 < k) (num den : Nat) :
    f.roundUnits (k * num) (k * den) = f.roundUnits num den := by
  rw [roundUnits, roundUnits, Nat.mul_div_mul_left num den hk, Nat.mul_assoc,
    divHalfEven_mul_mul hk]

namespace Floating

variable {f : Format}

theorem ofUnits_mul_mul {k : Nat} (hk : 0 < k) (negative : Bool) (num den : Nat) :
    (ofUnits negative (k * num) (k * den) : Floating f) = ofUnits negative num den := by
  simp only [ofUnits, f.roundUnits_mul_mul hk]

end Floating

end Formula
