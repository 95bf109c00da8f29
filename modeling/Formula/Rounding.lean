/-!
# Rounding a quotient

`divHalfEven` and `divHalfUp` give the natural number nearest to `num / den`.  They differ only in
the exact half, which goes to the even neighbour in the first and upwards in the second.
-/

set_option autoImplicit false

namespace Formula

/-- The number nearest to `num / den`; an exact half goes to the even neighbour. -/
def divHalfEven (num den : Nat) : Nat :=
  let quotient := num / den
  let twice := 2 * (num % den)
  if twice < den then quotient
  else if den < twice then quotient + 1
  else quotient + quotient % 2

/-- The number nearest to `num / den`; an exact half goes upwards. -/
def divHalfUp (num den : Nat) : Nat :=
  if 2 * (num % den) < den then num / den else num / den + 1

theorem divHalfEven_le (num den : Nat) : divHalfEven num den ≤ num / den + 1 := by
  simp only [divHalfEven]
  split
  · exact Nat.le_succ _
  · split <;> omega

/-- A multiple of the divisor needs no rounding. -/
theorem divHalfEven_mul (k : Nat) {den : Nat} (h : 0 < den) : divHalfEven (k * den) den = k := by
  simp [divHalfEven, Nat.mul_div_cancel k h, h]

end Formula
