import Formula.Integer
import Mathlib.Algebra.Order.Ring.Int
import Mathlib.Data.Int.ModEq
import Mathlib.Tactic.Positivity

/-!
# Integers of a fixed width

An integer type has, for each integer, exactly one integer that is congruent to it modulo the width.
`IntegerType.wrap` is that one: the least residue if there is no sign, and the balanced one if there
is.  It is in the range of the type (`holds_wrap`) and congruent (`wrap_modEq`), it leaves the
integers of the type alone (`wrap_of_holds`), and it depends on the residue only (`wrap_congr`).
-/

set_option autoImplicit false

namespace Formula.IntegerType

variable {t : IntegerType} {i j : Int}

/-- The integer of a type that is congruent to a given one modulo the width. -/
def wrap (t : IntegerType) (i : Int) : Int :=
  if t.signed then i.bmod (2 ^ t.bits) else i % (2 ^ t.bits : Nat)

theorem wrap_unsignedOf (bits : Nat) (i : Int) : (unsignedOf bits).wrap i = i % (2 ^ bits : Nat) :=
  rfl

theorem wrap_modEq (t : IntegerType) (i : Int) : t.wrap i ≡ i [ZMOD 2 ^ t.bits] := by
  have hpow : ((2 ^ t.bits : Nat) : Int) = 2 ^ t.bits := by push_cast; rfl
  rw [wrap, Int.ModEq, ← hpow]
  split
  · exact Int.bmod_emod
  · exact Int.emod_emod_of_dvd _ dvd_rfl

/-- The width of a signed type is twice the size of its negative half. -/
theorem two_mul_two_pow (h : 0 < t.bits) : 2 * 2 ^ (t.bits - 1) = 2 ^ t.bits := by
  rw [← pow_succ', Nat.sub_add_cancel h]

theorem holds_wrap (h : 0 < t.bits) (i : Int) : t.Holds (t.wrap i) := by
  have hpow := two_mul_two_pow h
  rw [Holds, low, high, wrap]
  split
  · have hle := Int.le_bmod (x := i) (Nat.two_pow_pos t.bits)
    have hlt := Int.bmod_lt (x := i) (Nat.two_pow_pos t.bits)
    omega
  · have hle := Int.emod_nonneg i (b := (2 ^ t.bits : Nat)) (by positivity)
    have hlt := Int.emod_lt_of_pos i (b := (2 ^ t.bits : Nat)) (by positivity)
    omega

theorem wrap_of_holds (h : 0 < t.bits) (hi : t.Holds i) : t.wrap i = i := by
  have hpow := two_mul_two_pow h
  rw [Holds, low, high] at hi
  rw [wrap]
  split
  · rename_i hsigned
    simp only [if_pos hsigned] at hi
    exact Int.bmod_eq_of_le_mul_two (by omega) (by omega)
  · rename_i hsigned
    simp only [if_neg hsigned] at hi
    exact Int.emod_eq_of_lt hi.1 (by omega)

theorem wrap_congr (h : i ≡ j [ZMOD 2 ^ t.bits]) : t.wrap i = t.wrap j := by
  have hpow : ((2 ^ t.bits : Nat) : Int) = 2 ^ t.bits := by push_cast; rfl
  rw [Int.ModEq, ← hpow] at h
  rw [wrap, wrap, h]
  split
  · rw [← Int.emod_bmod, h, Int.emod_bmod]
  · rfl

/-- A type that holds an integer holds what is between it and zero. -/
theorem holds_of_between (h : t.Holds i) (hlow : min i 0 ≤ j) (hhigh : j ≤ max i 0) :
    t.Holds j := by
  have hhalf := Nat.two_pow_pos (t.bits - 1)
  have hpos := Nat.two_pow_pos t.bits
  rw [Holds, low, high] at h ⊢
  by_cases hsigned : t.signed = true
  · simp only [if_pos hsigned] at h ⊢
    omega
  · simp only [if_neg hsigned] at h ⊢
    omega

/-- A type that holds a dividend holds its remainders. -/
theorem holds_tmod (h : t.Holds i) (j : Int) : t.Holds (i.tmod j) := by
  have hle : (i.tmod j).natAbs ≤ i.natAbs := by
    rw [Int.natAbs_tmod]
    exact Nat.mod_le ..
  rcases Int.le_total 0 i with hi | hi
  · have hsign := Int.tmod_nonneg j hi
    exact holds_of_between h (by omega) (by omega)
  · have hsign := Int.tmod_nonneg j (Int.neg_nonneg_of_nonpos hi)
    rw [Int.neg_tmod] at hsign
    exact holds_of_between h (by omega) (by omega)

end Formula.IntegerType
