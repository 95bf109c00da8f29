import Formula.Proofs.Value.Wrapping
import Formula.Proofs.Word
import Mathlib.Data.Rat.Floor

/-!
# Shifts

A shift to the left multiplies by a power of two and wraps, and a shift to the right divides by one
and rounds down.  The exponent is the count modulo the width of the left operand, whatever its sign.

Two things stand between the count and the exponent.  The count is cut to 32 bits first, and only
then to the width; that makes no difference, because every width divides `2 ^ 32`
(`shiftPlaces_two_pow`).  And the four types of left operands have words of their own;
`exists_shift_of_integral?` is what they have in common, and the rest is about words.
-/

set_option autoImplicit false

namespace Formula

theorem ValueType.exists_bits_eq_two_pow {t : ValueType} {type : IntegerType}
    (h : t.integers? = some type) : ∃ exponent ≤ 32, type.bits = 2 ^ exponent := by
  cases t with
  | byte => cases h; exact ⟨3, by decide, rfl⟩
  | int16 => cases h; exact ⟨4, by decide, rfl⟩
  | int32 => cases h; exact ⟨5, by decide, rfl⟩
  | int64 => cases h; exact ⟨6, by decide, rfl⟩
  | null | boolean | string | single | double | decimal => cases h

namespace Value

variable {v w : Value} {a c : Int} {type : IntegerType}

/-! ## Counts -/

/-- A power of two that divides `2 ^ 32` has the same residues before and after the cut. -/
theorem shiftPlaces_two_pow {exponent : Nat} (h : exponent ≤ 32) (count : Int) :
    (shiftPlaces (2 ^ exponent) count : Int) = count % (2 ^ exponent : Nat) := by
  have hdvd : ((2 ^ exponent : Nat) : Int) ∣ (2 ^ 32 : Nat) :=
    Int.natCast_dvd_natCast.2 (Nat.pow_dvd_pow 2 h)
  rw [shiftPlaces, Nat.and_two_pow_sub_one_eq_mod, BitVec.toNat_ofInt, Int.natCast_emod,
    Int.toNat_of_nonneg (Int.emod_nonneg count (by decide)), Int.emod_emod_of_dvd count hdvd]

theorem shiftPlaces_bits {t : ValueType} (h : t.integers? = some type) (count : Int) :
    (shiftPlaces type.bits count : Int) = count % type.bits := by
  obtain ⟨exponent, hexponent, hbits⟩ := ValueType.exists_bits_eq_two_pow h
  rw [hbits]
  exact shiftPlaces_two_pow hexponent count

/-! ## Words -/

/-- **A shift moves the word of its left operand**, in whatever type that is. -/
theorem exists_shift_of_integral? (op : BinaryOp) (hv : v.integral? = some a)
    (htype : v.type.integers? = some type) (hw : w.integral? = some c) :
    ∃ word r, type.read word = a ∧ v.shift op w = .ok r ∧ r.type = v.type ∧ r.integral? =
      some (type.read (shiftWord op type.signed word (shiftPlaces type.bits c))) := by
  rw [shift.eq_def, hw]
  cases v with
  | byte n | int16 n | int32 n | int64 n =>
    cases hv
    cases htype
    exact ⟨n.toBitVec, _, rfl, rfl, rfl, rfl⟩
  | null | boolean | string | single | double | decimal => cases hv

theorem binary_eq_shift {op : BinaryOp} (hop : op = .shiftLeft ∨ op = .shiftRight)
    (hv : v.integral? = some a) (hw : w.integral? = some c) : v.binary op w = v.shift op w := by
  have hnull : ¬ (v.isNull || w.isNull) = true := by
    rw [Bool.or_eq_true, isNull_iff, isNull_iff]
    rintro (rfl | rfl)
    · cases hv
    · cases hw
  rcases hop with rfl | rfl <;> simp only [binary, if_neg hnull]

/-- A shift to the left multiplies and wraps. -/
theorem exists_binary_shiftLeft (hv : v.integral? = some a)
    (htype : v.type.integers? = some type) (hw : w.integral? = some c) :
    ∃ r, v.binary .shiftLeft w = .ok r ∧
      r.Wraps v.type (a * 2 ^ shiftPlaces type.bits c) := by
  obtain ⟨word, r, rfl, hr, hrtype, hread⟩ := exists_shift_of_integral? .shiftLeft hv htype hw
  rw [shiftWord, if_pos rfl, IntegerType.read_shiftLeft] at hread
  exact ⟨r, (binary_eq_shift (.inl rfl) hv hw).trans hr, .of_integral? htype hrtype hread⟩

/-- A shift to the right divides and rounds down. -/
theorem exists_binary_shiftRight (hv : v.integral? = some a)
    (htype : v.type.integers? = some type) (hw : w.integral? = some c) :
    ∃ r, v.binary .shiftRight w = .ok r ∧ r.type = v.type ∧
      r.integral? = some ⌊(a / 2 ^ shiftPlaces type.bits c : ℚ)⌋ := by
  obtain ⟨word, r, rfl, hr, hrtype, hread⟩ := exists_shift_of_integral? .shiftRight hv htype hw
  rw [shiftWord, if_neg (by decide), IntegerType.read_shiftRight,
    ← Rat.floor_intCast_div_natCast] at hread
  push_cast at hread
  exact ⟨r, (binary_eq_shift (.inr rfl) hv hw).trans hr, hrtype, hread⟩

/-- **Shifts multiply and divide by powers of two.**  The exponent is the count modulo the width of
the left operand, also where the count is negative or does not fit in 32 bits.  To the left the
product wraps, to the right the quotient is rounded down, and the result is of the type of the left
operand.  Two counts of the same value give the same result, whatever their types. -/
theorem binary_shift_of_integral {v w : Value} {a c : Int} (hv : v.integral? = some a)
    (hw : w.integral? = some c) :
    ∃ (type : IntegerType) (k : Nat), v.type.integers? = some type ∧ (k : Int) = c % type.bits ∧
      (∃ r, v.binary .shiftLeft w = .ok r ∧ r.Wraps v.type (a * 2 ^ k)) ∧
      (∃ r, v.binary .shiftRight w = .ok r ∧ r.type = v.type ∧
        r.integral? = some ⌊(a / 2 ^ k : ℚ)⌋) ∧
      ∀ w' : Value, w'.integral? = some c →
        v.binary .shiftLeft w' = v.binary .shiftLeft w ∧
          v.binary .shiftRight w' = v.binary .shiftRight w := by
  obtain ⟨type, htype, -⟩ := exists_holds_of_integral? hv
  obtain ⟨left, hleft, hwraps⟩ := exists_binary_shiftLeft hv htype hw
  obtain ⟨right, hright, hrtype, hfloor⟩ := exists_binary_shiftRight hv htype hw
  refine ⟨type, shiftPlaces type.bits c, htype, shiftPlaces_bits htype c, ⟨left, hleft, hwraps⟩,
    ⟨right, hright, hrtype, hfloor⟩, fun w' hw' ↦ ⟨?_, ?_⟩⟩
  · obtain ⟨left', hleft', hwraps'⟩ := exists_binary_shiftLeft hv htype hw'
    rw [hleft, hleft', hwraps'.unique hwraps]
  · obtain ⟨right', hright', hrtype', hfloor'⟩ := exists_binary_shiftRight hv htype hw'
    rw [hright, hright', eq_of_integral? (hrtype'.trans hrtype.symm) hfloor' hfloor]

/-- A negative count moves a narrow integer by what is left of it modulo the width. -/
theorem binary_shift_of_integral_negative :
    (int16 (-7)).integral? = some (-7) ∧ (int64 (-15)).integral? = some (-15) ∧
      (∃ r, (int16 (-7)).binary .shiftLeft (int64 (-15)) = .ok r ∧ r.Wraps .int16 (-14)) ∧
      (∃ r, (int16 (-7)).binary .shiftRight (int64 (-15)) = .ok r ∧ r.type = .int16 ∧
        r.integral? = some (-4)) ∧
      (int16 (-7)).binary .shiftRight (int16 (-15)) =
        (int16 (-7)).binary .shiftRight (int64 (-15)) := by
  have hleft : (int16 (-7)).integral? = some (-7) := by decide
  have hright : (int64 (-15)).integral? = some (-15) := by decide
  obtain ⟨type, k, htype, hk, hshiftLeft, hshiftRight, hsame⟩ :=
    binary_shift_of_integral hleft hright
  cases htype
  obtain rfl : k = 1 := by
    have : (k : Int) = 1 := hk
    omega
  have hfloor : ⌊((-7 : Int) / 2 ^ 1 : ℚ)⌋ = -4 := by norm_num
  rw [hfloor] at hshiftRight
  exact ⟨hleft, hright, hshiftLeft, hshiftRight, (hsame (int16 (-15)) (by decide)).2⟩

end Value

end Formula
