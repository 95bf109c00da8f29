import Formula.Decimal.Conversion
import Mathlib.Algebra.Order.Ring.Int

/-!
# Decimals as machine integers

A decimal becomes an integer by losing its places, which truncates its value toward zero
(`Decimal.truncate_eq_tdiv`).  `Decimal.toInteger?` then asks for an integer of 64 bits with a sign,
whatever the type that it is for.  That makes no difference for types that have no integers beyond
those (`Decimal.toInteger?_of_le`).  The unsigned integers of 64 bits go on beyond them, and of the
decimals there the conversion refuses all: `Decimal.toInteger?_eq`.
-/

set_option autoImplicit false

namespace Formula

/-- The types of machine integers. -/
def IntegerType.machine : List IntegerType :=
  [.unsignedOf 8, .signedOf 8, .unsignedOf 16, .signedOf 16, .unsignedOf 32, .signedOf 32,
    .unsignedOf 64, .signedOf 64]

namespace Decimal

variable {d : Decimal} {t : IntegerType}

/-- The integer part is the value, a number of `10 ^ -28`, truncated toward zero. -/
theorem truncate_eq_tdiv (d : Decimal) : d.truncate = d.units.tdiv (10 ^ maxScale) := by
  have hsplit : 10 ^ maxScale = 10 ^ d.scale * 10 ^ (maxScale - d.scale) := by
    rw [← pow_add, Nat.add_sub_cancel' d.scale_le]
  have hmagnitude : d.mantissa / 10 ^ d.scale =
      d.mantissa * 10 ^ (maxScale - d.scale) / 10 ^ maxScale := by
    rw [hsplit, Nat.mul_div_mul_right _ _ (Nat.pow_pos (by decide))]
  have hsize : ((d.mantissa / 10 ^ d.scale : Nat) : Int) =
      ((d.mantissa * 10 ^ (maxScale - d.scale) : Nat) : Int).tdiv (10 ^ maxScale) := by
    rw [hmagnitude, Int.ofNat_tdiv]
    push_cast
    rfl
  rw [truncate, units]
  split
  · rw [Int.neg_tdiv, ← hsize]
  · exact hsize

/-- A type whose integers are all integers of 64 bits with a sign is asked for alone. -/
theorem toInteger?_of_le (hlow : IntegerType.int64.low ≤ t.low)
    (hhigh : t.high ≤ IntegerType.int64.high) (d : Decimal) :
    d.toInteger? t = if t.Holds d.truncate then some d.truncate else none := by
  rw [toInteger?]
  refine if_congr ⟨And.right, fun h ↦ ⟨⟨hlow.trans h.1, h.2.trans hhigh⟩, h⟩⟩ rfl rfl

/-- **Every decimal that fits becomes its integer part, except beyond the signed integers of 64
bits.**  The conversion to a type of machine integers gives the value truncated toward zero if the
type holds it, and none otherwise; but there is none either for an unsigned integer of 64 bits from
`2 ^ 63` on, although the type holds it. -/
theorem toInteger?_eq (d : Decimal) (t : IntegerType) (ht : t ∈ IntegerType.machine) :
    d.toInteger? t =
      if t.Holds (d.units.tdiv (10 ^ maxScale)) ∧
          ¬ (t = .unsignedOf 64 ∧ 2 ^ 63 ≤ d.units.tdiv (10 ^ maxScale)) then
        some (d.units.tdiv (10 ^ maxScale))
      else none := by
  rw [← truncate_eq_tdiv]
  by_cases hunsigned : t = .unsignedOf 64
  · subst hunsigned
    rw [toInteger?]
    refine if_congr ?_ rfl rfl
    simp only [IntegerType.Holds, IntegerType.low, IntegerType.high, IntegerType.int64,
      IntegerType.signedOf, IntegerType.unsignedOf, if_true, Bool.false_eq_true, if_false, true_and]
    omega
  · have hrange : IntegerType.int64.low ≤ t.low ∧ t.high ≤ IntegerType.int64.high := by
      simp only [IntegerType.machine, List.mem_cons, List.not_mem_nil, or_false, hunsigned,
        false_or] at ht
      rcases ht with rfl | rfl | rfl | rfl | rfl | rfl | rfl <;> decide
    rw [toInteger?_of_le hrange.1 hrange.2]
    exact if_congr (by simp [hunsigned]) rfl rfl

/-- The decimal `-128.5` is the least integer of 8 bits with a sign, and no integer without one. -/
theorem toInteger?_eq_negative :
    let d : Decimal := { negative := true, mantissa := 1285, scale := 1 }
    (IntegerType.signedOf 8 ∈ IntegerType.machine ∧ d.toInteger? (.signedOf 8) = some (-128)) ∧
      IntegerType.unsignedOf 64 ∈ IntegerType.machine ∧ d.toInteger? (.unsignedOf 64) = none := by
  intro d
  have hsigned : IntegerType.signedOf 8 ∈ IntegerType.machine := by decide
  have hunsigned : IntegerType.unsignedOf 64 ∈ IntegerType.machine := by decide
  exact ⟨⟨hsigned, (toInteger?_eq d _ hsigned).trans (by decide)⟩, hunsigned,
    (toInteger?_eq d _ hunsigned).trans (by decide)⟩

/-- The least power of two that only the unsigned integers of 64 bits hold is refused. -/
theorem toInteger?_two_pow_63 :
    ∃ d : Decimal, (IntegerType.unsignedOf 64).Holds (d.units.tdiv (10 ^ maxScale)) ∧
      d.toInteger? (.unsignedOf 64) = none :=
  ⟨{ negative := false, mantissa := 2 ^ 63, scale := 0 }, by decide, by decide⟩

end Decimal

end Formula
