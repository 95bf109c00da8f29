import Formula.Proofs.Integer
import Mathlib.Data.Int.Bitwise

/-!
# Words and the integers that they stand for

`IntegerType.read` reads a word of a type's width as an integer: as it is if the type has no sign,
and in two's complement if it has one.  Each operation on words is described by what it does to this
reading.

Moving a word to the left multiplies and wraps, and moving it to the right divides and rounds down
(`read_shiftLeft`, `read_shiftRight`).  For the bitwise operations an integer is seen as its two's
complement digits, of which there are infinitely many, and which determine it (`eq_of_testBit_eq`):
the digits of a word's integer are the bits of the word and then copies of its sign
(`testBit_read`), so that an operation on the bits is one on the digits.
-/

set_option autoImplicit false

namespace Formula

/-- Integers with the same digits in two's complement are equal. -/
theorem eq_of_testBit_eq {i j : Int} (h : ∀ n, i.testBit n = j.testBit n) : i = j := by
  -- Far enough to the left, the digits are copies of the sign.
  have hsign : ∀ m k : Nat, ¬ ∀ n, m.testBit n = !k.testBit n := by
    intro m k h
    have hm : m.testBit (m + k) = false :=
      Nat.testBit_lt_two_pow (Nat.lt_of_le_of_lt (Nat.le_add_right m k) Nat.lt_two_pow_self)
    have hk : k.testBit (m + k) = false :=
      Nat.testBit_lt_two_pow (Nat.lt_of_le_of_lt (Nat.le_add_left k m) Nat.lt_two_pow_self)
    have := h (m + k)
    simp [hm, hk] at this
  cases i with
  | ofNat m =>
    cases j with
    | ofNat k => exact congrArg Int.ofNat (Nat.eq_of_testBit_eq h)
    | negSucc k => exact absurd h (hsign m k)
  | negSucc m =>
    cases j with
    | ofNat k => exact absurd (fun n ↦ (h n).symm) (hsign k m)
    | negSucc k => exact congrArg Int.negSucc (Nat.eq_of_testBit_eq fun n ↦ Bool.not_inj (h n))

namespace IntegerType

variable (t : IntegerType)

/-- The integer of a type that a word stands for. -/
def read (word : BitVec t.bits) : Int := if t.signed then word.toInt else word.toNat

/-! ## Moving -/

theorem read_shiftLeft (word : BitVec t.bits) (places : Nat) :
    t.read (word <<< places) = t.wrap (t.read word * 2 ^ places) := by
  have hshift : ((word.toNat <<< places : Nat) : Int) = word.toNat * 2 ^ places := by
    rw [Nat.shiftLeft_eq]
    push_cast
    rfl
  rw [read, read, wrap]
  split
  · rw [BitVec.toInt_shiftLeft, hshift, BitVec.toInt_eq_toNat_bmod, Int.bmod_mul_bmod]
  · rw [BitVec.toNat_shiftLeft, Int.natCast_emod, hshift]

/-- The bits that move in from the left are copies of the sign, if there is one. -/
theorem read_shiftRight (word : BitVec t.bits) (places : Nat) :
    t.read (if t.signed then word.sshiftRight places else word >>> places) =
      t.read word / (2 ^ places : Nat) := by
  rw [read, read]
  split
  · rw [BitVec.toInt_sshiftRight, Int.shiftRight_eq_div_pow]
  · rw [BitVec.toNat_ushiftRight, Nat.shiftRight_eq_div_pow, Int.natCast_ediv]

/-! ## Digits -/

variable {width : Nat}

theorem testBit_toNat (word : BitVec width) (n : Nat) :
    (word.toNat : Int).testBit n = if n < width then word.getLsbD n else false := by
  refine (BitVec.testBit_toNat word).trans ?_
  split
  · rfl
  · rename_i hout
    exact BitVec.getLsbD_of_ge word n (Nat.le_of_not_lt hout)

theorem testBit_toInt (word : BitVec width) (n : Nat) :
    word.toInt.testBit n = if n < width then word.getLsbD n else word.msb := by
  rw [BitVec.toInt_eq_msb_cond]
  split
  · rename_i hmsb
    -- The digits of a negative integer are those of its distance from minus one, turned over.
    have hneg : (word.toNat : Int) - (2 ^ width : Nat) =
        Int.negSucc (2 ^ width - (word.toNat + 1)) := by
      have := word.isLt
      omega
    rw [hneg, Int.testBit, Nat.testBit_two_pow_sub_succ word.isLt, BitVec.testBit_toNat, hmsb]
    split <;> simp [*]
  · rename_i hmsb
    rw [testBit_toNat, Bool.eq_false_iff.2 hmsb]

/-- The digits of a word's integer are the bits of the word, and then copies of its sign. -/
theorem testBit_read (word : BitVec t.bits) (n : Nat) :
    (t.read word).testBit n =
      if n < t.bits then word.getLsbD n else t.signed && word.msb := by
  rw [read]
  split
  · rename_i hsigned
    rw [testBit_toInt, hsigned, Bool.true_and]
  · rename_i hsigned
    rw [testBit_toNat, Bool.eq_false_iff.2 hsigned, Bool.false_and]

end IntegerType

end Formula
