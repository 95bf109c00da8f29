import Formula.Proofs.Value.Lossless
import Formula.Proofs.Word

/-!
# Bitwise operators

Written in two's complement, an integer has infinitely many digits, which repeat from some place on.
A bitwise operator on two integral values works on these digits, place by place, and not on as many
of them as the type in which the values meet happens to have.

For words that is `IntegerType.testBit_read_combine`: beyond the width, the operation meets copies
of the two signs, and these come out as copies of the sign of the result.  It holds in every type,
so that the integer of the result is the same in every type that has room for the operands.
-/

set_option autoImplicit false

namespace Formula

/-- The bitwise operation that an operator stands for. -/
def BinaryOp.bitwise? : BinaryOp → Option Bitwise
  | logicalAnd => some .and
  | logicalOr => some .or
  | logicalXor => some .xor
  | _ => none

theorem ValueType.promoteWith_self {t : ValueType} {type : IntegerType}
    (h : t.integers? = some type) : t.promoteWith t = some t := by
  cases t with
  | byte | int16 | int32 | int64 => rfl
  | null | boolean | string | single | double | decimal => cases h

theorem IntegerType.testBit_read_combine (t : IntegerType) (operation : Bitwise)
    (x y : BitVec t.bits) (n : Nat) :
    (t.read (NumberPair.combine operation x y)).testBit n =
      Value.combineTruth operation ((t.read x).testBit n) ((t.read y).testBit n) := by
  rw [testBit_read, testBit_read, testBit_read]
  split
  · cases operation with
    | and => exact BitVec.getLsbD_and
    | or => exact BitVec.getLsbD_or
    | xor => exact BitVec.getLsbD_xor
  · cases t.signed <;> cases operation <;> simp [NumberPair.combine, Value.combineTruth]

namespace NumberPair

variable {p : NumberPair} {a b : Int} {type : IntegerType}

/-- A pair of integral numbers is a pair of words, and a bitwise operation works on these. -/
theorem exists_bitwise?_of_integral? (operation : Bitwise) (ha : p.first.integral? = some a)
    (hb : p.second.integral? = some b) (htype : p.type.integers? = some type) :
    ∃ x y r, type.read x = a ∧ type.read y = b ∧ p.bitwise? operation = some r ∧
      r.type = p.type ∧ r.integral? = some (type.read (combine operation x y)) := by
  cases p with
  | byte x y | int16 x y | int32 x y | int64 x y =>
    cases ha
    cases hb
    cases htype
    refine ⟨x.toBitVec, y.toBitVec, _, rfl, rfl, rfl, rfl, ?_⟩
    cases operation <;> rfl
  | single | double | decimal => cases ha

theorem operate?_of_bitwise? {op : BinaryOp} {operation : Bitwise}
    (h : op.bitwise? = some operation) (p : NumberPair) :
    p.operate? op = (p.bitwise? operation).map .ok := by
  cases op <;> cases h <;> rfl

end NumberPair

namespace Value

variable {v w : Value} {a b : Int} {t : ValueType} {type : IntegerType}

/-- **A bitwise operator works on the digits of the integers**, in the type in which the values
meet. -/
theorem exists_binary_bitwise {op : BinaryOp} {operation : Bitwise}
    (hop : op.bitwise? = some operation) (hv : v.integral? = some a) (hw : w.integral? = some b)
    (h : v.type.promoteWith w.type = some t) (ht : t.integers? = some type) :
    ∃ r i, v.binary op w = .ok r ∧ r.type = t ∧ r.integral? = some i ∧
      ∀ n, i.testBit n = combineTruth operation (a.testBit n) (b.testBit n) := by
  obtain ⟨p, hp, rfl, hfirst, hsecond⟩ := exists_ofValues?_of_integral? hv hw h ht
  obtain ⟨x, y, r, rfl, rfl, hr, hrtype, hread⟩ :=
    NumberPair.exists_bitwise?_of_integral? operation hfirst hsecond ht
  have hoperate : p.operate? op = some (.ok r) := by
    rw [NumberPair.operate?_of_bitwise? hop, hr, Option.map_some]
  exact ⟨r, _, binary_of_ofValues? hp hoperate, hrtype, hread,
    type.testBit_read_combine operation x y⟩

/-- In another type that has room for both operands, the result is the same integer. -/
theorem exists_binary_bitwise_of_cast {op : BinaryOp} {operation : Bitwise} {i : Int}
    (hop : op.bitwise? = some operation) (hv : v.integral? = some a) (hw : w.integral? = some b)
    (hi : ∀ n, i.testBit n = combineTruth operation (a.testBit n) (b.testBit n))
    (ht : t.integers? = some type) (ha : type.Holds a) (hb : type.Holds b) :
    ∃ v' w' r, v.cast t = .ok v' ∧ w.cast t = .ok w' ∧ v'.binary op w' = .ok r ∧
      r.type = t ∧ r.integral? = some i := by
  obtain ⟨v', hv', hvtype, hva⟩ := exists_cast_of_holds hv ht ha
  obtain ⟨w', hw', hwtype, hwb⟩ := exists_cast_of_holds hw ht hb
  have hmeet : v'.type.promoteWith w'.type = some t := by
    rw [hvtype, hwtype, ValueType.promoteWith_self ht]
  obtain ⟨r, j, hr, hrtype, hj, hdigits⟩ := exists_binary_bitwise hop hva hwb hmeet ht
  obtain rfl : i = j := eq_of_testBit_eq fun n ↦ (hi n).trans (hdigits n).symm
  exact ⟨v', w', r, hv', hw', hr, hrtype, hj⟩

/-- **Bitwise operators do not depend on a width.**  Two integral values meet in an integral type,
and there `&`, `|` and `^` give the integer that has, at every place of its two's complement, the
digit that the operation makes of the digits of the operands.  Casting both operands to any other
integral type with room for them changes the type of the result, and not its integer. -/
theorem binary_bitwise_of_integral {v w : Value} {a b : Int} (hv : v.integral? = some a)
    (hw : w.integral? = some b) :
    ∃ t, v.type.promoteWith w.type = some t ∧
      ∀ op f, (op, f) ∈ [(BinaryOp.logicalAnd, and), (.logicalOr, or), (.logicalXor, xor)] →
        ∃ r i, v.binary op w = .ok r ∧ r.type = t ∧ r.integral? = some i ∧
          (∀ n, i.testBit n = f (a.testBit n) (b.testBit n)) ∧
          ∀ u type, u.integers? = some type → type.Holds a → type.Holds b →
            ∃ v' w' r', v.cast u = .ok v' ∧ w.cast u = .ok w' ∧ v'.binary op w' = .ok r' ∧
              r'.type = u ∧ r'.integral? = some i := by
  obtain ⟨source, hvtype, -⟩ := exists_holds_of_integral? hv
  obtain ⟨source', hwtype, -⟩ := exists_holds_of_integral? hw
  obtain ⟨t, h, ht, -⟩ := ValueType.exists_promoteWith
    (ValueType.isIntegral_iff.2 ⟨source, hvtype⟩) (ValueType.isIntegral_iff.2 ⟨source', hwtype⟩)
  obtain ⟨type, htype⟩ := ValueType.isIntegral_iff.1 ht
  refine ⟨t, h, fun op f hop ↦ ?_⟩
  obtain ⟨operation, hoperation, rfl⟩ :
      ∃ operation, op.bitwise? = some operation ∧ f = combineTruth operation := by
    simp only [List.mem_cons, List.not_mem_nil, or_false, Prod.mk.injEq] at hop
    rcases hop with ⟨rfl, rfl⟩ | ⟨rfl, rfl⟩ | ⟨rfl, rfl⟩
    · exact ⟨.and, rfl, rfl⟩
    · exact ⟨.or, rfl, rfl⟩
    · exact ⟨.xor, rfl, rfl⟩
  obtain ⟨r, i, hr, hrtype, hi, hdigits⟩ := exists_binary_bitwise hoperation hv hw h htype
  exact ⟨r, i, hr, hrtype, hi, hdigits, fun u wide hu ha hb ↦
    exists_binary_bitwise_of_cast hoperation hv hw hdigits hu ha hb⟩

/-- A byte has no sign to extend, and a negative operand has: they meet in 16 bits, and come to the
same integer in 64. -/
theorem binary_bitwise_of_integral_negative :
    (byte 200).integral? = some 200 ∧ (int16 (-16)).integral? = some (-16) ∧
      (byte 200).binary .logicalOr (int16 (-16)) = .ok (int16 (-8)) ∧
      (∀ n, (-8 : Int).testBit n = ((200 : Int).testBit n || (-16 : Int).testBit n)) ∧
      ∃ v' w' r, (byte 200).cast .int64 = .ok v' ∧ (int16 (-16)).cast .int64 = .ok w' ∧
        v'.binary .logicalOr w' = .ok r ∧ r.type = .int64 ∧ r.integral? = some (-8) := by
  have hleft : (byte 200).integral? = some 200 := by decide
  have hright : (int16 (-16)).integral? = some (-16) := by decide
  have hresult : (byte 200).binary .logicalOr (int16 (-16)) = .ok (int16 (-8)) := by decide
  obtain ⟨t, -, hbitwise⟩ := binary_bitwise_of_integral hleft hright
  obtain ⟨r, i, hr, -, hi, hdigits, hwide⟩ := hbitwise .logicalOr or (by simp)
  obtain rfl : int16 (-8) = r := Except.ok.inj (hresult.symm.trans hr)
  obtain rfl : -8 = i := Option.some.inj hi
  exact ⟨hleft, hright, hresult, hdigits, hwide .int64 _ rfl (by decide) (by decide)⟩

end Value

end Formula
