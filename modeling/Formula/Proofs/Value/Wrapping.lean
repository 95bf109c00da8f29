import Formula.Expr.Eval
import Formula.Proofs.Value.Integral

/-!
# Integral arithmetic wraps

Arithmetic on two integral values is that of the integers, brought back into the type in which the
values meet by taking it modulo the width.  Quotients are truncated, and nothing fails but a
division by zero.

`Computes` is that statement about one result.  The four types of machine integers compute in their
own ways; `Words` is what they have in common, a reading as integers under which each operation is
the one on the integers, wrapped.  A pair of integral numbers is one of words, and two integral
values are a pair with the same integers.
-/

set_option autoImplicit false

namespace Formula

/-! ## What there is to compute -/

namespace Arithmetic

/-- What an operation makes of two integers.  Quotients are truncated. -/
def exact (operation : Arithmetic) (a b : Int) : Int :=
  match operation with
  | add => a + b
  | sub => a - b
  | mul => a * b
  | div => a.tdiv b
  | rem => a.tmod b

/-- Whether an operation divides. -/
def divides : Arithmetic → Bool
  | div | rem => true
  | add | sub | mul => false

end Arithmetic

/-- Whether a value is the one of an integral type that is congruent to an integer modulo the width
of the type. -/
def Value.Wraps (t : ValueType) (i : Int) (r : Value) : Prop :=
  r.type = t ∧ ∃ type n, t.integers? = some type ∧ r.integral? = some n ∧ type.Holds n ∧
    n ≡ i [ZMOD 2 ^ type.bits]

/-- The result of an operation on two integers in an integral type: the wrapped integer, or the
error of a division by zero. -/
def Computes (t : ValueType) (operation : Arithmetic) (a b : Int) : Except EvalError Value → Prop
  | .ok r => ¬ (operation.divides = true ∧ b = 0) ∧ r.Wraps t (operation.exact a b)
  | .error e => (operation.divides = true ∧ b = 0) ∧ e = .divideByZero

namespace Value.Wraps

variable {t : ValueType} {type : IntegerType} {i j : Int} {r : Value}

theorem of_integral? (ht : t.integers? = some type) (hr : r.type = t)
    (hi : r.integral? = some (type.wrap i)) : r.Wraps t i :=
  ⟨hr, type, _, ht, hi, IntegerType.holds_wrap (ValueType.bits_pos ht) i, type.wrap_modEq i⟩

theorem integral? (h : r.Wraps t i) (ht : t.integers? = some type) :
    r.integral? = some (type.wrap i) := by
  obtain ⟨-, type', n, ht', hn, hholds, hmod⟩ := h
  rw [ht] at ht'
  cases ht'
  rw [hn, ← IntegerType.wrap_congr hmod, IntegerType.wrap_of_holds (ValueType.bits_pos ht) hholds]

/-- There is only one such value. -/
theorem unique {r' : Value} (h : r.Wraps t i) (h' : r'.Wraps t i) : r = r' := by
  obtain ⟨type, _, ht, -⟩ := h.2
  exact eq_of_integral? (h.1.trans h'.1.symm) (h.integral? ht) (h'.integral? ht)

theorem exists_modEq (h : r.Wraps t i) (ht : t.integers? = some type) :
    ∃ n, r.integral? = some n ∧ n ≡ i [ZMOD 2 ^ type.bits] :=
  ⟨_, h.integral? ht, type.wrap_modEq i⟩

theorem integral?_of_holds (h : r.Wraps t i) (ht : t.integers? = some type)
    (hi : type.Holds i) : r.integral? = some i := by
  rw [h.integral? ht, IntegerType.wrap_of_holds (ValueType.bits_pos ht) hi]

theorem congr (h : r.Wraps t i) (ht : t.integers? = some type)
    (hij : i ≡ j [ZMOD 2 ^ type.bits]) : r.Wraps t j :=
  .of_integral? ht h.1 (IntegerType.wrap_congr hij ▸ h.integral? ht)

end Value.Wraps

/-! ## Machine integers -/

/-- A reading of words, which are values of a type, as the integers of that type.  The operations on
words are those on integers, wrapped; remainders need no wrapping. -/
structure Words {α : Type} [Add α] [Sub α] [Mul α] [Div α] [Mod α] [OfNat α 0] (t : ValueType)
    (type : IntegerType) (value : α → Value) (read : α → Int) : Prop where
  integers?_eq : t.integers? = some type
  type_value : ∀ a, (value a).type = t
  integral?_value : ∀ a, (value a).integral? = some (read a)
  read_eq_zero_iff : ∀ a, read a = 0 ↔ a = 0
  read_add : ∀ a b, read (a + b) = type.wrap (read a + read b)
  read_sub : ∀ a b, read (a - b) = type.wrap (read a - read b)
  read_mul : ∀ a b, read (a * b) = type.wrap (read a * read b)
  read_div : ∀ a b, read (a / b) = type.wrap ((read a).tdiv (read b))
  read_rem : ∀ a b, read (a % b) = (read a).tmod (read b)

theorem words_byte :
    Words .byte (.unsignedOf 8) Value.byte fun n : UInt8 ↦ (n.toNat : Int) where
  integers?_eq := rfl
  type_value _ := rfl
  integral?_value _ := rfl
  read_eq_zero_iff a := by
    rw [← UInt8.toNat_inj]
    exact Int.natCast_eq_zero
  read_add a b := by
    rw [UInt8.toNat_add]
    rfl
  read_sub a b := by
    have hlt := b.toNat_lt
    rw [UInt8.toNat_sub, IntegerType.wrap_unsignedOf]
    omega
  read_mul a b := by
    rw [UInt8.toNat_mul]
    rfl
  read_div a b := by
    have hlt : a.toNat / b.toNat < 2 ^ 8 := (Nat.div_le_self ..).trans_lt a.toNat_lt
    rw [UInt8.toNat_div, ← Int.ofNat_tdiv, IntegerType.wrap_unsignedOf, ← Int.natCast_emod,
      Nat.mod_eq_of_lt hlt]
  read_rem a b := by
    rw [UInt8.toNat_mod]
    rfl

theorem words_int16 : Words .int16 (.signedOf 16) Value.int16 Int16.toInt where
  integers?_eq := rfl
  type_value _ := rfl
  integral?_value _ := rfl
  read_eq_zero_iff a := by rw [← Int16.toInt_inj, Int16.toInt_zero]
  read_add := Int16.toInt_add
  read_sub := Int16.toInt_sub
  read_mul := Int16.toInt_mul
  read_div := Int16.toInt_div
  read_rem := Int16.toInt_mod

theorem words_int32 : Words .int32 (.signedOf 32) Value.int32 Int32.toInt where
  integers?_eq := rfl
  type_value _ := rfl
  integral?_value _ := rfl
  read_eq_zero_iff a := by rw [← Int32.toInt_inj, Int32.toInt_zero]
  read_add := Int32.toInt_add
  read_sub := Int32.toInt_sub
  read_mul := Int32.toInt_mul
  read_div := Int32.toInt_div
  read_rem := Int32.toInt_mod

theorem words_int64 : Words .int64 (.signedOf 64) Value.int64 Int64.toInt where
  integers?_eq := rfl
  type_value _ := rfl
  integral?_value _ := rfl
  read_eq_zero_iff a := by rw [← Int64.toInt_inj, Int64.toInt_zero]
  read_add := Int64.toInt_add
  read_sub := Int64.toInt_sub
  read_mul := Int64.toInt_mul
  read_div := Int64.toInt_div
  read_rem := Int64.toInt_mod

namespace Words

variable {α : Type} [Add α] [Sub α] [Mul α] [Div α] [Mod α] [OfNat α 0]
  {t : ValueType} {type : IntegerType} {value : α → Value} {read : α → Int}

theorem wraps (h : Words t type value read) {a : α} {i : Int} (hread : read a = type.wrap i) :
    (value a).Wraps t i :=
  .of_integral? h.integers?_eq (h.type_value a) (hread ▸ h.integral?_value a)

theorem holds_read (h : Words t type value read) (a : α) : type.Holds (read a) := by
  obtain ⟨type', ht, hholds⟩ := Value.exists_holds_of_integral? (h.integral?_value a)
  rw [h.type_value, h.integers?_eq] at ht
  cases ht
  exact hholds

/-- **Arithmetic on words is arithmetic on integers, wrapped.** -/
theorem computes [DecidableEq α] (h : Words t type value read) (operation : Arithmetic) (a b : α) :
    Computes t operation (read a) (read b)
      ((NumberPair.integralArithmetic operation a b).map value) := by
  cases operation with
  | add => exact ⟨by simp [Arithmetic.divides], h.wraps (h.read_add a b)⟩
  | sub => exact ⟨by simp [Arithmetic.divides], h.wraps (h.read_sub a b)⟩
  | mul => exact ⟨by simp [Arithmetic.divides], h.wraps (h.read_mul a b)⟩
  | div =>
    rw [NumberPair.integralArithmetic]
    split
    · rename_i hzero
      exact ⟨⟨rfl, (h.read_eq_zero_iff b).2 hzero⟩, rfl⟩
    · rename_i hzero
      exact ⟨fun hdivides ↦ hzero ((h.read_eq_zero_iff b).1 hdivides.2), h.wraps (h.read_div a b)⟩
  | rem =>
    rw [NumberPair.integralArithmetic]
    split
    · rename_i hzero
      exact ⟨⟨rfl, (h.read_eq_zero_iff b).2 hzero⟩, rfl⟩
    · rename_i hzero
      have hread : read (a % b) = type.wrap ((read a).tmod (read b)) := by
        rw [IntegerType.wrap_of_holds (ValueType.bits_pos h.integers?_eq)
          (IntegerType.holds_tmod (h.holds_read a) _), h.read_rem]
      exact ⟨fun hdivides ↦ hzero ((h.read_eq_zero_iff b).1 hdivides.2), h.wraps hread⟩

end Words

/-! ## Pairs and values -/

theorem NumberPair.computes_arithmetic {p : NumberPair} {a b : Int}
    (ha : p.first.integral? = some a) (hb : p.second.integral? = some b)
    (operation : Arithmetic) (operator : String) :
    Computes p.type operation a b (p.arithmetic operation operator) := by
  cases p with
  | byte x y =>
    cases ha
    cases hb
    exact words_byte.computes operation x y
  | int16 x y =>
    cases ha
    cases hb
    exact words_int16.computes operation x y
  | int32 x y =>
    cases ha
    cases hb
    exact words_int32.computes operation x y
  | int64 x y =>
    cases ha
    cases hb
    exact words_int64.computes operation x y
  | single | double | decimal => cases ha

/-- The operation that an arithmetic operator stands for. -/
def BinaryOp.arithmetic? : BinaryOp → Option Arithmetic
  | add => some .add
  | subtract => some .sub
  | multiply => some .mul
  | divide => some .div
  | modulus => some .rem
  | _ => none

theorem NumberPair.operate?_of_arithmetic? {op : BinaryOp} {operation : Arithmetic}
    (h : op.arithmetic? = some operation) (p : NumberPair) :
    p.operate? op = some (p.arithmetic operation op.symbol) := by
  cases op <;> cases h <;> rfl

namespace Value

variable {v w : Value} {a b : Int} {t : ValueType}

/-- **An arithmetic operator on two integral values computes with their integers**, in the type in
which the values meet. -/
theorem computes_binary (hv : v.integral? = some a) (hw : w.integral? = some b)
    (h : v.type.promoteWith w.type = some t) (ht : t.isIntegral = true) {op : BinaryOp}
    {operation : Arithmetic} (hop : op.arithmetic? = some operation) :
    Computes t operation a b (v.binary op w) := by
  obtain ⟨type, ht⟩ := ValueType.isIntegral_iff.1 ht
  obtain ⟨p, hp, rfl, hfirst, hsecond⟩ := exists_ofValues?_of_integral? hv hw h ht
  rw [binary_of_ofValues? hp (p.operate?_of_arithmetic? hop)]
  exact p.computes_arithmetic hfirst hsecond operation op.symbol

/-- An operation that does not divide by zero has a result. -/
theorem exists_binary_wraps (op : BinaryOp) (hv : v.integral? = some a)
    (hw : w.integral? = some b) (h : v.type.promoteWith w.type = some t) (ht : t.isIntegral = true)
    {operation : Arithmetic} (hop : op.arithmetic? = some operation)
    (hdefined : ¬ (operation.divides = true ∧ b = 0)) :
    ∃ r, v.binary op w = .ok r ∧ r.Wraps t (operation.exact a b) := by
  have hcomputes := computes_binary hv hw h ht hop
  match hresult : v.binary op w with
  | .ok r =>
    rw [hresult] at hcomputes
    exact ⟨r, rfl, hcomputes.2⟩
  | .error e =>
    rw [hresult] at hcomputes
    exact absurd hcomputes.1 hdefined

/-- A division by zero is an error. -/
theorem binary_eq_divideByZero (hv : v.integral? = some a) (hw : w.integral? = some 0)
    (h : v.type.promoteWith w.type = some t) (ht : t.isIntegral = true) {op : BinaryOp}
    {operation : Arithmetic} (hop : op.arithmetic? = some operation)
    (hdivides : operation.divides = true) : v.binary op w = .error .divideByZero := by
  have hcomputes := computes_binary hv hw h ht hop
  match hresult : v.binary op w with
  | .ok r =>
    rw [hresult] at hcomputes
    exact absurd ⟨hdivides, rfl⟩ hcomputes.1
  | .error e =>
    rw [hresult] at hcomputes
    exact congrArg Except.error hcomputes.2

/-- The type in which an integral value meets another one holds its integer. -/
theorem exists_holds_of_promoteWith (hv : v.integral? = some a)
    (h : v.type.promoteWith w.type = some t) (ht : t.isIntegral = true) :
    ∃ type, t.integers? = some type ∧ type.Holds a := by
  obtain ⟨type, htype⟩ := ValueType.isIntegral_iff.1 ht
  obtain ⟨source, hsource, hholds⟩ := exists_holds_of_integral? hv
  exact ⟨type, htype, ValueType.holds_of_promoteWith h hsource htype hholds⟩

/-- A remainder is the one of the integers, without wrapping. -/
theorem exists_binary_modulus (hv : v.integral? = some a) (hw : w.integral? = some b)
    (h : v.type.promoteWith w.type = some t) (ht : t.isIntegral = true) (hb : b ≠ 0) :
    ∃ r, v.binary .modulus w = .ok r ∧ r.type = t ∧ r.integral? = some (a.tmod b) := by
  obtain ⟨type, htype, ha⟩ := exists_holds_of_promoteWith hv h ht
  obtain ⟨r, hr, hwraps⟩ := exists_binary_wraps .modulus hv hw h ht rfl (by simp [hb])
  exact ⟨r, hr, hwraps.1, hwraps.integral?_of_holds htype (IntegerType.holds_tmod ha b)⟩

/-- A quotient times the divisor, and the remainder added, is the dividend again. -/
theorem exists_eval_quotient_remainder (hv : v.integral? = some a) (hw : w.integral? = some b)
    (h : v.type.promoteWith w.type = some t) (ht : t.isIntegral = true)
    (htw : t.promoteWith w.type = some t) (htt : t.promoteWith t = some t) (hb : b ≠ 0)
    (c : Context) :
    ∃ r, Expr.eval c (.binary .add
      (.binary .multiply (.binary .divide (.const v) (.const w)) (.const w))
      (.binary .modulus (.const v) (.const w))) = .ok r ∧ r.type = t ∧ r.integral? = some a := by
  obtain ⟨type, htype, ha⟩ := exists_holds_of_promoteWith hv h ht
  obtain ⟨quotient, hquotient, hquot⟩ :=
    exists_binary_wraps .divide hv hw h ht rfl (by simp [hb])
  obtain ⟨q, hq, hqmod⟩ := hquot.exists_modEq htype
  obtain ⟨product, hproduct, hprod⟩ := exists_binary_wraps .multiply hq hw
    (hquot.1.symm ▸ htw) ht rfl (by simp [Arithmetic.divides])
  obtain ⟨m, hm, hmmod⟩ := hprod.exists_modEq htype
  obtain ⟨remainder, hremainder, hrtype, hr⟩ := exists_binary_modulus hv hw h ht hb
  obtain ⟨sum, hsum, hwraps⟩ := exists_binary_wraps .add hm hr
    (by rw [hprod.1, hrtype, htt]) ht rfl (by simp [Arithmetic.divides])
  have hback : m + a.tmod b ≡ a [ZMOD 2 ^ type.bits] := calc
    m + a.tmod b ≡ q * b + a.tmod b [ZMOD 2 ^ type.bits] := hmmod.add_right _
    _ ≡ a.tdiv b * b + a.tmod b [ZMOD 2 ^ type.bits] := (hqmod.mul_right b).add_right _
    _ = a := Int.tdiv_mul_add_tmod a b
  refine ⟨sum, ?_, hwraps.1, (hwraps.congr htype hback).integral?_of_holds htype ha⟩
  simpa [Expr.eval, BinaryOp.isConditional, hquotient, hproduct, hremainder] using hsum

/-- **Integral arithmetic is exact arithmetic, wrapped.**  Two integral values meet in an integral
type.  Sums, differences, products and quotients, which are truncated, are the values of that type
that are congruent to what they are on the integers, and remainders are exact.  Only a division by
zero fails.  Hence a quotient times the divisor, and the remainder added, is the dividend again,
also where the quotient has wrapped. -/
theorem binary_of_integral {v w : Value} {a b : Int} (hv : v.integral? = some a)
    (hw : w.integral? = some b) :
    ∃ t, v.type.promoteWith w.type = some t ∧
      (∀ op i, (op, i) ∈ [(BinaryOp.add, a + b), (.subtract, a - b), (.multiply, a * b)] →
        ∃ r, v.binary op w = .ok r ∧ r.Wraps t i) ∧
      (b = 0 → v.binary .divide w = .error .divideByZero ∧
        v.binary .modulus w = .error .divideByZero) ∧
      (b ≠ 0 →
        (∃ r, v.binary .divide w = .ok r ∧ r.Wraps t (a.tdiv b)) ∧
        (∃ r, v.binary .modulus w = .ok r ∧ r.type = t ∧
          r.integral? = some (a - b * a.tdiv b)) ∧
        ∀ c : Context, ∃ r, Expr.eval c (.binary .add
          (.binary .multiply (.binary .divide (.const v) (.const w)) (.const w))
          (.binary .modulus (.const v) (.const w))) = .ok r ∧
            r.type = t ∧ r.integral? = some a) := by
  have hvtype : v.type.isIntegral = true := by rw [← isSome_integral?, hv, Option.isSome_some]
  have hwtype : w.type.isIntegral = true := by rw [← isSome_integral?, hw, Option.isSome_some]
  obtain ⟨t, h, ht, htw, htt⟩ := ValueType.exists_promoteWith hvtype hwtype
  refine ⟨t, h, fun op i hop ↦ ?_, ?_, fun hb ↦ ⟨?_, ?_, ?_⟩⟩
  · simp only [List.mem_cons, List.not_mem_nil, or_false, Prod.mk.injEq] at hop
    rcases hop with ⟨rfl, rfl⟩ | ⟨rfl, rfl⟩ | ⟨rfl, rfl⟩
    · exact exists_binary_wraps .add hv hw h ht rfl (by simp [Arithmetic.divides])
    · exact exists_binary_wraps .subtract hv hw h ht rfl (by simp [Arithmetic.divides])
    · exact exists_binary_wraps .multiply hv hw h ht rfl (by simp [Arithmetic.divides])
  · rintro rfl
    exact ⟨binary_eq_divideByZero hv hw h ht rfl rfl,
      binary_eq_divideByZero hv hw h ht rfl rfl⟩
  · exact exists_binary_wraps .divide hv hw h ht rfl (by simp [hb])
  · rw [← Int.tmod_def]
    exact exists_binary_modulus hv hw h ht hb
  · exact exists_eval_quotient_remainder hv hw h ht htw htt hb

/-- The least integer of 32 bits divided by minus one wraps, and comes back as the dividend. -/
theorem binary_of_integral_least :
    (int32 (-2147483648)).integral? = some (-2147483648) ∧ (int16 (-1)).integral? = some (-1) ∧
      (∃ r, (int32 (-2147483648)).binary .divide (int16 (-1)) = .ok r ∧
        r.Wraps .int32 2147483648) ∧
      ∃ r, Expr.eval .empty (.binary .add
        (.binary .multiply (.binary .divide (.const (int32 (-2147483648))) (.const (int16 (-1))))
          (.const (int16 (-1))))
        (.binary .modulus (.const (int32 (-2147483648))) (.const (int16 (-1))))) = .ok r ∧
          r.type = .int32 ∧ r.integral? = some (-2147483648) := by
  have hdividend : (int32 (-2147483648)).integral? = some (-2147483648) := by decide
  have hdivisor : (int16 (-1)).integral? = some (-1) := by decide
  obtain ⟨t, ht, -, -, hdivides⟩ := binary_of_integral hdividend hdivisor
  obtain rfl : .int32 = t := Option.some.inj ht
  obtain ⟨hquotient, -, hback⟩ := hdivides (by decide)
  exact ⟨hdividend, hdivisor, hquotient, hback .empty⟩

end Value

end Formula
