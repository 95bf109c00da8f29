import Formula.Expr.Eval
import Formula.Proofs.Value.Widening

/-!
# How a value is spelled

The literal of a value has up to three parts: the cast of a narrow integer, a minus sign, and what
remains, the `Value.body`.  As an expression it is a cast of a negation of a constant, which is
`Value.spelled`; the constant is the `Value.magnitude`.

That expression comes to the value which is spelled, `Value.eval_spelled`.  This holds of every
value, although some have a body that is no literal.  The magnitude of the least integer is one of
them: it wraps around, and so does its negation.
-/

set_option autoImplicit false

namespace Formula

/-! ## Signs -/

namespace Floating

variable {f : Format} {x : Floating f}

/-- Whether a number has a minus sign, which zero may have too. -/
def isNegative : Floating f → Bool
  | .nan => false
  | .infinity negative | .finite negative _ _ => negative

theorem toList_text (x : Floating f) :
    x.text.toList = (if x.isNegative then ['-'] else []) ++ (x.withSign false).text.toList := by
  cases x with
  | nan => rfl
  | infinity negative =>
    have hsigned : "-inf".toList = '-' :: "inf".toList := by decide
    cases negative <;> simp [text, withSign, isNegative, hsigned]
  | finite negative units fits => cases negative <;> simp [text, withSign, isNegative]

theorem withSign_false (h : x.isNegative = false) : x.withSign false = x := by
  cases x <;> cases h <;> rfl

theorem neg_withSign_false (h : x.isNegative = true) : -x.withSign false = x := by
  cases x <;> cases h <;> rfl

end Floating

namespace Decimal

variable {d : Decimal}

theorem toList_text (d : Decimal) :
    d.text.toList = (if d.negative then ['-'] else []) ++ (d.withSign false).text.toList := by
  cases hsign : d.negative <;> simp [text, withSign, hsign]

theorem withSign_false (h : d.negative = false) : d.withSign false = d := by
  cases d
  cases h
  rfl

theorem neg_withSign_false (h : d.negative = true) : -d.withSign false = d := by
  cases d
  cases h
  rfl

end Decimal

theorem toList_integerText (i : Int) :
    (integerText i).toList = (if i < 0 then ['-'] else []) ++ Digits.write i.natAbs := by
  rw [integerText, String.toList_ofList]
  split <;> rfl

namespace Value

/-! ## The parts of a literal -/

/-- The type of the cast that a literal begins with. -/
def narrow? : Value → Option ValueType
  | byte _ => some .byte
  | int16 _ => some .int16
  | _ => none

theorem narrow?_ne_null {v : Value} {t : ValueType} (h : v.narrow? = some t) : t ≠ .null := by
  cases v <;> cases h <;> decide

/-- Whether a literal has a minus sign. -/
def isSigned : Value → Bool
  | int16 n => decide (n.toInt < 0)
  | int32 n => decide (n.toInt < 0)
  | int64 n => decide (n.toInt < 0)
  | single x => x.isNegative
  | double x => x.isNegative
  | decimal d => d.negative
  | _ => false

/-- A literal without its cast and its sign. -/
def body : Value → List Char
  | null => "null".toList
  | boolean b => (truthText b).toList
  | string text => (Quoted.write text).toList
  | byte n => Digits.write n.toNat
  | int16 n => Digits.write n.toInt.natAbs
  | int32 n => Digits.write n.toInt.natAbs
  | int64 n => Digits.write n.toInt.natAbs ++ ['L']
  | single x => (x.withSign false).text.toList ++ ['f']
  | double x => (x.withSign false).text.toList ++ ['d']
  | decimal d => (d.withSign false).text.toList ++ ['m']

/-- The text of the cast that a literal begins with. -/
def castText (v : Value) : List Char :=
  match v.narrow? with
  | some t => ['('] ++ (t.castName.toList ++ ([')'] ++ [' ']))
  | none => []

/-- The text of the sign of a literal. -/
def signText (v : Value) : List Char := if v.isSigned then ['-'] else []

/-- A literal is its cast, its sign and its body. -/
theorem toList_literal (v : Value) : v.literal.toList = v.castText ++ (v.signText ++ v.body) := by
  cases v with
  | null | boolean | string => rfl
  | byte n =>
    have hpositive : ¬ (n.toNat : Int) < 0 := by omega
    rw [literal, String.toList_append, toList_integerText, if_neg hpositive]
    rfl
  | int16 n | int32 n | int64 n =>
    simp [literal, castText, narrow?, signText, isSigned, body, toList_integerText,
      ValueType.castName]
  | single x | double x =>
    rw [literal, String.toList_append, Floating.toList_text, List.append_assoc]
    rfl
  | decimal d =>
    rw [literal, String.toList_append, Decimal.toList_text, List.append_assoc]
    rfl

/-! ## The expression for a literal -/

/-- The value that the body of a literal stands for.  An integer is taken modulo the width, which
makes a difference for the least one only. -/
def magnitude : Value → Value
  | byte n => int32 (Int32.ofNat n.toNat)
  | int16 n => int32 (Int32.ofNat n.toInt.natAbs)
  | int32 n => int32 (Int32.ofNat n.toInt.natAbs)
  | int64 n => int64 (Int64.ofNat n.toInt.natAbs)
  | single x => single (x.withSign false)
  | double x => double (x.withSign false)
  | decimal d => decimal (d.withSign false)
  | v => v

/-- The magnitude, negated if the literal has a sign. -/
def signed (v : Value) : Expr :=
  if v.isSigned then .unary .negate (.const v.magnitude) else .const v.magnitude

/-- The expression that a literal is. -/
def spelled (v : Value) : Expr :=
  match v.narrow? with
  | some t => .cast t v.signed
  | none => v.signed

variable {c : Context}

theorem eval_signed {v w : Value} (hpositive : v.isSigned = false → v.magnitude = w)
    (hnegative : v.isSigned = true → v.magnitude.unary .negate = .ok w) :
    v.signed.eval c = .ok w := by
  by_cases hsign : v.isSigned = true
  · rw [signed, if_pos hsign, Expr.eval, Expr.eval]
    exact hnegative hsign
  · rw [signed, if_neg hsign, Expr.eval, hpositive (by simpa using hsign)]

/-- An integer of up to 32 bits is spelled as one of 32 bits. -/
theorem eval_signed_of_int32 {v : Value} {i : Int} (hsign : v.isSigned = decide (i < 0))
    (hmagnitude : v.magnitude = int32 (Int32.ofNat i.natAbs)) :
    v.signed.eval c = .ok (int32 (Int32.ofInt i)) := by
  refine eval_signed (fun hpositive ↦ ?_) (fun hnegative ↦ ?_)
  · have habs : (i.natAbs : Int) = i := by
      have : ¬ i < 0 := by simpa [hsign] using hpositive
      omega
    rw [hmagnitude, ← Int32.ofInt_eq_ofNat, habs]
  · have habs : -(i.natAbs : Int) = i := by
      have : i < 0 := by simpa [hsign] using hnegative
      omega
    rw [hmagnitude, ← Int32.ofInt_eq_ofNat]
    exact congrArg (fun n ↦ Except.ok (int32 n)) (by rw [Int32.neg_ofInt, habs])

/-- A cast takes an integer back to the narrow type that it has. -/
theorem eval_spelled_of_narrow {v : Value} {i : Int} (hnarrow : v.narrow? = some v.type)
    (hi : v.integral? = some i) (hbound : -2147483648 ≤ i ∧ i < 2147483648)
    (hsign : v.isSigned = decide (i < 0))
    (hmagnitude : v.magnitude = int32 (Int32.ofNat i.natAbs)) : v.spelled.eval c = .ok v := by
  have hwide : (int32 (Int32.ofInt i)).integral? = some i :=
    congrArg some (Int32.toInt_ofInt_of_le (by omega) (by omega))
  rw [spelled, hnarrow, Expr.eval, eval_signed_of_int32 hsign hmagnitude]
  exact cast_of_integral? hwide (ofInteger?_type hi)

/-- **The expression for a literal comes to the value**, in any context. -/
theorem eval_spelled (v : Value) (c : Context) : v.spelled.eval c = .ok v := by
  cases v with
  | null | boolean | string => rfl
  | byte n =>
    have := n.toNat_lt
    exact eval_spelled_of_narrow rfl rfl (by omega) (by simp [isSigned]) rfl
  | int16 n =>
    have := n.le_toInt
    have := n.toInt_lt
    exact eval_spelled_of_narrow rfl rfl (by omega) rfl rfl
  | int32 n =>
    have := eval_signed_of_int32 (c := c) (v := int32 n) rfl rfl
    rwa [Int32.ofInt_toInt] at this
  | int64 n =>
    refine eval_signed (fun hpositive ↦ ?_) (fun hnegative ↦ ?_)
    · have habs : (n.toInt.natAbs : Int) = n.toInt := by
        have : ¬ n.toInt < 0 := by simpa [isSigned] using hpositive
        omega
      rw [magnitude, ← Int64.ofInt_eq_ofNat, habs, Int64.ofInt_toInt]
    · have habs : -(n.toInt.natAbs : Int) = n.toInt := by
        have : n.toInt < 0 := by simpa [isSigned] using hnegative
        omega
      rw [magnitude, ← Int64.ofInt_eq_ofNat]
      exact congrArg (fun n ↦ Except.ok (int64 n))
        (by rw [Int64.neg_ofInt, habs, Int64.ofInt_toInt])
  | single x =>
    exact eval_signed (fun hpositive ↦ congrArg single (Floating.withSign_false hpositive))
      fun hnegative ↦ congrArg (Except.ok <| single ·) (Floating.neg_withSign_false hnegative)
  | double x =>
    exact eval_signed (fun hpositive ↦ congrArg double (Floating.withSign_false hpositive))
      fun hnegative ↦ congrArg (Except.ok <| double ·) (Floating.neg_withSign_false hnegative)
  | decimal d =>
    exact eval_signed (fun hpositive ↦ congrArg decimal (Decimal.withSign_false hpositive))
      fun hnegative ↦ congrArg (Except.ok <| decimal ·) (Decimal.neg_withSign_false hnegative)

end Value

end Formula
