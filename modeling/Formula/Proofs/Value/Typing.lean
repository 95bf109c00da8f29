import Formula.Value.Cast
import Formula.Value.Operators

/-!
# The types of results

Which types an operator or a cast accepts, and the type of its result, as tables:
`UnaryOp.resultType?`, `BinaryOp.resultType?` and `ValueType.castResult?`.  They are written without
the evaluator.  What is proved here is that the evaluator goes by them: `Conforms` says that an
accepted combination gives a value of the type in the table, or fails because there is no such
value, and that a rejected one fails for its types.
-/

set_option autoImplicit false

namespace Formula

/-! ## The tables -/

namespace ValueType

/-- The numeric types, from the lowest to the highest. -/
def numeric : List ValueType := [byte, int16, int32, int64, single, double, decimal]

/-- The integral types. -/
def integral : List ValueType := [byte, int16, int32, int64]

/-- The types of binary floating point. -/
def floating : List ValueType := [single, double]

/-- The higher of two numeric types, unless a decimal would meet binary floating point. -/
def join? (s t : ValueType) : Option ValueType :=
  if s ∉ numeric ∨ t ∉ numeric then none
  else if (s = decimal ∧ t ∈ floating) ∨ (t = decimal ∧ s ∈ floating) then none
  else some (if numeric.idxOf s ≤ numeric.idxOf t then t else s)

/-- The type of a cast, by its target and the type of its operand. -/
def castResult? (target t : ValueType) : Option ValueType :=
  if t = target ∨ (t ∈ numeric ∧ target ∈ numeric) then some target else none

theorem mem_integral_iff (t : ValueType) : t ∈ integral ↔ t.isIntegral = true := by
  cases t <;> decide

theorem join?_eq_promoteWith (s t : ValueType) : s.join? t = s.promoteWith t := by
  cases s <;> cases t <;> rfl

end ValueType

/-- The type of a prefix operator's result, by that of its operand. -/
def UnaryOp.resultType? (op : UnaryOp) (t : ValueType) : Option ValueType :=
  let accepted : List ValueType := match op with
    | .negate => [.int16, .int32, .int64, .single, .double, .decimal]
    | .not => [.boolean]
    | .complement => ValueType.integral
  if t ∈ accepted then some t else none

/-- The type of a binary operator's result, by those of its operands. -/
def BinaryOp.resultType? (op : BinaryOp) (s t : ValueType) : Option ValueType :=
  match op with
  | .conditionalOr | .conditionalAnd =>
    if s = .boolean ∧ t = .boolean then some .boolean else none
  | .equal | .notEqual =>
    if s = .null ∨ t = .null ∨ (s = .boolean ∧ t = .boolean) ∨ (s = .string ∧ t = .string) then
      some .boolean
    else (s.join? t).map fun _ ↦ .boolean
  | .less | .lessEqual | .greater | .greaterEqual => (s.join? t).map fun _ ↦ .boolean
  | .logicalOr | .logicalXor | .logicalAnd =>
    if s = .boolean ∧ t = .boolean then some .boolean
    else if s ∈ ValueType.integral ∧ t ∈ ValueType.integral then s.join? t
    else none
  | .shiftLeft | .shiftRight =>
    if s ∈ ValueType.integral ∧ t ∈ ValueType.integral then some s else none
  | .add =>
    if (s = .string ∧ t ≠ .null) ∨ (t = .string ∧ s ≠ .null) then some .string else s.join? t
  | .subtract | .multiply | .divide | .modulus => s.join? t

/-! ## Going by the tables -/

/-- Whether an error is about the numbers: a division by zero, or a result out of range. -/
def EvalError.isArithmetic : EvalError → Bool
  | divideByZero | overflow _ => true
  | _ => false

/-- A result goes by an entry of a table: a value of the type that is there, or an error about
numbers; and where there is no type, an error of another kind. -/
def Conforms : Option ValueType → Except EvalError Value → Prop
  | some t, .ok v => v.type = t
  | some _, .error e => e.isArithmetic = true
  | none, .ok _ => False
  | none, .error e => e.isArithmetic = false

namespace Value

theorem conforms_unary (op : UnaryOp) (v : Value) :
    Conforms (op.resultType? v.type) (v.unary op) := by
  cases op <;> cases v <;> rfl

/-! ## Casts -/

/-- What a conversion of a number may come to: a value of the target, an error about numbers, or
nothing where the target is not numeric. -/
def Converts (target : ValueType) : Except EvalError (Option Value) → Prop
  | .ok (some w) => target ∈ ValueType.numeric ∧ w.type = target
  | .ok none => target ∉ ValueType.numeric
  | .error e => target ∈ ValueType.numeric ∧ e.isArithmetic = true

theorem converts_ofInteger? (target : ValueType) (i : Int) :
    Converts target (.ok (ofInteger? target i)) := by
  cases target <;> simp [Converts, ofInteger?, ValueType.numeric, type]

theorem converts_ofFloating {f : Format} (target : ValueType) (x : Floating f)
    (decimal? : Option Decimal) : Converts target (ofFloating target x decimal?) := by
  cases target with
  | byte | int16 | int32 | int64 => exact converts_ofInteger? _ _
  | null | boolean | string => simp [Converts, ofFloating, ValueType.numeric]
  | single | double => simp [Converts, ofFloating, ValueType.numeric, type]
  | decimal =>
    cases decimal? <;> simp [Converts, ofFloating, ValueType.numeric, type, EvalError.isArithmetic]

theorem converts_ofDecimal (target : ValueType) (d : Decimal) :
    Converts target (ofDecimal target d) := by
  cases target with
  | byte | int16 | int32 | int64 =>
    rw [ofDecimal]
    split
    · exact converts_ofInteger? _ _
    · exact ⟨by decide, rfl⟩
  | null | boolean | string => simp [Converts, ofDecimal, ValueType.numeric]
  | single | double | decimal => simp [Converts, ofDecimal, ValueType.numeric, type]

theorem converts_convert? (target : ValueType) {v : Value} (hv : v.type ∈ ValueType.numeric) :
    Converts target (convert? target v) := by
  cases v with
  | null | boolean | string => simp [type, ValueType.numeric] at hv
  | byte | int16 | int32 | int64 => exact converts_ofInteger? _ _
  | single | double => exact converts_ofFloating ..
  | decimal => exact converts_ofDecimal ..

theorem convert?_eq_none (target : ValueType) {v : Value} (hv : v.type ∉ ValueType.numeric) :
    convert? target v = .ok none := by
  cases v with
  | null | boolean | string => rfl
  | byte | int16 | int32 | int64 | single | double | decimal =>
    exact absurd (by simp [type, ValueType.numeric]) hv

theorem conforms_cast (target : ValueType) (v : Value) :
    Conforms (target.castResult? v.type) (v.cast target) := by
  rw [cast, ValueType.castResult?]
  by_cases htype : v.type = target
  · rw [if_pos htype, if_pos (.inl htype)]
    exact htype
  rw [if_neg htype]
  by_cases hv : v.type ∈ ValueType.numeric
  · have hconverts := converts_convert? target hv
    cases hresult : convert? target v with
    | error e =>
      rw [hresult] at hconverts
      rw [if_pos (.inr ⟨hv, hconverts.1⟩)]
      exact hconverts.2
    | ok result =>
      rw [hresult] at hconverts
      cases result with
      | some w =>
        rw [if_pos (.inr ⟨hv, hconverts.1⟩)]
        exact hconverts.2
      | none =>
        rw [if_neg (not_or.2 ⟨htype, fun h ↦ hconverts h.2⟩)]
        rfl
  · rw [convert?_eq_none target hv, if_neg (not_or.2 ⟨htype, fun h ↦ hv h.1⟩)]
    rfl

end Value

/-! ## Pairs of numbers -/

namespace NumberPair

/-- The type of both numbers of a pair. -/
def type (p : NumberPair) : ValueType := p.first.type

/-- Two values meet in the type that the table has for them. -/
theorem type_ofValues? (v w : Value) : (ofValues? v w).map type = v.type.join? w.type := by
  rw [ValueType.join?_eq_promoteWith]
  cases v <;> cases w <;>
    simp [ofValues?, type, first, Value.type, ValueType.promoteWith, ValueType.rank?,
      ValueType.isFloating, Value.integral?, Value.widenToSingle?, Value.widenToDouble?,
      Value.widenToDecimal?]

theorem conforms_integralArithmetic {α : Type} [Add α] [Sub α] [Mul α] [Div α] [Mod α] [OfNat α 0]
    [DecidableEq α] {t : ValueType} (wrap : α → Value) (hwrap : ∀ a, (wrap a).type = t)
    (operation : Arithmetic) (a b : α) :
    Conforms (some t) ((integralArithmetic operation a b).map wrap) := by
  cases operation with
  | add | sub | mul => exact hwrap _
  | div | rem =>
    rw [integralArithmetic]
    split
    · rfl
    · exact hwrap _

/-- Arithmetic on a pair has a result of its type. -/
theorem conforms_arithmetic (operation : Arithmetic) (operator : String) (p : NumberPair) :
    Conforms (some p.type) (p.arithmetic operation operator) := by
  cases p with
  | byte a b => exact conforms_integralArithmetic .byte (fun _ ↦ rfl) operation a b
  | int16 a b => exact conforms_integralArithmetic .int16 (fun _ ↦ rfl) operation a b
  | int32 a b => exact conforms_integralArithmetic .int32 (fun _ ↦ rfl) operation a b
  | int64 a b => exact conforms_integralArithmetic .int64 (fun _ ↦ rfl) operation a b
  | single a b | double a b => exact (rfl : Value.type _ = _)
  | decimal a b =>
    simp only [arithmetic, decimalArithmetic]
    split
    · rfl
    · split <;> rfl

theorem type_bitwise? (operation : Bitwise) (p : NumberPair) :
    (p.bitwise? operation).map Value.type =
      if p.type ∈ ValueType.integral then some p.type else none := by
  cases p <;> simp [bitwise?, type, first, Value.type, ValueType.integral]

end NumberPair

/-! ## Binary operators -/

namespace Value

theorem conforms_arithmetic (operation : Arithmetic) (op : BinaryOp) (v w : Value) :
    Conforms (v.type.join? w.type) (arithmetic operation op v w) := by
  rw [arithmetic, ← NumberPair.type_ofValues?]
  cases NumberPair.ofValues? v w with
  | none => rfl
  | some pair => exact pair.conforms_arithmetic operation op.symbol

theorem conforms_relational (op : BinaryOp) (v w : Value) :
    Conforms ((v.type.join? w.type).map fun _ ↦ .boolean) (relational op v w) := by
  rw [relational, ← NumberPair.type_ofValues?]
  cases NumberPair.ofValues? v w with
  | none => rfl
  | some pair => exact (rfl : Value.type (boolean _) = _)

theorem conforms_add {v w : Value} (hv : v ≠ null) (hw : w ≠ null) :
    Conforms (BinaryOp.add.resultType? v.type w.type) (add v w) := by
  rw [add.eq_def]
  split
  · rw [BinaryOp.resultType?, if_pos (.inl ⟨rfl, by cases w <;> simp_all [type]⟩)]
    exact (rfl : Value.type (string _) = _)
  · rw [BinaryOp.resultType?, if_pos (.inr ⟨rfl, by cases v <;> simp_all [type]⟩)]
    exact (rfl : Value.type (string _) = _)
  · rename_i hleft hright
    have hv' : v.type ≠ .string := by cases v <;> simp_all [type]
    have hw' : w.type ≠ .string := by cases w <;> simp_all [type]
    rw [BinaryOp.resultType?, if_neg (by simp [hv', hw'])]
    exact conforms_arithmetic ..

theorem conforms_equality {op : BinaryOp} (hop : op = .equal ∨ op = .notEqual) (v w : Value) :
    Conforms (op.resultType? v.type w.type) (equality op v w) := by
  have htable : op.resultType? v.type w.type = BinaryOp.equal.resultType? v.type w.type := by
    rcases hop with rfl | rfl <;> rfl
  rw [htable, equality.eq_def]
  dsimp only
  split
  · rw [BinaryOp.resultType?, if_pos (.inl rfl)]
    exact (rfl : Value.type (boolean _) = _)
  · rw [BinaryOp.resultType?, if_pos (.inr (.inl rfl))]
    exact (rfl : Value.type (boolean _) = _)
  · exact (rfl : Value.type (boolean _) = _)
  · exact (rfl : Value.type (boolean _) = _)
  · rename_i hleft hright hboolean hstring
    rw [BinaryOp.resultType?, if_neg (by cases v <;> cases w <;> simp_all [type]),
      ← NumberPair.type_ofValues?]
    cases NumberPair.ofValues? v w with
    | none => rfl
    | some pair => exact (rfl : Value.type (boolean _) = _)

/-- Two types that meet in an integral type are integral. -/
theorem bind_join?_integral (s t : ValueType) :
    ((s.join? t).bind fun meet ↦ if meet ∈ ValueType.integral then some meet else none) =
      if s ∈ ValueType.integral ∧ t ∈ ValueType.integral then s.join? t else none := by
  cases s <;> cases t <;> rfl

theorem conforms_logic (operation : Bitwise) {op : BinaryOp}
    (hop : op = .logicalOr ∨ op = .logicalXor ∨ op = .logicalAnd) (v w : Value) :
    Conforms (op.resultType? v.type w.type) (logic operation op v w) := by
  have htable : op.resultType? v.type w.type = BinaryOp.logicalOr.resultType? v.type w.type := by
    rcases hop with rfl | rfl | rfl <;> rfl
  rw [htable, logic.eq_def]
  split
  · exact (rfl : Value.type (boolean _) = _)
  · rename_i hboolean
    rw [BinaryOp.resultType?, if_neg (by cases v <;> cases w <;> simp_all [type]),
      ← bind_join?_integral, ← NumberPair.type_ofValues?]
    cases NumberPair.ofValues? v w with
    | none => rfl
    | some pair =>
      have hbitwise := NumberPair.type_bitwise? operation pair
      simp only [Option.map_some, Option.bind_some, ← hbitwise]
      cases pair.bitwise? operation with
      | none => rfl
      | some result => exact (rfl : result.type = _)

theorem conforms_shift {op : BinaryOp} (hop : op = .shiftLeft ∨ op = .shiftRight) (v w : Value) :
    Conforms (op.resultType? v.type w.type) (shift op v w) := by
  have htable : op.resultType? v.type w.type =
      if v.type ∈ ValueType.integral ∧ w.type.isIntegral = true then some v.type else none := by
    rcases hop with rfl | rfl <;> simp only [BinaryOp.resultType?, ValueType.mem_integral_iff]
  rw [htable, ← isSome_integral?, shift.eq_def]
  cases w.integral? with
  | none => cases v <;> rfl
  | some count => cases v <;> rfl

/-- Only `==` and `!=` have an answer for `null`. -/
theorem binary_eq_nullOperand {op : BinaryOp} (hequal : op ≠ .equal) (hnotEqual : op ≠ .notEqual)
    {v w : Value} (hnull : (v.isNull || w.isNull) = true) :
    v.binary op w = .error (.nullOperand op.symbol) := by
  cases op <;> first | contradiction | exact if_pos hnull

/-- Only `==` and `!=` have a place for `null` in their tables. -/
theorem resultType?_of_null {op : BinaryOp} (hequal : op ≠ .equal) (hnotEqual : op ≠ .notEqual)
    {v w : Value} (hnull : (v.isNull || w.isNull) = true) :
    op.resultType? v.type w.type = none := by
  rw [Bool.or_eq_true, isNull_iff, isNull_iff] at hnull
  rcases hnull with rfl | rfl
  · generalize w.type = t
    cases op <;> first | contradiction | (cases t <;> rfl)
  · generalize v.type = t
    cases op <;> first | contradiction | (cases t <;> rfl)

/-- **Binary operators go by their table**, except for the two that may leave their right operand
unevaluated. -/
theorem conforms_binary {op : BinaryOp} (hor : op ≠ .conditionalOr) (hand : op ≠ .conditionalAnd)
    (v w : Value) : Conforms (op.resultType? v.type w.type) (v.binary op w) := by
  by_cases hequality : op = .equal ∨ op = .notEqual
  · have hbinary : v.binary op w = equality op v w := by
      rcases hequality with rfl | rfl <;> rfl
    exact hbinary ▸ conforms_equality hequality v w
  obtain ⟨hequal, hnotEqual⟩ := not_or.1 hequality
  by_cases hnull : (v.isNull || w.isNull) = true
  · rw [binary_eq_nullOperand hequal hnotEqual hnull, resultType?_of_null hequal hnotEqual hnull]
    rfl
  have hv : v ≠ null := fun hv ↦ hnull (by simp [hv, isNull])
  have hw : w ≠ null := fun hw ↦ hnull (by simp [hw, isNull])
  cases op <;> first | contradiction | simp only [binary, if_neg hnull]
  case add => exact conforms_add hv hw
  case subtract | multiply | divide | modulus => exact conforms_arithmetic ..
  case logicalOr => exact conforms_logic .or (.inl rfl) v w
  case logicalXor => exact conforms_logic .xor (.inr (.inl rfl)) v w
  case logicalAnd => exact conforms_logic .and (.inr (.inr rfl)) v w
  case shiftLeft => exact conforms_shift (.inl rfl) v w
  case shiftRight => exact conforms_shift (.inr rfl) v w
  case less | lessEqual | greater | greaterEqual => exact conforms_relational ..

end Value

end Formula
