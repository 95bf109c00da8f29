import Formula.Proofs.Value.Comparison

/-!
# Operators that commute

`+`, `*`, `&`, `|` and `^` come to the same in either order of their operands, of whatever types
these are.  `Commuted` says what the same is: equal values of one type, or one error, which names
the types of the operands in the order in which they were given.

Two values in the other order meet in the pair turned round (`NumberPair.ofValues?_swap`), or do not
meet in either order.  So it is left to see what the operators make of a pair of one type.  On words
and on binary floating point they commute in every respect, and so do products of decimals.  A sum
of decimals is the exception: of two zeros it is the second one as it is, with its own sign and its
own places (`Decimal.add?_comm`), and so it commutes as a number only.
-/

set_option autoImplicit false

namespace Formula

/-! ## Numbers of one type -/

namespace Floating

variable {f : Format}

theorem add_comm (x y : Floating f) : x + y = y + x := by
  change x.add y = y.add x
  rcases x with _ | a | ⟨a, m, _⟩ <;> rcases y with _ | b | ⟨b, n, _⟩
  case infinity.infinity => cases a <;> cases b <;> rfl
  case finite.finite => simp only [Floating.add, Int.add_comm (signed b n), Bool.and_comm b]
  all_goals rfl

theorem mul_comm (x y : Floating f) : x * y = y * x := by
  change x.mul y = y.mul x
  rcases x with _ | a | ⟨a, m, _⟩ <;> rcases y with _ | b | ⟨b, n, _⟩
  case finite.finite => simp only [Floating.mul, Nat.mul_comm n, bne_comm (b := b)]
  all_goals simp only [Floating.mul, bne_comm]

end Floating

namespace Decimal

variable {a b : Decimal}

theorem rational_of_isZero (h : a.isZero = true) : a.rational = 0 := by
  have hzero : a.mantissa = 0 := by simpa [isZero] using h
  cases hsign : a.negative <;> simp [rational, hzero, hsign, Floating.signed]

/-- The sum does not depend on the order, unless it is one of two zeros. -/
theorem add?_comm (h : ¬ (a.isZero = true ∧ b.isZero = true)) : a.add? b = b.add? a := by
  rw [add?, add?]
  split
  · rename_i ha
    rw [if_neg fun hb ↦ h ⟨ha, hb⟩]
  split
  · rfl
  · simp only [max_comm b.scale, Int.add_comm (b.atScale _)]

theorem mul?_comm (a b : Decimal) : a.mul? b = b.mul? a := by
  simp only [mul?, Bool.or_comm b.isZero, Bool.and_comm b.isShort, Nat.add_comm b.scale,
    Nat.mul_comm b.mantissa, bne_comm (b := b.negative)]

end Decimal

/-! ## The same in either order -/

/-- The error with the types of two operands in the other order, if it names them. -/
def EvalError.swap : EvalError → EvalError
  | unsupportedOperands operator left right => unsupportedOperands operator right left
  | e => e

theorem EvalError.swap_of_isArithmetic {e : EvalError} (h : e.isArithmetic = true) :
    e.swap = e := by
  cases e <;> first | rfl | cases h

/-- Whether two values are equal: decimals as numbers, and all others in every respect, so that not
a number is equal to itself. -/
def Value.Same : Value → Value → Prop
  | decimal a, decimal b => a.rational = b.rational
  | v, w => v = w

/-- How the results of an operator that commutes are related, in the two orders of its operands. -/
inductive Commuted : Except EvalError Value → Except EvalError Value → Prop
  | ok {v w : Value} (htype : v.type = w.type) (hsame : v.Same w) : Commuted (.ok v) (.ok w)
  | error (e : EvalError) : Commuted (.error e) (.error e.swap)

theorem Value.Same.refl (v : Value) : v.Same v := by
  cases v <;> rfl

theorem Commuted.ok_refl (v : Value) : Commuted (.ok v) (.ok v) := .ok rfl (.refl v)

/-- A result that is the same in both orders, unless it is an error that names types. -/
theorem Commuted.refl {r : Except EvalError Value} (h : ∀ e, r = .error e → e.swap = e) :
    Commuted r r := by
  cases r with
  | ok v => exact .ok_refl v
  | error e =>
    have herror := Commuted.error e
    rwa [h e rfl] at herror

/-! ## Pairs -/

namespace NumberPair

variable {operation : Arithmetic} {operator : String} {p : NumberPair}

/-- What goes wrong with two numbers of one type names no types. -/
theorem swap_of_arithmetic_eq_error {e : EvalError}
    (h : p.arithmetic operation operator = .error e) : e.swap = e := by
  have hconforms := p.conforms_arithmetic operation operator
  rw [h] at hconforms
  exact EvalError.swap_of_isArithmetic hconforms

/-- Sums and products of words do not depend on the order. -/
theorem integralArithmetic_comm {α : Type} [Add α] [Sub α] [Mul α] [Div α] [Mod α] [OfNat α 0]
    [DecidableEq α] (hadd : ∀ a b : α, a + b = b + a) (hmul : ∀ a b : α, a * b = b * a)
    (hop : operation ∈ [Arithmetic.add, .mul]) (a b : α) :
    integralArithmetic operation a b = integralArithmetic operation b a := by
  simp only [List.mem_cons, List.not_mem_nil, or_false] at hop
  rcases hop with rfl | rfl
  · exact congrArg Except.ok (hadd a b)
  · exact congrArg Except.ok (hmul a b)

theorem floatingArithmetic_comm {f : Format} (hop : operation ∈ [Arithmetic.add, .mul])
    (a b : Floating f) : floatingArithmetic operation a b = floatingArithmetic operation b a := by
  simp only [List.mem_cons, List.not_mem_nil, or_false] at hop
  rcases hop with rfl | rfl
  · exact a.add_comm b
  · exact a.mul_comm b

theorem decimalArithmetic_comm (hop : operation ∈ [Arithmetic.add, .mul]) {a b : Decimal}
    (h : ¬ (operation = .add ∧ a.isZero = true ∧ b.isZero = true)) :
    decimalArithmetic operation operator a b = decimalArithmetic operation operator b a := by
  simp only [List.mem_cons, List.not_mem_nil, or_false] at hop
  rcases hop with rfl | rfl
  · have hsum := Decimal.add?_comm fun hzero ↦ h ⟨rfl, hzero⟩
    simp only [decimalArithmetic, hsum, reduceCtorEq, or_self, false_and, if_false]
  · simp only [decimalArithmetic, a.mul?_comm b, reduceCtorEq, or_self, false_and, if_false]

/-- A sum or a product of a pair is that of the pair turned round. -/
theorem commuted_arithmetic_swap (hop : operation ∈ [Arithmetic.add, .mul]) (operator : String)
    (p : NumberPair) :
    Commuted (p.arithmetic operation operator) (p.swap.arithmetic operation operator) := by
  by_cases hzero : operation = .add ∧ ∃ a b, p = decimal a b ∧ a.isZero = true ∧ b.isZero = true
  · -- Each sum is the second zero of its own order.
    obtain ⟨rfl, a, b, rfl, ha, hb⟩ := hzero
    have hsum : ∀ {a b : Decimal}, a.isZero = true →
        (decimal a b).arithmetic .add operator = .ok (.decimal b) := by
      intro a b ha
      simp [arithmetic, decimalArithmetic, Decimal.add?, ha, Except.map]
    rw [swap, hsum ha, hsum hb]
    exact .ok rfl ((Decimal.rational_of_isZero hb).trans (Decimal.rational_of_isZero ha).symm)
  · have hswap : p.swap.arithmetic operation operator = p.arithmetic operation operator := by
      cases p with
      | byte a b =>
        exact congrArg (Except.map Value.byte)
          (integralArithmetic_comm UInt8.add_comm UInt8.mul_comm hop b a)
      | int16 a b =>
        exact congrArg (Except.map Value.int16)
          (integralArithmetic_comm Int16.add_comm Int16.mul_comm hop b a)
      | int32 a b =>
        exact congrArg (Except.map Value.int32)
          (integralArithmetic_comm Int32.add_comm Int32.mul_comm hop b a)
      | int64 a b =>
        exact congrArg (Except.map Value.int64)
          (integralArithmetic_comm Int64.add_comm Int64.mul_comm hop b a)
      | single a b => exact congrArg (Except.ok ∘ Value.single) (floatingArithmetic_comm hop b a)
      | double a b => exact congrArg (Except.ok ∘ Value.double) (floatingArithmetic_comm hop b a)
      | decimal a b =>
        refine congrArg (Except.map Value.decimal) (decimalArithmetic_comm hop ?_)
        rintro ⟨hadd, hb, ha⟩
        exact hzero ⟨hadd, a, b, rfl, ha, hb⟩
    rw [hswap]
    exact .refl fun e he ↦ swap_of_arithmetic_eq_error he

/-- Words are combined bit by bit, in either order. -/
theorem combine_comm {α : Type} [AndOp α] [OrOp α] [XorOp α] (hand : ∀ a b : α, a &&& b = b &&& a)
    (hor : ∀ a b : α, a ||| b = b ||| a) (hxor : ∀ a b : α, a ^^^ b = b ^^^ a)
    (operation : Bitwise) (a b : α) : combine operation a b = combine operation b a := by
  cases operation with
  | and => exact hand a b
  | or => exact hor a b
  | xor => exact hxor a b

theorem bitwise?_swap (operation : Bitwise) (p : NumberPair) :
    p.swap.bitwise? operation = p.bitwise? operation := by
  cases p with
  | byte a b =>
    exact congrArg (some ∘ Value.byte)
      (combine_comm UInt8.and_comm UInt8.or_comm UInt8.xor_comm operation b a)
  | int16 a b =>
    exact congrArg (some ∘ Value.int16)
      (combine_comm Int16.and_comm Int16.or_comm Int16.xor_comm operation b a)
  | int32 a b =>
    exact congrArg (some ∘ Value.int32)
      (combine_comm Int32.and_comm Int32.or_comm Int32.xor_comm operation b a)
  | int64 a b =>
    exact congrArg (some ∘ Value.int64)
      (combine_comm Int64.and_comm Int64.or_comm Int64.xor_comm operation b a)
  | single | double | decimal => rfl

end NumberPair

/-! ## Values -/

namespace Value

variable {v w : Value}

theorem commuted_arithmetic {operation : Arithmetic} (hop : operation ∈ [Arithmetic.add, .mul])
    (op : BinaryOp) (v w : Value) :
    Commuted (arithmetic operation op v w) (arithmetic operation op w v) := by
  rw [arithmetic, arithmetic, NumberPair.ofValues?_swap v w]
  cases NumberPair.ofValues? v w with
  | none => exact .error (unsupported op v w)
  | some p => exact p.commuted_arithmetic_swap hop op.symbol

theorem add_of_not_string (hv : v.type ≠ .string) (hw : w.type ≠ .string) :
    add v w = arithmetic .add .add v w := by
  rw [add.eq_def]
  split
  · exact absurd rfl hv
  · exact absurd rfl hw
  · rfl

theorem commuted_add (hv : v.type ≠ .string) (hw : w.type ≠ .string) :
    Commuted (add v w) (add w v) := by
  rw [add_of_not_string hv hw, add_of_not_string hw hv]
  exact commuted_arithmetic (by decide) .add v w

theorem combineTruth_comm (operation : Bitwise) (a b : Bool) :
    combineTruth operation a b = combineTruth operation b a := by
  cases operation with
  | and => exact Bool.and_comm a b
  | or => exact Bool.or_comm a b
  | xor => exact Bool.xor_comm a b

/-- The result on two values that are not both truth values. -/
theorem logic_of_not_boolean (operation : Bitwise) (op : BinaryOp)
    (h : ¬ ∃ a b, v = boolean a ∧ w = boolean b) :
    logic operation op v w =
      ((NumberPair.ofValues? v w).bind (NumberPair.bitwise? operation)).elim
        (.error (unsupported op v w)) .ok := by
  rw [logic.eq_def]
  split
  · exact absurd ⟨_, _, rfl, rfl⟩ h
  · cases (NumberPair.ofValues? v w).bind (NumberPair.bitwise? operation) <;> rfl

theorem commuted_logic (operation : Bitwise) (op : BinaryOp) (v w : Value) :
    Commuted (logic operation op v w) (logic operation op w v) := by
  by_cases hboolean : ∃ a b, v = boolean a ∧ w = boolean b
  · obtain ⟨a, b, rfl, rfl⟩ := hboolean
    rw [logic, logic, combineTruth_comm]
    exact .ok_refl _
  have hboolean' : ¬ ∃ a b, w = boolean a ∧ v = boolean b := by
    rintro ⟨a, b, hw, hv⟩
    exact hboolean ⟨b, a, hv, hw⟩
  have hbits : (NumberPair.ofValues? w v).bind (NumberPair.bitwise? operation) =
      (NumberPair.ofValues? v w).bind (NumberPair.bitwise? operation) := by
    rw [NumberPair.ofValues?_swap v w, Option.bind_map]
    exact congrArg _ (funext (NumberPair.bitwise?_swap operation))
  rw [logic_of_not_boolean operation op hboolean, logic_of_not_boolean operation op hboolean',
    hbits]
  cases (NumberPair.ofValues? v w).bind (NumberPair.bitwise? operation) with
  | none => exact .error (unsupported op v w)
  | some result => exact .ok_refl result

theorem commuted_binary {op : BinaryOp}
    (hop : op ∈ [BinaryOp.add, .multiply, .logicalAnd, .logicalOr, .logicalXor])
    (hstring : op = .add → v.type ≠ .string ∧ w.type ≠ .string) :
    Commuted (v.binary op w) (w.binary op v) := by
  by_cases hnull : (v.isNull || w.isNull) = true
  · have hequality : op ≠ .equal ∧ op ≠ .notEqual := by
      revert hop
      cases op <;> decide
    rw [binary_eq_nullOperand hequality.1 hequality.2 hnull,
      binary_eq_nullOperand hequality.1 hequality.2 (Bool.or_comm _ _ ▸ hnull)]
    exact .error _
  have hnull' : ¬ (w.isNull || v.isNull) = true := Bool.or_comm _ _ ▸ hnull
  simp only [List.mem_cons, List.not_mem_nil, or_false] at hop
  rcases hop with rfl | rfl | rfl | rfl | rfl <;> simp only [binary, if_neg hnull, if_neg hnull']
  · exact commuted_add (hstring rfl).1 (hstring rfl).2
  · exact commuted_arithmetic (by decide) _ v w
  all_goals exact commuted_logic _ _ v w

/-- **`+`, `*`, `&`, `|` and `^` commute.**  On any two values, except that a sum may have no string
in it, either both orders have a value, of one type and the same in both, or both fail for the same
reason, and an error that names the types of its operands names them in the other order. -/
theorem binary_comm {op : BinaryOp}
    (hop : op ∈ [BinaryOp.add, .multiply, .logicalAnd, .logicalOr, .logicalXor])
    (hstring : op = .add → v.type ≠ .string ∧ w.type ≠ .string) :
    (∃ r r', v.binary op w = .ok r ∧ w.binary op v = .ok r' ∧ r.type = r'.type ∧ r.Same r') ∨
      ∃ e, v.binary op w = .error e ∧ w.binary op v = .error e.swap := by
  have hcommuted := commuted_binary hop hstring
  generalize v.binary op w = result, w.binary op v = result' at hcommuted
  cases hcommuted with
  | ok htype hsame => exact .inl ⟨_, _, rfl, rfl, htype, hsame⟩
  | error e => exact .inr ⟨e, rfl, rfl⟩

/-- The sum of two zeros, which is the second of them as it is. -/
theorem binary_comm_zeros :
    let v := decimal { negative := true, mantissa := 0, scale := 2 }
    let w := int32 0
    v.binary .add w ≠ w.binary .add v ∧
      ((∃ r r', v.binary .add w = .ok r ∧ w.binary .add v = .ok r' ∧ r.type = r'.type ∧ r.Same r') ∨
        ∃ e, v.binary .add w = .error e ∧ w.binary .add v = .error e.swap) :=
  ⟨by decide, binary_comm (by decide) (by decide)⟩

end Value

end Formula
