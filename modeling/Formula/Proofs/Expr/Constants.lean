import Formula.Proofs.Expr.Typing

/-!
# Operators on constants

A binary operator on two known values can be had in two ways: by evaluating a tree with the values
as constants, and by `Value.binary`.  The ways differ for the conditional operators alone, for which
the tree has a computation of its own.  It goes from left to right and may never come to the right
operand, whereas `Value.binary` looks for a `null` on both sides before it does anything else.

That shows only if there is a `null` at the right and the left operand settles the answer, by its
truth value or by not having one: `Value.PassesOver`.  For all other operands of all operators the
two ways come to the same, `Expr.eval_binary_const`.
-/

set_option autoImplicit false

namespace Formula

namespace Value

variable {op : BinaryOp} {v w : Value}

/-! ## Conditional operators, one operand after the other -/

/-- The truth value at the left that leaves the answer to the right operand: false for `||`, and
true for `&&`. -/
def undecided (op : BinaryOp) : Value := boolean (decide (op ≠ .conditionalOr))

theorem truth_of_ne (hnull : v ≠ null) (operator : String) :
    (∃ b, v = boolean b) ∨ v.truth operator = .error (.unsupportedOperand operator v.type) := by
  match v with
  | boolean b => exact .inl ⟨b, rfl⟩
  | null => exact absurd rfl hnull
  | string _ | byte _ | int16 _ | int32 _ | int64 _ | single _ | double _ | decimal _ =>
    exact .inr rfl

/-- A left operand that leaves the answer open. -/
theorem conditional_undecided (op : BinaryOp) (w : Value) :
    (undecided op).conditional op (fun _ ↦ .ok w) = (w.truth op.symbol).map boolean := by
  by_cases hor : op = .conditionalOr <;> simp [conditional, undecided, truth, hor]

/-- Any other left operand settles the answer, whatever is at the right. -/
theorem conditional_of_ne_undecided (h : v ≠ undecided op)
    (right : Unit → Except EvalError Value) :
    v.conditional op right = (v.truth op.symbol).map boolean := by
  rw [conditional]
  split
  · rename_i e herror
    rw [herror]
    rfl
  · rename_i b hb
    have hv : v = boolean b := Expr.eq_boolean_of_truth hb
    have hdecided : b = decide (op = .conditionalOr) := by
      by_cases hor : op = .conditionalOr <;> simpa [hv, undecided, hor] using h
    rw [if_pos hdecided, hb]
    rfl

theorem conjunction_map (v w : Value) :
    (conjunction BinaryOp.conditionalAnd.symbol v w).map boolean =
      v.conditional .conditionalAnd fun _ ↦ .ok w := by
  rw [conjunction, conditional]
  split
  · rename_i htrue
    simp [htrue]
  · rename_i hother
    rcases hv : v.truth BinaryOp.conditionalAnd.symbol with e | _ | _
    · rfl
    · rfl
    · exact absurd hv hother

theorem disjunction_map (v w : Value) :
    (disjunction BinaryOp.conditionalOr.symbol v w).map boolean =
      v.conditional .conditionalOr fun _ ↦ .ok w := by
  rw [disjunction, conditional]
  split
  · rename_i hfalse
    simp [hfalse]
  · rename_i hother
    rcases hv : v.truth BinaryOp.conditionalOr.symbol with e | _ | _
    · rfl
    · exact absurd hv hother
    · rfl

/-! ## Conditional operators on both operands at once -/

theorem binary_of_null (hop : op.isConditional = true) (h : v = null ∨ w = null) :
    v.binary op w = .error (.nullOperand op.symbol) := by
  refine binary_eq_nullOperand ?_ ?_ ?_
  · rintro rfl
    cases hop
  · rintro rfl
    cases hop
  · rwa [Bool.or_eq_true, isNull_iff, isNull_iff]

theorem binary_of_ne_null (hop : op.isConditional = true) (hv : v ≠ null) (hw : w ≠ null) :
    v.binary op w = v.conditional op fun _ ↦ .ok w := by
  have hnull : ¬ (v.isNull || w.isNull) = true := by
    rw [Bool.or_eq_true, isNull_iff, isNull_iff]
    rintro (h | h)
    · exact hv h
    · exact hw h
  match op with
  | .conditionalAnd => exact (if_neg hnull).trans (conjunction_map v w)
  | .conditionalOr => exact (if_neg hnull).trans (disjunction_map v w)

/-! ## Where the two differ -/

/-- Whether a conditional operator passes over a `null` at the right: the left operand is not `null`
itself and settles the answer. -/
def PassesOver (op : BinaryOp) (v w : Value) : Prop :=
  op.isConditional = true ∧ w = null ∧ v ≠ null ∧ v ≠ undecided op

instance (op : BinaryOp) (v w : Value) : Decidable (PassesOver op v w) :=
  inferInstanceAs (Decidable (_ ∧ _ ∧ _ ∧ _))

/-- The truth value of an operand that is not `null` is never refused for being `null`. -/
theorem truth_map_ne_nullOperand (hnull : v ≠ null) (operator : String) :
    (v.truth operator).map boolean ≠ .error (.nullOperand operator) := by
  rcases truth_of_ne hnull operator with ⟨b, rfl⟩ | herror
  · rintro ⟨⟩
  · rw [herror]
    rintro ⟨⟩

/-- Where nothing is passed over, both operands at once come to the same as one after the other. -/
theorem binary_of_not_passesOver (hop : op.isConditional = true) (h : ¬ PassesOver op v w) :
    v.binary op w = v.conditional op fun _ ↦ .ok w := by
  by_cases hv : v = null
  · rw [binary_of_null hop (.inl hv), hv]
    rfl
  by_cases hw : w = null
  · have hundecided : v = undecided op :=
      Decidable.byContradiction fun hne ↦ h ⟨hop, hw, hv, hne⟩
    rw [binary_of_null hop (.inr hw), hundecided, conditional_undecided, hw]
    rfl
  · exact binary_of_ne_null hop hv hw

end Value

namespace Expr

open Value

/-- **An operator on two constants is evaluated as on the two values**, except where a conditional
operator passes over a `null` at the right.  The tree then has the left operand for an answer, or
refuses it for its type, and the values are refused because of the `null`. -/
theorem eval_binary_const (c : Context) (op : BinaryOp) (v w : Value) :
    let walked := (binary op (const v) (const w)).eval c
    (walked = v.binary op w ↔ ¬ PassesOver op v w) ∧
      walked = (if PassesOver op v w then (v.truth op.symbol).map boolean else v.binary op w) ∧
      v.binary op w = if PassesOver op v w then .error (.nullOperand op.symbol) else walked := by
  intro walked
  by_cases hpasses : PassesOver op v w
  · obtain ⟨hop, hw, hv, hne⟩ := id hpasses
    have hwalked : walked = (v.truth op.symbol).map boolean :=
      (if_pos hop).trans (conditional_of_ne_undecided hne _)
    have hbinary : v.binary op w = .error (.nullOperand op.symbol) := binary_of_null hop (.inr hw)
    rw [if_pos hpasses, if_pos hpasses]
    refine ⟨⟨fun h ↦ ?_, fun h ↦ absurd hpasses h⟩, hwalked, hbinary⟩
    rw [hwalked, hbinary] at h
    exact absurd h (truth_map_ne_nullOperand hv op.symbol)
  · have hsame : walked = v.binary op w := by
      by_cases hop : op.isConditional = true
      · exact (if_pos hop).trans (binary_of_not_passesOver hop hpasses).symm
      · exact if_neg hop
    rw [if_neg hpasses, if_neg hpasses]
    exact ⟨⟨fun _ ↦ hpasses, fun _ ↦ hsame⟩, hsame, hsame.symm⟩

/-- The tree does not come to the `null`; the values are refused because of it. -/
theorem eval_binary_const_ne :
    (binary .conditionalAnd (const (.boolean false)) (const .null)).eval .empty =
        .ok (.boolean false) ∧
      Value.binary .conditionalAnd (.boolean false) .null = .error (.nullOperand "&&") ∧
      (binary .conditionalAnd (const (.boolean false)) (const .null)).eval .empty ≠
        Value.binary .conditionalAnd (.boolean false) .null :=
  ⟨rfl, rfl, by rintro ⟨⟩⟩

end Expr

end Formula
