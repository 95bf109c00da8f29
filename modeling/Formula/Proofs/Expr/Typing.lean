import Formula.Expr.Eval
import Formula.Proofs.Value.Typing

/-!
# Static types

An expression has a static type in a context if its constants and variables have types that the
tables of `Formula.Proofs.Value.Typing` put together all the way up.  Evaluation is sound for these
types in both directions.  An expression that has one evaluates to a value of that type, unless a
division by zero or an overflow gets in the way.  And what evaluates to a value had a static type.

The second direction needs care, since a conditional operator whose left operand decides leaves the
right one unevaluated, and nothing is found out about its type.  `Expr.reached` is the expression
without the operands that are left out so, and it is that expression which has the type.
-/

set_option autoImplicit false

namespace Formula

/-- The types of the variables. -/
def Context.types (c : Context) : List ValueType := c.values.map Value.type

/-! ## Static types -/

/-- The static type of an expression, by the types of the variables. -/
def Expr.staticType? (types : List ValueType) : Expr → Option ValueType
  | const v => some v.type
  | var index => types[index]?
  | unary op e => (e.staticType? types).bind op.resultType?
  | binary op l r =>
    (l.staticType? types).bind fun s ↦ (r.staticType? types).bind fun t ↦ op.resultType? s t
  | cast target e => (e.staticType? types).bind target.castResult?

/-- Whether an operator leaves its right operand unevaluated, for what its left operand comes to. -/
def BinaryOp.decidedBy (op : BinaryOp) (left : Except EvalError Value) : Bool :=
  match left with
  | .ok (.boolean b) => op.isConditional && b == decide (op = .conditionalOr)
  | _ => false

theorem BinaryOp.decidedBy_iff {op : BinaryOp} {left : Except EvalError Value} :
    op.decidedBy left = true ↔
      op.isConditional = true ∧ left = .ok (.boolean (decide (op = .conditionalOr))) := by
  cases left with
  | error error => simp [decidedBy]
  | ok v => cases v <;> simp [decidedBy]

/-- The expression without the operands that conditional operators leave unevaluated: where the left
operand decides, it stands alone. -/
def Expr.reached (c : Context) : Expr → Expr
  | const v => const v
  | var index => var index
  | unary op e => unary op (e.reached c)
  | binary op l r =>
    if op.decidedBy (l.eval c) then l.reached c else binary op (l.reached c) (r.reached c)
  | cast target e => cast target (e.reached c)

namespace Expr

variable {c : Context} {e : Expr}

/-! ## Evaluation at a static type -/

theorem conforms_var {index : Nat} {t : ValueType} (h : c.types[index]? = some t) :
    Conforms (some t) (c.get index) := by
  rw [Context.types, List.getElem?_map, Option.map_eq_some_iff] at h
  obtain ⟨v, hv, rfl⟩ := h
  rw [Context.get, hv]
  exact (rfl : v.type = _)

theorem eq_boolean_of_type {v : Value} (h : v.type = .boolean) : ∃ b, v = .boolean b := by
  cases v <;> first | exact ⟨_, rfl⟩ | cases h

/-- The table of a conditional operator. -/
theorem resultType?_conditional {op : BinaryOp} (hop : op.isConditional = true)
    {s t u : ValueType} :
    op.resultType? s t = some u ↔ s = .boolean ∧ t = .boolean ∧ u = .boolean := by
  have htable : op.resultType? s t =
      if s = .boolean ∧ t = .boolean then some .boolean else none := by
    cases op <;> first | rfl | cases hop
  rw [htable]
  split
  · rename_i h
    simp [h.1, h.2, eq_comm]
  · rename_i h
    constructor
    · intro h'
      cases h'
    · rintro ⟨hs, ht, -⟩
      exact absurd ⟨hs, ht⟩ h

theorem not_conditional {op : BinaryOp} (hop : ¬ op.isConditional = true) :
    op ≠ .conditionalOr ∧ op ≠ .conditionalAnd := by
  constructor <;> rintro rfl <;> exact hop rfl

theorem conforms_some {t : ValueType} {result : Except EvalError Value}
    (h : Conforms (some t) result) :
    (∃ error, result = .error error ∧ error.isArithmetic = true) ∨
      ∃ v, result = .ok v ∧ v.type = t := by
  cases result with
  | error error => exact .inl ⟨error, rfl, h⟩
  | ok v => exact .inr ⟨v, rfl, h⟩

/-- An expression with a static type evaluates to a value of this type, or to an error about
numbers. -/
theorem conforms_eval : ∀ t, e.staticType? c.types = some t → Conforms (some t) (e.eval c) := by
  induction e with
  | const v =>
    rintro t ⟨⟩
    exact (rfl : v.type = _)
  | var index => exact fun t h ↦ conforms_var h
  | unary op e ih =>
    intro u h
    obtain ⟨t, ht, hop⟩ := Option.bind_eq_some_iff.1 h
    rcases conforms_some (ih t ht) with ⟨error, herror, harithmetic⟩ | ⟨v, hv, rfl⟩
    · rw [eval, herror]
      exact harithmetic
    · rw [eval, hv]
      exact hop ▸ v.conforms_unary op
  | binary op l r ihl ihr =>
    intro u h
    obtain ⟨s, hs, h⟩ := Option.bind_eq_some_iff.1 h
    obtain ⟨t, ht, hop⟩ := Option.bind_eq_some_iff.1 h
    rcases conforms_some (ihl s hs) with ⟨error, herror, harithmetic⟩ | ⟨v, hv, rfl⟩
    · rw [eval, herror]
      exact harithmetic
    rw [eval, hv]
    by_cases hconditional : op.isConditional = true
    · obtain ⟨hs, rfl, rfl⟩ := (resultType?_conditional hconditional).1 hop
      obtain ⟨b, rfl⟩ := eq_boolean_of_type hs
      simp only [if_pos hconditional, Value.conditional, Value.truth]
      split
      · exact (rfl : Value.type (.boolean b) = _)
      · rcases conforms_some (ihr _ ht) with ⟨error, herror, harithmetic⟩ | ⟨w, hw, htype⟩
        · rw [herror]
          exact harithmetic
        · obtain ⟨b', rfl⟩ := eq_boolean_of_type htype
          rw [hw]
          exact (rfl : Value.type (.boolean b') = _)
    · simp only [if_neg hconditional]
      rcases conforms_some (ihr t ht) with ⟨error, herror, harithmetic⟩ | ⟨w, hw, rfl⟩
      · rw [herror]
        exact harithmetic
      · rw [hw]
        obtain ⟨hor, hand⟩ := not_conditional hconditional
        exact hop ▸ Value.conforms_binary hor hand v w
  | cast target e ih =>
    intro u h
    obtain ⟨t, ht, hop⟩ := Option.bind_eq_some_iff.1 h
    rcases conforms_some (ih t ht) with ⟨error, herror, harithmetic⟩ | ⟨v, hv, rfl⟩
    · rw [eval, herror]
      exact harithmetic
    · rw [eval, hv]
      exact hop ▸ v.conforms_cast target

/-! ## The static type of what has a value -/

theorem type_of_conforms {entry : Option ValueType} {v : Value} (h : Conforms entry (.ok v)) :
    entry = some v.type := by
  cases entry with
  | none => exact h.elim
  | some t => exact congrArg some (Eq.symm h)

theorem eq_boolean_of_truth {operator : String} {v : Value} {b : Bool}
    (h : v.truth operator = .ok b) : v = .boolean b := by
  cases v <;> cases h
  rfl

/-- What a conditional operator needs to have a value: the left operand is a truth value, and so is
the right one unless the left one decides. -/
theorem conditional_eq_ok {op : BinaryOp} (hop : op.isConditional = true) {u v : Value}
    {right : Except EvalError Value} (h : (v.conditional op fun _ ↦ right) = .ok u) :
    (∃ b, v = .boolean b ∧ u = v ∧ op.decidedBy (.ok v) = true) ∨
      ∃ b b', v = .boolean b ∧ right = .ok (.boolean b') ∧ u = .boolean b' ∧
        op.decidedBy (.ok v) = false := by
  rw [Value.conditional] at h
  split at h
  · cases h
  rename_i b hb
  obtain rfl := eq_boolean_of_truth hb
  split at h
  · rename_i hdecided
    cases h
    exact .inl ⟨b, rfl, rfl, by simp [BinaryOp.decidedBy, hop, hdecided]⟩
  · rename_i hundecided
    split at h
    · cases h
    rename_i w
    cases hw : w.truth op.symbol with
    | error error =>
      rw [hw] at h
      cases h
    | ok b' =>
      rw [hw] at h
      cases h
      exact .inr ⟨b, b', rfl, by rw [eq_boolean_of_truth hw], rfl,
        by simp [BinaryOp.decidedBy, hundecided]⟩

/-- Where an expression has a value, what was evaluated of it has the type of that value. -/
theorem staticType?_reached :
    ∀ v, e.eval c = .ok v → (e.reached c).staticType? c.types = some v.type := by
  induction e with
  | const v =>
    rintro w ⟨⟩
    rfl
  | var index =>
    intro v h
    rw [eval, Context.get] at h
    split at h
    · rename_i w hw
      cases h
      rw [reached, staticType?, Context.types, List.getElem?_map, hw]
      rfl
    · cases h
  | unary op e ih =>
    intro u h
    rw [eval] at h
    split at h
    · rename_i v hv
      rw [reached, staticType?, ih v hv, Option.bind_some]
      exact type_of_conforms (h ▸ v.conforms_unary op)
    · cases h
  | binary op l r ihl ihr =>
    intro u h
    rw [eval] at h
    split at h
    · cases h
    rename_i v hv
    rw [reached, hv]
    split at h
    · rename_i hconditional
      rcases conditional_eq_ok hconditional h with
        ⟨b, rfl, rfl, hdecided⟩ | ⟨b, b', rfl, hw, rfl, hdecided⟩
      · rw [if_pos hdecided]
        exact ihl _ hv
      · rw [if_neg (by simp [hdecided]), staticType?, ihl _ hv, ihr _ hw]
        exact (resultType?_conditional hconditional).2 ⟨rfl, rfl, rfl⟩
    · rename_i hconditional
      split at h
      · rename_i w hw
        have hundecided : op.decidedBy (.ok v) = false := by
          cases v <;> simp [BinaryOp.decidedBy, hconditional]
        obtain ⟨hor, hand⟩ := not_conditional hconditional
        rw [if_neg (by simp [hundecided]), staticType?, ihl _ hv, ihr _ hw]
        exact type_of_conforms (h ▸ Value.conforms_binary hor hand v w)
      · cases h
  | cast target e ih =>
    intro u h
    rw [eval] at h
    split at h
    · rename_i v hv
      rw [reached, staticType?, ih v hv, Option.bind_some]
      exact type_of_conforms (h ▸ v.conforms_cast target)
    · cases h

/-! ## What is left out -/

/-- What is left out does not count. -/
theorem eval_reached (c : Context) (e : Expr) : (e.reached c).eval c = e.eval c := by
  induction e with
  | const | var => rfl
  | unary op e ih => rw [reached, eval, ih, eval]
  | binary op l r ihl ihr =>
    rw [reached]
    split
    · rename_i hdecided
      rw [ihl, eval]
      obtain ⟨hconditional, hleft⟩ := BinaryOp.decidedBy_iff.1 hdecided
      simp only [hleft, if_pos hconditional, Value.conditional, Value.truth, if_true]
    · rw [eval, ihl, ihr, eval]
  | cast target e ih => rw [reached, eval, ih, eval]

/-- Whether no operator in an expression may leave its right operand unevaluated. -/
def isUnconditional : Expr → Bool
  | const _ | var _ => true
  | unary _ e | cast _ e => e.isUnconditional
  | binary op l r => !op.isConditional && l.isUnconditional && r.isUnconditional

theorem reached_eq_self (c : Context) (h : e.isUnconditional = true) : e.reached c = e := by
  induction e with
  | const | var => rfl
  | unary op e ih | cast target e ih => rw [reached, ih h]
  | binary op l r ihl ihr =>
    simp only [isUnconditional, Bool.and_eq_true, Bool.not_eq_true'] at h
    have hundecided : ¬ op.decidedBy (l.eval c) = true := fun hdecided ↦ by
      simp [BinaryOp.decidedBy_iff, h.1.1] at hdecided
    rw [reached, if_neg hundecided, ihl h.1.2, ihr h.2]

/-! ## Soundness -/

/-- **Evaluation is sound for static types.**  An expression with a static type evaluates to a value
of that type, unless it divides by zero or overflows.  An expression with a value has, apart from
the operands that were left out, the type of that value as its static type; so an expression in
which none can be left out has no value if it has no static type. -/
theorem eval_sound (c : Context) (e : Expr) :
    (∀ t, e.staticType? c.types = some t →
      (∃ v, e.eval c = .ok v ∧ v.type = t) ∨ e.eval c = .error .divideByZero ∨
        ∃ operator, e.eval c = .error (.overflow operator)) ∧
    (∀ v, e.eval c = .ok v → (e.reached c).staticType? c.types = some v.type) ∧
    (e.isUnconditional = true → e.staticType? c.types = none →
      ∃ error, e.eval c = .error error) := by
  refine ⟨fun t ht ↦ ?_, staticType?_reached, fun hunconditional hnone ↦ ?_⟩
  · rcases conforms_some (conforms_eval t ht) with ⟨error, herror, harithmetic⟩ | hvalue
    · cases error with
      | divideByZero => exact .inr (.inl herror)
      | overflow operator => exact .inr (.inr ⟨operator, herror⟩)
      | _ => cases harithmetic
    · exact .inl hvalue
  · cases hresult : e.eval c with
    | error error => exact ⟨error, rfl⟩
    | ok v =>
      have htype := staticType?_reached v hresult
      rw [reached_eq_self c hunconditional, hnone] at htype
      cases htype

end Expr

end Formula
