import Formula.Proofs.Expr.Constants

/-!
# Substitution

The values of a context can be put into an expression, in the place of the variables that they are
for: `Expr.substitute`.  What is left needs the context no more.  Evaluating it, in any other
context, comes to what the expression came to in the first one.

The exception is a result that is itself about a variable that the first context does not have.
Such a variable is still there after the substitution, and what it comes to depends on the second
context.  `Context.Carries` is the relation between the two results that allows for this.  It holds
of an operator's results if it holds of the operands' (`Carries.bind`), because operators never look
at variables on their own (`Value.isUnbound_binary` and its like), and because an operand that is
left out in one evaluation is left out in the other.
-/

set_option autoImplicit false

namespace Formula

/-- The expression with every variable that a context has replaced by its value. -/
def Expr.substitute (c : Context) : Expr → Expr
  | const v => const v
  | var index =>
    match c.values[index]? with
    | some v => const v
    | none => var index
  | unary op e => unary op (e.substitute c)
  | binary op l r => binary op (l.substitute c) (r.substitute c)
  | cast target e => cast target (e.substitute c)

/-- Whether a result is the error of a variable that the context does not have. -/
def isUnbound : Except EvalError Value → Bool
  | .error (.variableOutOfRange ..) => true
  | _ => false

/-! ## Operators look at no variables -/

theorem isUnbound_of_conforms {t : ValueType} {result : Except EvalError Value}
    (h : Conforms (some t) result) : isUnbound result = false := by
  cases result with
  | ok v => rfl
  | error error => cases error <;> first | rfl | cases h

namespace Value

theorem isUnbound_truth (v : Value) (operator : String) :
    isUnbound ((v.truth operator).map boolean) = false := by
  cases v <;> rfl

theorem isUnbound_unary (op : UnaryOp) (v : Value) : isUnbound (v.unary op) = false := by
  cases op <;> cases v <;> rfl

theorem isUnbound_cast (target : ValueType) (v : Value) : isUnbound (v.cast target) = false := by
  rw [cast]
  split
  · rfl
  by_cases hnumeric : v.type ∈ ValueType.numeric
  · have hconverts := converts_convert? target hnumeric
    cases hresult : convert? target v with
    | ok result => cases result <;> rfl
    | error error =>
      rw [hresult] at hconverts
      have hconforms : Conforms (some target) (.error error) := hconverts.2
      exact isUnbound_of_conforms hconforms
  · rw [convert?_eq_none target hnumeric]
    rfl

theorem isUnbound_arithmetic (operation : Arithmetic) (op : BinaryOp) (v w : Value) :
    isUnbound (arithmetic operation op v w) = false := by
  rw [arithmetic]
  split
  · exact isUnbound_of_conforms (NumberPair.conforms_arithmetic ..)
  · rfl

theorem isUnbound_add (v w : Value) : isUnbound (add v w) = false := by
  rw [add.eq_def]
  split
  · rfl
  · rfl
  · exact isUnbound_arithmetic ..

theorem isUnbound_equality (op : BinaryOp) (v w : Value) :
    isUnbound (equality op v w) = false := by
  rw [equality.eq_def]
  dsimp only
  split
  case h_5 => split <;> rfl
  all_goals rfl

theorem isUnbound_relational (op : BinaryOp) (v w : Value) :
    isUnbound (relational op v w) = false := by
  rw [relational]
  split <;> rfl

theorem isUnbound_shift (op : BinaryOp) (v w : Value) : isUnbound (shift op v w) = false := by
  rw [shift.eq_def]
  split <;> rfl

theorem isUnbound_logic (operation : Bitwise) (op : BinaryOp) (v w : Value) :
    isUnbound (logic operation op v w) = false := by
  rw [logic.eq_def]
  split
  · rfl
  · split <;> rfl

/-- The result of a conditional operator that its left operand leaves open. -/
theorem conditional_undecided_eq_bind (op : BinaryOp) (right : Except EvalError Value) :
    (undecided op).conditional op (fun _ ↦ right) =
      right.bind fun w ↦ (w.truth op.symbol).map boolean := by
  cases right with
  | ok w => exact conditional_undecided op w
  | error error => by_cases hor : op = .conditionalOr <;> simp [conditional, undecided, truth, hor,
      Except.bind]

theorem isUnbound_conditional (op : BinaryOp) (v w : Value) :
    isUnbound (v.conditional op fun _ ↦ .ok w) = false := by
  by_cases hv : v = undecided op
  · rw [hv, conditional_undecided]
    exact isUnbound_truth ..
  · rw [conditional_of_ne_undecided hv]
    exact isUnbound_truth ..

theorem isUnbound_binary (op : BinaryOp) (v w : Value) : isUnbound (v.binary op w) = false := by
  rw [binary.eq_def]
  split
  · exact isUnbound_equality ..
  · exact isUnbound_equality ..
  split
  · rfl
  cases op <;> dsimp only
  case add => exact isUnbound_add ..
  case subtract | multiply | divide | modulus => exact isUnbound_arithmetic ..
  case logicalAnd | logicalOr | logicalXor => exact isUnbound_logic ..
  case shiftLeft | shiftRight => exact isUnbound_shift ..
  case conditionalAnd =>
    rw [conjunction_map]
    exact isUnbound_conditional ..
  case conditionalOr =>
    rw [disjunction_map]
    exact isUnbound_conditional ..
  all_goals exact isUnbound_relational ..

end Value

/-! ## Results in two contexts -/

/-- How a result in a context is taken over by another one once the values of the first have been
substituted.  It is the same, unless it is about a variable that the first context does not have; in
a context that is no longer, that variable is missing as well. -/
inductive Context.Carries (c d : Context) :
    Except EvalError Value → Except EvalError Value → Prop
  | same {result : Except EvalError Value} (h : isUnbound result = false) :
      Carries c d result result
  | unbound {index : Nat} {result : Except EvalError Value} (hindex : c.size ≤ index)
      (h : d.size ≤ c.size → result = .error (.variableOutOfRange index d.size)) :
      Carries c d (.error (.variableOutOfRange index c.size)) result

namespace Context.Carries

variable {c d : Context} {before after : Except EvalError Value}

/-- What is done with a value does not depend on the context, or is taken over too. -/
theorem bind {f g : Value → Except EvalError Value} (h : Carries c d before after)
    (hfg : ∀ v, Carries c d (f v) (g v)) : Carries c d (before.bind f) (after.bind g) := by
  cases h with
  | same h =>
    cases before with
    | ok v => exact hfg v
    | error error => exact .same h
  | unbound hindex h =>
    refine .unbound hindex fun hsize ↦ ?_
    rw [h hsize]
    rfl

theorem conditional (h : Carries c d before after) (op : BinaryOp) (v : Value) :
    Carries c d (v.conditional op fun _ ↦ before) (v.conditional op fun _ ↦ after) := by
  by_cases hv : v = Value.undecided op
  · rw [hv, Value.conditional_undecided_eq_bind, Value.conditional_undecided_eq_bind]
    exact h.bind fun w ↦ .same (w.isUnbound_truth op.symbol)
  · rw [Value.conditional_of_ne_undecided hv, Value.conditional_of_ne_undecided hv]
    exact .same (v.isUnbound_truth op.symbol)

theorem eq_of_ne (h : Carries c d before after)
    (hne : ∀ index count, before ≠ .error (.variableOutOfRange index count)) : after = before := by
  cases h with
  | same => rfl
  | unbound => exact absurd rfl (hne _ _)

theorem of_unbound {index count : Nat}
    (h : Carries c d (.error (.variableOutOfRange index count)) after) :
    count = c.size ∧ c.size ≤ index ∧
      (d.size ≤ c.size → after = .error (.variableOutOfRange index d.size)) := by
  cases h with
  | same h => cases h
  | unbound hindex h => exact ⟨rfl, hindex, h⟩

end Context.Carries

namespace Expr

/-! ## Evaluation as a chain -/

section Chain

variable (c : Context)

theorem eval_unary (op : UnaryOp) (e : Expr) :
    (unary op e).eval c = (e.eval c).bind fun v ↦ v.unary op := by
  rw [eval]
  cases e.eval c <;> rfl

theorem eval_cast (target : ValueType) (e : Expr) :
    (cast target e).eval c = (e.eval c).bind fun v ↦ v.cast target := by
  rw [eval]
  cases e.eval c <;> rfl

theorem eval_binary (op : BinaryOp) (l r : Expr) :
    (binary op l r).eval c = (l.eval c).bind fun v ↦
      if op.isConditional then v.conditional op fun _ ↦ r.eval c
      else (r.eval c).bind fun w ↦ v.binary op w := by
  rw [eval]
  cases l.eval c with
  | error error => rfl
  | ok v => cases r.eval c <;> rfl

end Chain

/-! ## Substitution -/

variable {c d : Context}

/-- A variable is taken over as the value that is put in its place. -/
theorem carries_var (c d : Context) (index : Nat) :
    c.Carries d ((var index).eval c) (((var index).substitute c).eval d) := by
  rw [substitute, eval, Context.get]
  cases hv : c.values[index]? with
  | some v => exact .same rfl
  | none =>
    have hindex : c.size ≤ index := List.getElem?_eq_none_iff.1 hv
    refine .unbound hindex fun hsize ↦ ?_
    have hnone : d.values[index]? = none := List.getElem?_eq_none (Nat.le_trans hsize hindex)
    rw [eval, Context.get, hnone]

/-- **Substitution takes results over**, operator by operator. -/
theorem carries_eval (c d : Context) (e : Expr) :
    c.Carries d (e.eval c) ((e.substitute c).eval d) := by
  induction e with
  | const v => exact .same rfl
  | var index => exact carries_var c d index
  | unary op e ih =>
    rw [substitute, eval_unary, eval_unary]
    exact ih.bind fun v ↦ .same (v.isUnbound_unary op)
  | binary op l r ihl ihr =>
    rw [substitute, eval_binary, eval_binary]
    refine ihl.bind fun v ↦ ?_
    split
    · exact ihr.conditional op v
    · exact ihr.bind fun w ↦ .same (v.isUnbound_binary op w)
  | cast target e ih =>
    rw [substitute, eval_cast, eval_cast]
    exact ih.bind fun v ↦ .same (v.isUnbound_cast target)

/-- In a context that begins with the values, it makes no difference whether they are
substituted. -/
theorem eval_substitute_of_prefix (h : c.values <+: d.values) (e : Expr) :
    (e.substitute c).eval d = e.eval d := by
  induction e with
  | const v => rfl
  | var index =>
    rw [substitute]
    split
    · rename_i v hv
      obtain ⟨hindex, rfl⟩ := List.getElem?_eq_some_iff.1 hv
      rw [eval, eval, Context.get, List.prefix_iff_getElem?.1 h index hindex]
    · rfl
  | unary op e ih => rw [substitute, eval_unary, eval_unary, ih]
  | binary op l r ihl ihr => rw [substitute, eval_binary, eval_binary, ihl, ihr]
  | cast target e ih => rw [substitute, eval_cast, eval_cast, ih]

/-- **Substitution.**  Evaluate an expression in a context, and the expression with the values of
that context in the place of its variables in another one.  If the first result, a value or an
error, is not about a variable out of range, the second is the same, whatever the other context.  If
it is, then of a variable that the first context does not have; and the second result is about the
same variable, as long as the other context is no longer.  Hence a value is not changed by further
values at the end of the context. -/
theorem eval_substitute (c : Context) (e : Expr) :
    ((∀ index count, e.eval c ≠ .error (.variableOutOfRange index count)) →
      ∀ d, (e.substitute c).eval d = e.eval c) ∧
    (∀ index count, e.eval c = .error (.variableOutOfRange index count) →
      count = c.size ∧ c.size ≤ index ∧ ∀ d : Context, d.size ≤ c.size →
        (e.substitute c).eval d = .error (.variableOutOfRange index d.size)) ∧
    ∀ v more, e.eval c = .ok v → e.eval { values := c.values ++ more } = .ok v := by
  refine ⟨fun hbound d ↦ ?_, fun index count h ↦ ?_, fun v more h ↦ ?_⟩
  · exact (carries_eval c d e).eq_of_ne hbound
  · obtain ⟨hcount, hindex, -⟩ := (h ▸ carries_eval c c e).of_unbound
    refine ⟨hcount, hindex, fun d hsize ↦ ?_⟩
    exact (h ▸ carries_eval c d e).of_unbound.2.2 hsize
  · have hbound : ∀ index count, e.eval c ≠ .error (.variableOutOfRange index count) := by
      rw [h]
      nofun
    have hprefix : c.values <+: (Context.mk (c.values ++ more)).values := List.prefix_append ..
    rw [← eval_substitute_of_prefix hprefix, (carries_eval c _ e).eq_of_ne hbound, h]

end Expr

end Formula
