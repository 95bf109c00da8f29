import Formula.Expr.Parser

/-!
# The equations of the parser

The functions of the parser return their answers together with the fact that they end.  Here they
are without it, as the proofs about them unfold them: one equation for each function, in which
`TokenStream.andThen` goes on with what is found and passes errors on.
-/

set_option autoImplicit false

namespace Formula.TokenStream

variable {α β : Type} {s : TokenStream}

/-- Goes on with what is found; an error is passed on. -/
def andThen (found : Except ParseError α × TokenStream)
    (next : α → TokenStream → Except ParseError β × TokenStream) :
    Except ParseError β × TokenStream :=
  match found with
  | (.error e, s) => (.error e, s)
  | (.ok value, s) => next value s

theorem val_asking {found : Except ParseError α × TokenStream}
    {h : found.2.items.length ≤ s.items.length}
    {onward : (value : α) → (s' : TokenStream) → found = (.ok value, s') →
      s'.items.length ≤ s.items.length → Onward s' β}
    {next : α → TokenStream → Except ParseError β × TokenStream}
    (hnext : ∀ value s' hfound hle, (onward value s' hfound hle).val = next value s') :
    (asking found h onward).val = andThen found next := by
  rcases found with ⟨_ | value, s'⟩
  · rfl
  · exact hnext value s' rfl h

theorem Onward.val_andThen {found : Onward s α}
    {onward : α → (s' : TokenStream) → s'.items.length ≤ s.items.length → Onward s' β}
    {next : α → TokenStream → Except ParseError β × TokenStream}
    (hnext : ∀ value s' hle, (onward value s' hle).val = next value s') :
    (found.andThen onward).val = TokenStream.andThen found.val next := by
  obtain ⟨⟨_ | value, s'⟩, h⟩ := found
  · rfl
  · exact hnext value s' h

/-! ## The functions -/

theorem parseVariable_val (s : TokenStream) :
    s.parseVariable.val = andThen s.nextRequired fun t s ↦
      match Parser.variableIndex? t.token with
      | some index => andThen (s.expectSymbol "\x7d") fun _ s ↦ (.ok (.var index), s)
      | none => (.error (.invalidVariableIndex t.token.text t.position), s) := by
  rw [parseVariable]
  refine val_asking fun t s _ _ ↦ ?_
  rcases Parser.variableIndex? t.token with _ | index
  · rfl
  · exact val_asking fun _ _ _ _ ↦ rfl

theorem parseExpression_val (s : TokenStream) :
    s.parseExpression.val = andThen (s.descend groupCost) fun _ s ↦
      (s.parseTier BinaryOp.loosestTier).val.map id (ascend groupCost) := by
  rw [parseExpression]
  exact val_asking fun _ _ _ _ ↦ rfl

theorem parseTier_val_zero (s : TokenStream) : (s.parseTier 0).val = s.parseUnary.val := by
  rw [parseTier]

theorem parseTier_val_succ (lower : Nat) (s : TokenStream) :
    (s.parseTier (lower + 1)).val = andThen (s.parseTier lower).val fun left s ↦
      if lower + 1 = BinaryOp.relationalTier then (s.parseComparison lower left).val
      else (s.parseChain lower 0 left).val := by
  rw [parseTier]
  refine Onward.val_andThen fun left s _ ↦ ?_
  split <;> rfl

theorem parseComparison_val (lower : Nat) (left : Expr) (s : TokenStream) :
    (s.parseComparison lower left).val =
      andThen (s.nextOperatorIf fun op ↦ op.tier == lower + 1) fun op? s ↦
        match op? with
        | none => (.ok left, s)
        | some op => (s.parseTier lower).val.map (.map (.binary op left)) id := by
  rw [parseComparison]
  refine val_asking fun op? s _ _ ↦ ?_
  cases op? <;> rfl

theorem parseChain_val (lower taken : Nat) (left : Expr) (s : TokenStream) :
    (s.parseChain lower taken left).val =
      andThen (s.nextOperatorIf fun op ↦ op.tier == lower + 1) fun op? s ↦
        match op? with
        | none => (.ok left, s.ascend taken)
        | some op => andThen (s.descend 1) fun _ s ↦ andThen (s.parseTier lower).val fun right s ↦
            (s.parseChain lower (taken + 1) (.binary op left right)).val := by
  rw [parseChain]
  refine val_asking fun op? s _ _ ↦ ?_
  rcases op? with _ | op
  · rfl
  · exact val_asking fun _ _ _ _ ↦ Onward.val_andThen fun _ _ _ ↦ rfl

theorem parseUnary_val (s : TokenStream) :
    s.parseUnary.val = andThen s.peek fun seen s ↦
      match seen.bind fun t ↦ Parser.lead? t.token with
      | none => s.parseBase.val
      | some lead => andThen s.next fun _ s ↦
        match lead with
        | .operator op => s.parseNestedUnary.val.map (.map (.unary op)) id
        | .plus => s.parseNestedUnary.val
        | .truth b => (.ok (.const (.boolean b)), s) := by
  rw [parseUnary]
  refine val_asking fun seen s _ _ ↦ ?_
  split
  · rename_i hlead
    simp only [hlead]
  · rename_i lead hlead
    simp only [hlead]
    refine val_asking fun _ s _ _ ↦ ?_
    cases lead <;> rfl

theorem parseNestedUnary_val (s : TokenStream) :
    s.parseNestedUnary.val = andThen (s.descend 1) fun _ s ↦
      s.parseUnary.val.map id (ascend 1) := by
  rw [parseNestedUnary]
  exact val_asking fun _ _ _ _ ↦ rfl

theorem parseBase_val (s : TokenStream) :
    s.parseBase.val = andThen s.nextRequired fun t s ↦
      match t.token.kind with
      | .number =>
        match NumberLiteral.read? t.token.text.toList with
        | some value => (.ok (.const value), s)
        | none => (.error (.invalidNumber t.token.text t.position), s)
      | .string => (.ok (.const (.string t.token.text)), s)
      | .word =>
        if t.token.text = "null" then (.ok (.const .null), s)
        else (.error (.unexpectedInput t.token.text t.position), s)
      | .symbol =>
        if t.token.text = "(" then s.parseParenthesized.val
        else if t.token.text = "\x7b" then s.parseVariable.val
        else (.error (.expectedExpression t.token.text t.position), s) := by
  rw [parseBase]
  refine val_asking fun t s _ _ ↦ ?_
  cases t.token.kind with
  | number => cases NumberLiteral.read? t.token.text.toList <;> rfl
  | string => rfl
  | word =>
    simp only
    split <;> rfl
  | symbol =>
    simp only
    split
    · rfl
    · split <;> rfl

theorem parseParenthesized_val (s : TokenStream) :
    s.parseParenthesized.val = andThen s.peek fun seen s ↦
      if seen.any (·.token.kind = .word) then s.parseCast.val
      else andThen s.parseExpression.val fun inner s ↦
        andThen (s.expectSymbol ")") fun _ s ↦ (.ok inner, s) := by
  rw [parseParenthesized]
  refine val_asking fun seen s _ _ ↦ ?_
  split
  · rfl
  · exact Onward.val_andThen fun _ _ _ ↦ val_asking fun _ _ _ _ ↦ rfl

theorem parseCast_val (s : TokenStream) :
    s.parseCast.val = andThen s.nextRequired fun t s ↦
      match ValueType.ofCastName? t.token.text with
      | none => (.error (.unknownCastType t.token.text t.position), s)
      | some type => andThen (s.expectSymbol ")") fun _ s ↦
        s.parseNestedUnary.val.map (.map (.cast type)) id := by
  rw [parseCast]
  refine val_asking fun t s _ _ ↦ ?_
  rcases ValueType.ofCastName? t.token.text with _ | type
  · rfl
  · exact val_asking fun _ _ _ _ ↦ rfl

end Formula.TokenStream
