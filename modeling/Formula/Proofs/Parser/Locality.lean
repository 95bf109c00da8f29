import Formula.Proofs.Parser.Induction

/-!
# How far the parser looks

A step of the parser depends on no more than the items that it takes and the one behind them, which
it may look at.  A step that fails at a token has taken that token, and depends on nothing behind
it.  So the outcome stays the same when what comes later is replaced.

`Local` is that statement about one step at some items.  It goes through everything that the parser
is made of: a token in front (`Local.cons`), one step behind another (`Local.andThen`), and nesting
that is given back (`Local.release`).  There is one lemma for each step of the parser, under the
assumption that the steps it calls are local; `isLocal` puts them together.
-/

set_option autoImplicit false

namespace Formula

namespace Parser

/-! ## One step -/

/-- What the outcome of a step at some items depends on.  If the step is done, it is so whatever
stands behind the next item; if it fails at a token, it does so whatever stands behind the token. -/
structure Local {α : Type} (step : List Item → Outcome α) (items : List Item) : Prop where
  done : ∀ {value rest}, step items = .done value rest → ∃ used, items = used ++ rest ∧
    ∀ rest', rest'.head? = rest.head? → step (used ++ rest') = .done value rest'
  failed : ∀ {error rest depth}, step items = .failed error rest depth →
    error.found?.isSome = true → ∃ used, used ≠ [] ∧ items = used ++ rest ∧
      ∀ rest', step (used ++ rest') = .failed error rest' depth

theorem head?_append_eq {used rest rest' : List Item}
    (h : used ≠ [] ∨ rest'.head? = rest.head?) :
    (used ++ rest').head? = (used ++ rest).head? := by
  cases used with
  | nil => simpa using h
  | cons item used => rfl

namespace Local

variable {α β : Type} {step step' : List Item → Outcome α} {items : List Item} {t : PlacedToken}

/-- The step does the same as another one where the items begin as they do here. -/
theorem congr (h : Local step' items)
    (hstep : ∀ items', items'.head? = items.head? → step items' = step' items') :
    Local step items := by
  constructor
  · intro value rest hdone
    rw [hstep items rfl] at hdone
    obtain ⟨used, rfl, hsame⟩ := h.done hdone
    refine ⟨used, rfl, fun rest' hhead ↦ ?_⟩
    rw [hstep _ (head?_append_eq (.inr hhead)), hsame rest' hhead]
  · intro error rest depth hfailed hfound
    rw [hstep items rfl] at hfailed
    obtain ⟨used, hne, rfl, hsame⟩ := h.failed hfailed hfound
    refine ⟨used, hne, rfl, fun rest' ↦ ?_⟩
    rw [hstep _ (head?_append_eq (.inl hne)), hsame rest']

/-- A step that takes nothing. -/
theorem pure (value : α) (items : List Item) : Local (.done value) items where
  done hdone := by
    cases hdone
    exact ⟨[], rfl, fun _ _ ↦ rfl⟩
  failed hfailed := by cases hfailed

/-- Nothing is to be shown of a failure that is at no token. -/
theorem of_failed {error : ParseError} {rest : List Item} {depth : Nat}
    (h : step items = .failed error rest depth) (hfound : error.found? = none) :
    Local step items := by
  constructor
  · intro value rest' hdone
    rw [h] at hdone
    cases hdone
  · intro error' rest' depth' hfailed hsome
    rw [h] at hfailed
    cases hfailed
    rw [hfound] at hsome
    cases hsome

theorem tooDeep (bounds : Bounds) (depth : Nat) (items : List Item) :
    Local (Items.tooDeep bounds depth : List Item → Outcome α) items := by
  cases items with
  | nil => exact of_failed rfl rfl
  | cons item items => cases item <;> exact of_failed rfl rfl

/-- A step that takes a token and does what another one does behind it. -/
theorem cons (h : Local step' items)
    (hstep : ∀ items', step (.token t :: items') = step' items') :
    Local step (.token t :: items) := by
  constructor
  · intro value rest hdone
    rw [hstep] at hdone
    obtain ⟨used, rfl, hsame⟩ := h.done hdone
    exact ⟨.token t :: used, rfl, fun rest' hhead ↦ (hstep _).trans (hsame rest' hhead)⟩
  · intro error rest depth hfailed hfound
    rw [hstep] at hfailed
    obtain ⟨used, -, rfl, hsame⟩ := h.failed hfailed hfound
    exact ⟨.token t :: used, by simp, rfl, fun rest' ↦ (hstep _).trans (hsame rest')⟩

/-- A step that fails at the token that comes next. -/
theorem failed_cons {error : ParseError} {depth : Nat}
    (hstep : ∀ items', step (.token t :: items') = .failed error items' depth) :
    Local step (.token t :: items) := by
  constructor
  · intro value rest hdone
    rw [hstep] at hdone
    cases hdone
  · intro error' rest depth' hfailed _
    rw [hstep] at hfailed
    cases hfailed
    exact ⟨[.token t], by simp, rfl, hstep⟩

/-- One step behind another one. -/
theorem andThen (h : Local step items) (next : α → List Item → Outcome β)
    (hnext : ∀ value rest, Local (next value) rest) :
    Local (fun items ↦ (step items).andThen next) items := by
  constructor
  · intro value rest hdone
    cases hstep : step items with
    | failed error rest' depth =>
      rw [hstep] at hdone
      cases hdone
    | done first mid =>
      rw [hstep] at hdone
      obtain ⟨used, rfl, hsame⟩ := h.done hstep
      obtain ⟨used', rfl, hsame'⟩ := (hnext first mid).done hdone
      refine ⟨used ++ used', (List.append_assoc ..).symm, fun rest' hhead ↦ ?_⟩
      rw [List.append_assoc, hsame _ (head?_append_eq (.inr hhead))]
      exact hsame' rest' hhead
  · intro error rest depth hfailed hfound
    cases hstep : step items with
    | failed error' rest' depth' =>
      rw [hstep] at hfailed
      cases hfailed
      obtain ⟨used, hne, hitems, hsame⟩ := h.failed hstep hfound
      refine ⟨used, hne, hitems, fun rest' ↦ ?_⟩
      rw [hsame rest']
      rfl
    | done first mid =>
      rw [hstep] at hfailed
      obtain ⟨used, rfl, hsame⟩ := h.done hstep
      obtain ⟨used', hne, rfl, hsame'⟩ := (hnext first mid).failed hfailed hfound
      refine ⟨used ++ used', by simp [hne], (List.append_assoc ..).symm, fun rest' ↦ ?_⟩
      rw [List.append_assoc, hsame _ (head?_append_eq (.inl hne))]
      exact hsame' rest'

theorem map (f : α → β) (h : Local step items) : Local (fun items ↦ (step items).map f) items := by
  refine (h.andThen (fun value ↦ .done (f value)) fun value ↦ pure (f value)).congr
    fun items' _ ↦ ?_
  cases step items' <;> rfl

theorem release (cost : Nat) (h : Local step items) :
    Local (fun items ↦ (step items).release cost) items := by
  constructor
  · intro value rest hdone
    cases hstep : step items with
    | failed error rest' depth =>
      rw [hstep] at hdone
      cases hdone
    | done first mid =>
      rw [hstep] at hdone
      cases hdone
      obtain ⟨used, hitems, hsame⟩ := h.done hstep
      refine ⟨used, hitems, fun rest' hhead ↦ ?_⟩
      rw [hsame rest' hhead]
      rfl
  · intro error rest depth hfailed hfound
    cases hstep : step items with
    | done first mid =>
      rw [hstep] at hfailed
      cases hfailed
    | failed error' rest' depth' =>
      rw [hstep] at hfailed
      cases hfailed
      obtain ⟨used, hne, hitems, hsame⟩ := h.failed hstep hfound
      refine ⟨used, hne, hitems, fun rest' ↦ ?_⟩
      rw [hsame rest']
      rfl

end Local

/-! ## Each step, if the steps below it are local -/

section Steps

variable {bounds : Bounds} {depth lower : Nat}

theorem local_expect (symbol : String) (bounds : Bounds) (depth : Nat) (items : List Item) :
    Local (Items.expect symbol bounds depth) items := by
  match items with
  | [] => exact .of_failed rfl rfl
  | .error _ :: _ => exact .of_failed rfl rfl
  | .token t :: rest =>
    by_cases hsymbol : t.token.isSymbol symbol = true
    · exact (Local.pure () rest).cons fun items' ↦ if_pos hsymbol
    · exact .failed_cons fun items' ↦ if_neg hsymbol

theorem local_operator? (accepts : BinaryOp → Bool) (depth : Nat) (items : List Item) :
    Local (Items.operator? accepts depth) items := by
  match items with
  | [] =>
    refine (Local.pure none []).congr fun items' hhead ↦ ?_
    rw [List.head?_eq_none_iff.1 hhead]
    rfl
  | .error _ :: _ => exact .of_failed rfl rfl
  | .token t :: rest =>
    cases hop : t.token.operator?.filter accepts with
    | some op =>
      refine (Local.pure (some op) rest).cons fun items' ↦ ?_
      simp only [Items.operator?, hop]
    | none =>
      refine (Local.pure none _).congr fun items' hhead ↦ ?_
      obtain ⟨rest', rfl⟩ := List.head?_eq_some_iff.1 hhead
      simp only [Items.operator?, hop]

theorem local_parseOperand
    (h : depth + 1 ≤ bounds.budget → ∀ items, Local (parseUnary bounds (depth + 1)) items)
    (items : List Item) : Local (parseOperand bounds depth) items := by
  by_cases hfits : depth + 1 ≤ bounds.budget
  · refine ((h hfits items).release 1).congr fun items' _ ↦ ?_
    rw [parseOperand, if_pos hfits]
  · refine (Local.tooDeep bounds (depth + 1) items).congr fun items' _ ↦ ?_
    rw [parseOperand, if_neg hfits]

theorem local_parseExpression
    (h : depth + groupCost ≤ bounds.budget → ∀ items,
      Local (parseTier BinaryOp.loosestTier bounds (depth + groupCost)) items)
    (items : List Item) : Local (parseExpression bounds depth) items := by
  by_cases hfits : depth + groupCost ≤ bounds.budget
  · refine ((h hfits items).release groupCost).congr fun items' _ ↦ ?_
    rw [parseExpression, if_pos hfits]
  · refine (Local.tooDeep bounds (depth + groupCost) items).congr fun items' _ ↦ ?_
    rw [parseExpression, if_neg hfits]

theorem local_parseVariable (items : List Item) : Local (parseVariable bounds depth) items := by
  match items with
  | [] => exact .of_failed rfl rfl
  | .error _ :: _ => exact .of_failed rfl rfl
  | .token t :: rest =>
    cases hindex : variableIndex? t.token with
    | some index =>
      refine ((local_expect "\x7d" bounds depth rest).map fun _ ↦ .var index).cons fun items' ↦ ?_
      simp only [parseVariable, hindex]
    | none =>
      have hstep : ∀ items', parseVariable bounds depth (.token t :: items') =
          .failed (.invalidVariableIndex t.token.text t.position) items' depth := fun items' ↦ by
        simp only [parseVariable, hindex]
      exact .failed_cons hstep

theorem local_parseParenthesized
    (hoperand : ∀ items, Local (parseOperand bounds depth) items)
    (hexpression : ∀ items, Local (parseExpression bounds depth) items)
    (items : List Item) : Local (parseParenthesized bounds depth) items := by
  have hgroup : (∀ t, items.head? = some (.token t) → t.token.kind ≠ .word) →
      (∀ e, items.head? ≠ some (.error e)) → Local (parseParenthesized bounds depth) items := by
    intro hword herror
    have hinner := (hexpression items).andThen
      (fun inner rest ↦ (Items.expect ")" bounds depth rest).map fun _ ↦ inner)
      fun inner rest ↦ (local_expect ")" bounds depth rest).map fun _ ↦ inner
    refine hinner.congr fun items' hhead ↦ ?_
    exact parseParenthesized_of_group (by rwa [hhead]) (by rwa [hhead])
  match items with
  | [] => exact hgroup (by simp) (by simp)
  | .error _ :: _ => exact .of_failed (by rw [parseParenthesized]) rfl
  | .token ⟨⟨.word, text⟩, position⟩ :: rest =>
    cases hname : ValueType.ofCastName? text with
    | some type =>
      have hcast := (local_expect ")" bounds depth rest).andThen
        (fun _ rest ↦ (parseOperand bounds depth rest).map (Expr.cast type))
        fun _ rest ↦ (hoperand rest).map (Expr.cast type)
      refine hcast.cons fun items' ↦ ?_
      simp only [parseParenthesized, parseCastType, hname]
      cases Items.expect ")" bounds depth items' <;> rfl
    | none =>
      have hstep : ∀ items',
          parseParenthesized bounds depth (.token ⟨⟨.word, text⟩, position⟩ :: items') =
            .failed (.unknownCastType text position) items' depth := fun items' ↦ by
        simp only [parseParenthesized, parseCastType, hname]
      exact .failed_cons hstep
  | .token ⟨⟨.symbol, _⟩, _⟩ :: _ => exact hgroup (by simp) (by simp)
  | .token ⟨⟨.number, _⟩, _⟩ :: _ => exact hgroup (by simp) (by simp)
  | .token ⟨⟨.string, _⟩, _⟩ :: _ => exact hgroup (by simp) (by simp)

theorem local_parseBase
    (h : ∀ items, Local (parseParenthesized bounds depth) items)
    (items : List Item) : Local (parseBase bounds depth) items := by
  match items with
  | [] => exact .of_failed (by rw [parseBase]) rfl
  | .error _ :: _ => exact .of_failed (by rw [parseBase]) rfl
  | .token ⟨⟨.number, text⟩, position⟩ :: rest =>
    cases hread : NumberLiteral.read? text.toList with
    | some v => exact (Local.pure (.const v) rest).cons fun items' ↦ by simp only [parseBase, hread]
    | none =>
      have hstep : ∀ items', parseBase bounds depth (.token ⟨⟨.number, text⟩, position⟩ :: items') =
          .failed (.invalidNumber text position) items' depth := fun items' ↦ by
        simp only [parseBase, hread]
      exact .failed_cons hstep
  | .token ⟨⟨.string, text⟩, position⟩ :: rest =>
    exact (Local.pure (.const (.string text)) rest).cons fun items' ↦ by simp only [parseBase]
  | .token ⟨⟨.word, text⟩, position⟩ :: rest =>
    by_cases hnull : text = "null"
    · have hstep : ∀ items', parseBase bounds depth (.token ⟨⟨.word, text⟩, position⟩ :: items') =
          .done (.const .null) items' := fun items' ↦ by simp only [parseBase, if_pos hnull]
      exact (Local.pure (.const .null) rest).cons hstep
    · have hstep : ∀ items', parseBase bounds depth (.token ⟨⟨.word, text⟩, position⟩ :: items') =
          .failed (.unexpectedInput text position) items' depth := fun items' ↦ by
        simp only [parseBase, if_neg hnull]
      exact .failed_cons hstep
  | .token ⟨⟨.symbol, text⟩, position⟩ :: rest =>
    by_cases hparen : text = "("
    · exact (h rest).cons fun items' ↦ by simp only [parseBase, if_pos hparen]
    by_cases hcurly : text = "\x7b"
    · have hvariable : Local (parseVariable bounds depth) rest := local_parseVariable rest
      exact hvariable.cons fun items' ↦ by simp only [parseBase, if_neg hparen, if_pos hcurly]
    · have hstep : ∀ items', parseBase bounds depth (.token ⟨⟨.symbol, text⟩, position⟩ :: items') =
          .failed (.expectedExpression text position) items' depth := fun items' ↦ by
        simp only [parseBase, if_neg hparen, if_neg hcurly]
      exact .failed_cons hstep

theorem local_parseUnary
    (hoperand : ∀ items, Local (parseOperand bounds depth) items)
    (hbase : ∀ items, Local (parseBase bounds depth) items)
    (items : List Item) : Local (parseUnary bounds depth) items := by
  match items with
  | [] =>
    refine (hbase []).congr fun items' hhead ↦ ?_
    rw [List.head?_eq_none_iff.1 hhead, parseUnary]
  | .error _ :: _ => exact .of_failed (by rw [parseUnary]) rfl
  | .token t :: rest =>
    cases hlead : lead? t.token with
    | none =>
      refine (hbase (.token t :: rest)).congr fun items' hhead ↦ ?_
      obtain ⟨rest', rfl⟩ := List.head?_eq_some_iff.1 hhead
      simp only [parseUnary, hlead]
    | some lead =>
      cases lead with
      | operator op =>
        exact ((hoperand rest).map (.unary op)).cons fun items' ↦ by simp only [parseUnary, hlead]
      | plus => exact (hoperand rest).cons fun items' ↦ by simp only [parseUnary, hlead]
      | truth b =>
        exact (Local.pure (.const (.boolean b)) rest).cons fun items' ↦ by
          simp only [parseUnary, hlead]

theorem local_parseComparison
    (h : ∀ items, Local (parseTier lower bounds depth) items) (left : Expr) (items : List Item) :
    Local (parseComparison lower bounds depth left) items := by
  refine ((local_operator? (fun op ↦ op.tier == lower + 1) depth items).andThen _
    fun op? rest ↦ ?_).congr fun _ _ ↦ parseComparison_eq
  cases op? with
  | none => exact .pure left rest
  | some op => exact (h rest).map _

/-- The chain after its first operand; the induction is on the nesting that is left. -/
theorem local_parseChain
    (h : ∀ spent, depth < spent → spent ≤ bounds.budget → ∀ items,
      Local (parseTier lower bounds spent) items)
    (left : Expr) (items : List Item) : Local (parseChain lower bounds depth left) items := by
  induction hbudget : bounds.budget - depth using Nat.strongRecOn generalizing depth left items with
  | _ budget ih =>
  refine ((local_operator? (fun op ↦ op.tier == lower + 1) depth items).andThen _
    fun op? rest ↦ ?_).congr fun _ _ ↦ parseChain_eq
  cases op? with
  | none => exact .pure left rest
  | some op =>
    by_cases hfits : depth + 1 ≤ bounds.budget
    · simp only [if_pos hfits]
      refine (h (depth + 1) (by omega) hfits rest).andThen _ fun right rest ↦ ?_
      exact ih _ (by omega) (fun spent hlt ↦ h spent (by omega)) _ rest rfl
    · simp only [if_neg hfits]
      exact .tooDeep bounds (depth + 1) rest

/-- A tier: the induction is on the tier. -/
theorem local_parseTier
    (hunary : ∀ items, Local (parseUnary bounds depth) items)
    (hdeeper : ∀ spent, depth < spent → spent ≤ bounds.budget → ∀ tier items,
      Local (parseTier tier bounds spent) items)
    (tier : Nat) (items : List Item) : Local (parseTier tier bounds depth) items := by
  induction tier generalizing items with
  | zero => exact (hunary items).congr fun items' _ ↦ by rw [parseTier]
  | succ lower ih =>
    refine ((ih items).andThen _ fun left rest ↦ ?_).congr fun _ _ ↦ parseTier_succ
    by_cases htier : lower + 1 = BinaryOp.relationalTier
    · simp only [if_pos htier]
      exact local_parseComparison ih left rest
    · simp only [if_neg htier]
      exact local_parseChain (fun spent hlt hle ↦ hdeeper spent hlt hle lower) left rest

end Steps

/-! ## All steps -/

/-- **Every step of the parser is local**, whatever nesting is in use. -/
theorem isLocal (bounds : Bounds) (depth : Nat) :
    (∀ items, Local (parseUnary bounds depth) items) ∧
    (∀ tier items, Local (parseTier tier bounds depth) items) ∧
    ∀ items, Local (parseExpression bounds depth) items :=
  steps_induction (fun _ ↦ local_parseOperand) (fun _ ↦ local_parseExpression)
    (fun _ ↦ local_parseParenthesized) (fun _ ↦ local_parseBase) (fun _ ↦ local_parseUnary)
    (fun _ ↦ local_parseTier) depth

/-- **Every level is local.** -/
theorem local_parseLevel (level : Level) (bounds : Bounds) (depth : Nat) (items : List Item) :
    Local (parseLevel level bounds depth) items := by
  obtain ⟨hunary, htier, hexpression⟩ := isLocal bounds depth
  cases level with
  | expression => exact hexpression items
  | tier k => exact htier k items
  | unary => exact hunary items
  | base =>
    have hoperand : ∀ items, Local (parseOperand bounds depth) items :=
      local_parseOperand fun _ ↦ (isLocal bounds (depth + 1)).1
    exact local_parseBase (local_parseParenthesized hoperand hexpression) items

end Parser

end Formula
