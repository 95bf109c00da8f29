import Formula.Proofs.Parser.Agreement
import Formula.Proofs.Parser.Locality
import Formula.Proofs.Token.Layout

/-!
# Positions are only reported

The parser decides nothing by where a token stands: it copies positions into its errors and does not
look at them.  So a step over items whose positions are moved comes to the same, with the positions
of its error and of what remains moved likewise.  `Relocates` is that statement about one step.
There is one lemma for each step of the parser, under the assumption that the steps it calls have
the property, and `relocates` puts them together.

The positions may be moved by any function at all, also by one that puts tokens in another order or
two of them in one place.
-/

set_option autoImplicit false

namespace Formula

/-! ## Errors and outcomes at other positions -/

/-- The same error at a position. -/
def ParseError.moveTo (position : Nat) : ParseError → ParseError
  | lexical cause => lexical (cause.moveTo position)
  | unexpectedEnd _ => unexpectedEnd position
  | expectedToken expected found _ => expectedToken expected found position
  | expectedExpression found _ => expectedExpression found position
  | unknownCastType name _ => unknownCastType name position
  | invalidNumber text _ => invalidNumber text position
  | invalidVariableIndex text _ => invalidVariableIndex text position
  | nestingTooDeep _ => nestingTooDeep position
  | unexpectedInput found _ => unexpectedInput found position

@[simp] theorem LexError.position_moveTo (p : Nat) (e : LexError) : (e.moveTo p).position = p := by
  cases e <;> rfl

@[simp] theorem LexError.moveTo_moveTo (p q : Nat) (e : LexError) :
    (e.moveTo p).moveTo q = e.moveTo q := by
  cases e <;> rfl

namespace ParseError

@[simp] theorem position_moveTo (p : Nat) (e : ParseError) : (e.moveTo p).position = p := by
  cases e with
  | lexical cause => exact cause.position_moveTo p
  | _ => rfl

@[simp] theorem moveTo_moveTo (p q : Nat) (e : ParseError) :
    (e.moveTo p).moveTo q = e.moveTo q := by
  cases e with
  | lexical cause => exact congrArg lexical (cause.moveTo_moveTo p q)
  | _ => rfl

/-- The same error where its position is moved. -/
def relocate (f : Nat → Nat) (e : ParseError) : ParseError := e.moveTo (f e.position)

end ParseError

namespace Outcome

variable {α β : Type} {f : Nat → Nat}

/-- The same outcome where all positions are moved. -/
def relocate (f : Nat → Nat) : Outcome α → Outcome α
  | done value rest => done value (rest.map (.relocate f))
  | failed error rest depth => failed (error.relocate f) (rest.map (.relocate f)) depth

@[simp] theorem relocate_done (value : α) (rest : List Item) :
    (done value rest).relocate f = done value (rest.map (.relocate f)) := rfl

theorem relocate_map (g : α → β) (o : Outcome α) :
    (o.relocate f).map g = (o.map g).relocate f := by
  cases o <;> rfl

theorem relocate_release (cost : Nat) (o : Outcome α) :
    (o.relocate f).release cost = (o.release cost).relocate f := by
  cases o <;> rfl

end Outcome

/-- The bounds of a text that ends elsewhere. -/
def Bounds.relocate (f : Nat → Nat) (bounds : Bounds) : Bounds :=
  { bounds with stop := f bounds.stop }

@[simp] theorem Bounds.budget_relocate (f : Nat → Nat) (bounds : Bounds) :
    (bounds.relocate f).budget = bounds.budget := rfl

namespace Parser

/-! ## One step -/

/-- Whether a step comes to the same where all positions are moved, that of the end too. -/
def Relocates {α : Type} (f : Nat → Nat) (bounds : Bounds)
    (step : Bounds → Nat → List Item → Outcome α) (depth : Nat) : Prop :=
  ∀ items, step (bounds.relocate f) depth (items.map (.relocate f)) =
    (step bounds depth items).relocate f

section Steps

variable {f : Nat → Nat} {bounds : Bounds} {depth lower : Nat}

theorem relocates_tooDeep (α : Type) : Relocates f bounds (Items.tooDeep (α := α)) depth := by
  intro items
  match items with
  | [] | .error _ :: _ | .token _ :: _ => rfl

theorem relocates_expect (symbol : String) : Relocates f bounds (Items.expect symbol) depth := by
  intro items
  match items with
  | [] | .error _ :: _ => rfl
  | .token t :: rest =>
    simp only [List.map_cons, Item.relocate, PlacedToken.relocate, Items.expect]
    split <;> rfl

theorem operator?_relocate (accepts : BinaryOp → Bool) (items : List Item) :
    Items.operator? accepts depth (items.map (.relocate f)) =
      (Items.operator? accepts depth items).relocate f := by
  match items with
  | [] | .error _ :: _ => rfl
  | .token t :: rest =>
    simp only [List.map_cons, Item.relocate, PlacedToken.relocate, Items.operator?]
    split <;> rfl

theorem relocates_parseOperand
    (h : depth + 1 ≤ bounds.budget → Relocates f bounds parseUnary (depth + 1)) :
    Relocates f bounds parseOperand depth := by
  intro items
  rw [parseOperand, parseOperand, Bounds.budget_relocate]
  split
  · rename_i hfits
    rw [h hfits, Outcome.relocate_release]
  · exact relocates_tooDeep Expr items

theorem relocates_parseExpression
    (h : depth + groupCost ≤ bounds.budget →
      Relocates f bounds (parseTier BinaryOp.loosestTier) (depth + groupCost)) :
    Relocates f bounds parseExpression depth := by
  intro items
  rw [parseExpression, parseExpression, Bounds.budget_relocate]
  split
  · rename_i hfits
    rw [h hfits, Outcome.relocate_release]
  · exact relocates_tooDeep Expr items

theorem relocates_parseVariable : Relocates f bounds parseVariable depth := by
  intro items
  match items with
  | [] | .error _ :: _ => rfl
  | .token t :: rest =>
    simp only [List.map_cons, Item.relocate, PlacedToken.relocate, parseVariable]
    split
    · rw [relocates_expect, Outcome.relocate_map]
    · rfl

theorem parseCastType_relocate (t : PlacedToken) (bounds : Bounds) (rest : List Item) :
    parseCastType (t.relocate f) (bounds.relocate f) depth (rest.map (.relocate f)) =
      (parseCastType t bounds depth rest).relocate f := by
  simp only [PlacedToken.relocate, parseCastType]
  split
  · rw [relocates_expect, Outcome.relocate_map]
  · rfl

/-- Behind an opening parenthesis a group begins at the one position if it does at the other. -/
theorem parseParenthesized_group_relocate (hexpression : Relocates f bounds parseExpression depth)
    {items : List Item}
    (hword : ∀ t, items.head? = some (.token t) → t.token.kind ≠ .word)
    (herror : ∀ e, items.head? ≠ some (.error e)) :
    parseParenthesized (bounds.relocate f) depth (items.map (.relocate f)) =
      (parseParenthesized bounds depth items).relocate f := by
  have hword' : ∀ t, (items.map (Item.relocate f)).head? = some (.token t) →
      t.token.kind ≠ .word := by
    intro t ht
    rw [List.head?_map] at ht
    obtain ⟨i, hi, hmoved⟩ := Option.map_eq_some_iff.1 ht
    cases i <;> cases hmoved
    have hkind := hword _ hi
    exact hkind
  have herror' : ∀ e, (items.map (Item.relocate f)).head? ≠ some (.error e) := by
    intro e he
    rw [List.head?_map] at he
    obtain ⟨i, hi, hmoved⟩ := Option.map_eq_some_iff.1 he
    cases i <;> cases hmoved
    exact herror _ hi
  rw [parseParenthesized_of_group hword' herror', parseParenthesized_of_group hword herror,
    hexpression]
  cases parseExpression bounds depth items with
  | failed => rfl
  | done inner rest =>
    simp only [Outcome.relocate_done, Outcome.andThen]
    rw [relocates_expect, Outcome.relocate_map]

theorem relocates_parseParenthesized (hoperand : Relocates f bounds parseOperand depth)
    (hexpression : Relocates f bounds parseExpression depth) :
    Relocates f bounds parseParenthesized depth := by
  intro items
  match items with
  | [] => exact parseParenthesized_group_relocate hexpression (by simp) (by simp)
  | .error _ :: _ =>
    rw [List.map_cons, Item.relocate, parseParenthesized, parseParenthesized]
    rfl
  | .token ⟨⟨.word, text⟩, position⟩ :: rest =>
    have hcast :
        parseCastType ⟨⟨.word, text⟩, f position⟩ (bounds.relocate f) depth
            (rest.map (.relocate f)) =
          (parseCastType ⟨⟨.word, text⟩, position⟩ bounds depth rest).relocate f :=
      parseCastType_relocate (f := f) ⟨⟨.word, text⟩, position⟩ bounds rest
    rw [List.map_cons, Item.relocate, PlacedToken.relocate, parseParenthesized, parseParenthesized,
      hcast]
    cases parseCastType ⟨⟨.word, text⟩, position⟩ bounds depth rest with
    | failed => rfl
    | done type rest =>
      simp only [Outcome.relocate_done]
      rw [hoperand, Outcome.relocate_map]
  | .token ⟨⟨.symbol, _⟩, _⟩ :: _ | .token ⟨⟨.number, _⟩, _⟩ :: _
  | .token ⟨⟨.string, _⟩, _⟩ :: _ =>
    exact parseParenthesized_group_relocate hexpression (by simp) (by simp)

theorem relocates_parseBase (h : Relocates f bounds parseParenthesized depth) :
    Relocates f bounds parseBase depth := by
  intro items
  match items with
  | [] =>
    rw [List.map_nil, parseBase, parseBase]
    rfl
  | .error e :: rest =>
    rw [List.map_cons, Item.relocate, parseBase, parseBase]
    rfl
  | .token ⟨⟨kind, text⟩, position⟩ :: rest =>
    simp only [List.map_cons, Item.relocate, PlacedToken.relocate, parseBase]
    cases kind with
    | number =>
      simp only
      split <;> rfl
    | string => rfl
    | word =>
      simp only
      split <;> rfl
    | symbol =>
      simp only
      split
      · exact h rest
      split
      · exact relocates_parseVariable rest
      · rfl

theorem relocates_parseUnary (hoperand : Relocates f bounds parseOperand depth)
    (hbase : Relocates f bounds parseBase depth) : Relocates f bounds parseUnary depth := by
  intro items
  match items with
  | [] =>
    rw [List.map_nil, parseUnary, parseUnary]
    exact hbase []
  | .error e :: rest =>
    rw [List.map_cons, Item.relocate, parseUnary, parseUnary]
    rfl
  | .token t :: rest =>
    simp only [List.map_cons, Item.relocate, PlacedToken.relocate, parseUnary]
    cases lead? t.token with
    | none => exact hbase (.token t :: rest)
    | some lead =>
      cases lead with
      | operator op =>
        simp only
        rw [hoperand, Outcome.relocate_map]
      | plus => exact hoperand rest
      | truth b => rfl

theorem relocates_parseComparison (h : Relocates f bounds (parseTier lower) depth) (left : Expr) :
    Relocates f bounds (fun bounds depth ↦ parseComparison lower bounds depth left) depth := by
  intro items
  simp only [parseComparison, operator?_relocate]
  cases Items.operator? (fun op ↦ op.tier == lower + 1) depth items with
  | failed => rfl
  | done op? rest =>
    cases op? with
    | none => rfl
    | some op =>
      simp only [Outcome.relocate_done]
      rw [h, Outcome.relocate_map]

/-- The chain after its first operand; the induction is on the nesting that is left. -/
theorem relocates_parseChain
    (h : ∀ spent, depth < spent → spent ≤ bounds.budget →
      Relocates f bounds (parseTier lower) spent)
    (left : Expr) :
    Relocates f bounds (fun bounds depth ↦ parseChain lower bounds depth left) depth := by
  induction hbudget : bounds.budget - depth using Nat.strongRecOn generalizing depth left with
  | _ budget ih =>
  intro items
  simp only
  rw [parseChain, parseChain, operator?_relocate, Bounds.budget_relocate]
  cases Items.operator? (fun op ↦ op.tier == lower + 1) depth items with
  | failed => rfl
  | done op? rest =>
    cases op? with
    | none => rfl
    | some op =>
      simp only [Outcome.relocate_done]
      split
      · rename_i hfits
        rw [h (depth + 1) (by omega) hfits]
        cases parseTier lower bounds (depth + 1) rest with
        | failed => rfl
        | done right rest =>
          exact ih _ (by omega) (fun spent hlt ↦ h spent (by omega)) _ rfl rest
      · exact relocates_tooDeep Expr rest

/-- A tier: the induction is on the tier. -/
theorem relocates_parseTier (hunary : Relocates f bounds parseUnary depth)
    (hdeeper : ∀ spent, depth < spent → spent ≤ bounds.budget → ∀ tier,
      Relocates f bounds (parseTier tier) spent)
    (tier : Nat) : Relocates f bounds (parseTier tier) depth := by
  induction tier with
  | zero =>
    intro items
    rw [parseTier, parseTier, hunary]
  | succ lower ih =>
    intro items
    rw [parseTier, parseTier, ih]
    cases parseTier lower bounds depth items with
    | failed => rfl
    | done left rest =>
      simp only [Outcome.relocate_done]
      split
      · exact relocates_parseComparison ih left rest
      · exact relocates_parseChain (fun spent hlt hle ↦ hdeeper spent hlt hle lower) left rest

end Steps

/-! ## All steps -/

/-- **Every step of the parser comes to the same at other positions**, whatever nesting is in
use. -/
theorem relocates (f : Nat → Nat) (bounds : Bounds) (depth : Nat) :
    Relocates f bounds parseUnary depth ∧ (∀ tier, Relocates f bounds (parseTier tier) depth) ∧
      Relocates f bounds parseExpression depth :=
  steps_induction (fun _ ↦ relocates_parseOperand) (fun _ ↦ relocates_parseExpression)
    (fun _ ↦ relocates_parseParenthesized) (fun _ ↦ relocates_parseBase)
    (fun _ ↦ relocates_parseUnary) (fun _ ↦ relocates_parseTier) depth

/-! ## Whole texts -/

/-- What the parser makes of all items of a text that ends at `stop`. -/
def parseAll (stop : Nat) (items : List Item) : Except ParseError Expr :=
  match parseExpression { stop, budget := maxDepth } 0 items with
  | .failed error _ _ => .error error
  | .done e [] => .ok e
  | .done _ (.error cause :: _) => .error (.lexical cause)
  | .done _ (.token t :: _) => .error (.unexpectedInput t.token.text t.position)

theorem parseAll_items (source : String) :
    parseAll (Text.byteLength source.toList) (Lexer.items source) = Expr.parse source :=
  (Expr.parse_eq source).symm

/-- **A whole text comes to the same at other positions.** -/
theorem parseAll_relocate (f : Nat → Nat) (stop : Nat) (items : List Item) :
    parseAll (f stop) (items.map (.relocate f)) = (parseAll stop items).mapError (.relocate f) := by
  have hrelocates := (relocates f { stop, budget := maxDepth } 0).2.2 items
  rw [Bounds.relocate] at hrelocates
  rw [parseAll, parseAll, hrelocates]
  match parseExpression { stop, budget := maxDepth } 0 items with
  | .failed .. | .done _ [] | .done _ (.error _ :: _) | .done _ (.token _ :: _) => rfl

end Parser

end Formula
