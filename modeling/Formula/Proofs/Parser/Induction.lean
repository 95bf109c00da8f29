import Formula.Proofs.Parser.Steps

/-!
# Induction over the steps of the parser

The steps of the parser call each other in a circle, which ends because some of the calls go deeper.
`steps_induction` is the induction that this makes: a property of all steps is shown of each step
from the steps that it calls.  What a tier calls one level deeper are tiers again, as a chain has
operands of any nesting.
-/

set_option autoImplicit false

namespace Formula.Parser

/-- **Induction over the steps**, each property as one of the nesting in use.  It is by the nesting
that is left; the calls at the same nesting go from the tiers down to what stands in parentheses. -/
theorem steps_induction {budget : Nat} {unary operand base parenthesized expression : Nat → Prop}
    {tier : Nat → Nat → Prop}
    (hoperand : ∀ depth, (depth + 1 ≤ budget → unary (depth + 1)) → operand depth)
    (hexpression : ∀ depth,
      (depth + groupCost ≤ budget → tier BinaryOp.loosestTier (depth + groupCost)) →
      expression depth)
    (hparenthesized : ∀ depth, operand depth → expression depth → parenthesized depth)
    (hbase : ∀ depth, parenthesized depth → base depth)
    (hunary : ∀ depth, operand depth → base depth → unary depth)
    (htier : ∀ depth, unary depth →
      (∀ spent, depth < spent → spent ≤ budget → ∀ k, tier k spent) → ∀ k, tier k depth)
    (depth : Nat) : unary depth ∧ (∀ k, tier k depth) ∧ expression depth := by
  induction hleft : budget - depth using Nat.strongRecOn generalizing depth with
  | _ left ih =>
  have hdeeper : ∀ spent, depth < spent → spent ≤ budget → _ := fun spent hlt hle ↦
    ih (budget - spent) (by omega) spent rfl
  have hpos : 0 < groupCost := by decide
  have operandHere := hoperand depth fun hfits ↦ (hdeeper (depth + 1) (by omega) hfits).1
  have expressionHere := hexpression depth fun hfits ↦
    (hdeeper (depth + groupCost) (by omega) hfits).2.1 BinaryOp.loosestTier
  have baseHere := hbase depth (hparenthesized depth operandHere expressionHere)
  have unaryHere := hunary depth operandHere baseHere
  exact ⟨unaryHere, htier depth unaryHere fun spent hlt hle ↦ (hdeeper spent hlt hle).2.1,
    expressionHere⟩

end Formula.Parser
