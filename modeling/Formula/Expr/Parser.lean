import Formula.Expr.Basic
import Formula.Expr.Stream
import Formula.Value.NumberLiteral

/-!
# From tokens to expressions

```text
expression := tier 10
tier k     := tier (k-1) (operator of tier k, tier (k-1))*      for k = 1 … 10
tier 0     := unary
unary      := ("-" | "+" | "!" | "~") unary | "true" | "false" | base
base       := number | string | "null"
            | "(" word ")" unary | "(" expression ")" | "{" number "}"
```

The operators of one tier group to the left.  The tier of the comparisons by order is an exception:
it takes one operator at most, so that `1 < 2 < 3` is left with a second one.  A word after an
opening parenthesis always begins a cast.

Every group, every operand of a prefix operator or a cast, and every operator of a chain deepens
the nesting, which is spent on the stream before and given back when the construct ends.  A chain
that fails is the exception and keeps what it has spent.

The recursion ends since no parse leaves more items than it found, which is part of what each of
them returns (`TokenStream.Onward`): a call is made on less items, or on no more of them and from a
looser construct to a tighter one.
-/

set_option autoImplicit false

namespace Formula

namespace Parser

/-! ## Leaves -/

/-- What a token at the head of an operand is as a prefix. -/
inductive Lead where
  | operator (op : UnaryOp)
  | plus
  | truth (b : Bool)
  deriving DecidableEq, Repr

/-- The prefix that a token is, if it is one. -/
def lead? (t : Token) : Option Lead :=
  match t.kind with
  | .symbol => if t.text = "+" then some .plus else (UnaryOp.ofSymbol? t.text).map .operator
  | .word =>
    if t.text = "true" then some (.truth true)
    else if t.text = "false" then some (.truth false)
    else none
  | _ => none

/-- The index that a token between curly brackets is: a 32-bit integer that is not negative. -/
def variableIndex? (t : Token) : Option Nat :=
  if t.kind = .number then
    match NumberLiteral.read? t.text.toList with
    | some (.int32 n) => if 0 ≤ n.toInt then some n.toInt.toNat else none
    | _ => none
  else none

/-- The levels of the grammar that a parse can begin at. -/
inductive Level where
  | expression
  | tier (tier : Nat)
  | unary
  | base
  deriving DecidableEq, Repr

end Parser

namespace TokenStream

/-! ## Answers that leave no more items -/

/-- An answer and the stream then, on which there are no more items than on a given one. -/
abbrev Onward (s : TokenStream) (α : Type) : Type :=
  { found : Except ParseError α × TokenStream // found.2.items.length ≤ s.items.length }

namespace Onward

variable {s s' : TokenStream} {α β : Type}

/-- The same from a stream with no less items. -/
def weaken (found : Onward s' α) (h : s'.items.length ≤ s.items.length) : Onward s α :=
  ⟨found.val, Nat.le_trans found.property h⟩

/-- An answer on the stream as it is. -/
def answer (reply : Except ParseError α) (s : TokenStream) : Onward s α :=
  ⟨(reply, s), Nat.le_refl _⟩

/-- Another value made of the one that is found. -/
def map (f : α → β) (found : Onward s α) : Onward s β :=
  ⟨(found.val.1.map f, found.val.2), found.property⟩

/-- Gives nesting back, whatever was found. -/
def ascend (cost : Nat) (found : Onward s α) : Onward s α :=
  ⟨(found.val.1, found.val.2.ascend cost), found.property⟩

/-- Goes on with what is found; an error is passed on. -/
def andThen (found : Onward s α)
    (next : α → (s' : TokenStream) → s'.items.length ≤ s.items.length → Onward s' β) : Onward s β :=
  match found with
  | ⟨(.error e, s'), h⟩ => ⟨(.error e, s'), h⟩
  | ⟨(.ok value, s'), h⟩ => (next value s' h).weaken h

end Onward

/-- Asks something of the stream and goes on with the answer; an error is passed on. -/
def asking {α β : Type} {s : TokenStream} (found : Except ParseError α × TokenStream)
    (h : found.2.items.length ≤ s.items.length)
    (next : (value : α) → (s' : TokenStream) → found = (.ok value, s') →
      s'.items.length ≤ s.items.length → Onward s' β) : Onward s β :=
  match found with
  | (.error e, s') => ⟨(.error e, s'), h⟩
  | (.ok value, s') => (next value s' rfl h).weaken h

/-! ## The constructs of the grammar -/

/-- A variable, from what follows its opening bracket. -/
def parseVariable (s : TokenStream) : Onward s Expr :=
  asking s.nextRequired s.length_nextRequired fun t s _ _ ↦
    match Parser.variableIndex? t.token with
    | some index =>
      asking (s.expectSymbol "\x7d") (s.length_expectSymbol _) fun _ s _ _ ↦
        .answer (.ok (.var index)) s
    | none => .answer (.error (.invalidVariableIndex t.token.text t.position)) s

mutual

/-- A whole expression; it takes the nesting of a group. -/
def parseExpression (s : TokenStream) : Onward s Expr :=
  asking (s.descend groupCost) (s.length_descend _) fun _ s' _ _ ↦
    (parseTier BinaryOp.loosestTier s').ascend groupCost
termination_by (s.items.length, 2 * BinaryOp.loosestTier + 5)
decreasing_by all_goals grind

/-- An expression without operators looser than a tier. -/
def parseTier (tier : Nat) (s : TokenStream) : Onward s Expr :=
  match tier with
  | 0 => parseUnary s
  | lower + 1 =>
    (parseTier lower s).andThen fun left s' _ ↦
      if lower + 1 = BinaryOp.relationalTier then parseComparison lower left s'
      else parseChain lower 0 left s'
termination_by (s.items.length, 2 * tier + 4)
decreasing_by all_goals grind

/-- What follows the left operand of a comparison by order: one operator at most. -/
def parseComparison (lower : Nat) (left : Expr) (s : TokenStream) : Onward s Expr :=
  asking (s.nextOperatorIf fun op ↦ op.tier == lower + 1) (s.length_nextOperatorIf _) fun
    | none, s', _, _ => .answer (.ok left) s'
    | some op, s', h, _ =>
      have := length_lt_of_nextOperatorIf h
      (parseTier lower s').map (.binary op left)
termination_by (s.items.length, 2 * lower + 5)
decreasing_by all_goals grind

/-- What follows the operands of a chain so far, of which `taken` operators have been spent on.
They are given back when the chain ends. -/
def parseChain (lower taken : Nat) (left : Expr) (s : TokenStream) : Onward s Expr :=
  asking (s.nextOperatorIf fun op ↦ op.tier == lower + 1) (s.length_nextOperatorIf _) fun
    | none, s', _, _ => .answer (.ok left) (s'.ascend taken)
    | some op, s', h, _ =>
      have := length_lt_of_nextOperatorIf h
      asking (s'.descend 1) (s'.length_descend _) fun _ s'' _ _ ↦
        (parseTier lower s'').andThen fun right s''' _ ↦
          parseChain lower (taken + 1) (.binary op left right) s'''
termination_by (s.items.length, 2 * lower + 5)
decreasing_by all_goals grind

/-- An operand with its prefix operators. -/
def parseUnary (s : TokenStream) : Onward s Expr :=
  asking s.peek s.length_peek fun seen s' h _ ↦
    match hlead : seen.bind fun t ↦ Parser.lead? t.token with
    | none => parseBase s'
    | some lead =>
      asking s'.next s'.length_next fun _ s'' h' _ ↦
        have : s''.items.length < s.items.length := by
          obtain ⟨t, rfl, -⟩ := Option.bind_eq_some_iff.1 hlead
          exact length_lt_of_peek h h'
        match lead with
        | .operator op => (parseNestedUnary s'').map (.unary op)
        | .plus => parseNestedUnary s''
        | .truth b => .answer (.ok (.const (.boolean b))) s''
termination_by (s.items.length, 2)
decreasing_by all_goals grind

/-- The operand of a prefix operator or a cast, one level deeper. -/
def parseNestedUnary (s : TokenStream) : Onward s Expr :=
  asking (s.descend 1) (s.length_descend _) fun _ s' _ _ ↦
    (parseUnary s').ascend 1
termination_by (s.items.length, 3)
decreasing_by all_goals grind

/-- An operand that is one token, or in brackets. -/
def parseBase (s : TokenStream) : Onward s Expr :=
  asking s.nextRequired s.length_nextRequired fun t s' h _ ↦
    have := length_lt_of_nextRequired h
    match t.token.kind with
    | .number =>
      match NumberLiteral.read? t.token.text.toList with
      | some value => .answer (.ok (.const value)) s'
      | none => .answer (.error (.invalidNumber t.token.text t.position)) s'
    | .string => .answer (.ok (.const (.string t.token.text))) s'
    | .word =>
      if t.token.text = "null" then .answer (.ok (.const .null)) s'
      else .answer (.error (.unexpectedInput t.token.text t.position)) s'
    | .symbol =>
      if t.token.text = "(" then parseParenthesized s'
      else if t.token.text = "\x7b" then parseVariable s'
      else .answer (.error (.expectedExpression t.token.text t.position)) s'
termination_by (s.items.length, 1)
decreasing_by all_goals grind

/-- What follows an opening parenthesis: a cast if it is a word, and otherwise a group. -/
def parseParenthesized (s : TokenStream) : Onward s Expr :=
  asking s.peek s.length_peek fun seen s' _ _ ↦
    if seen.any (·.token.kind = .word) then parseCast s'
    else
      (parseExpression s').andThen fun inner s'' _ ↦
        asking (s''.expectSymbol ")") (s''.length_expectSymbol _) fun _ s''' _ _ ↦
          .answer (.ok inner) s'''
termination_by (s.items.length, 2 * BinaryOp.loosestTier + 6)
decreasing_by all_goals grind

/-- What follows the opening parenthesis of a cast. -/
def parseCast (s : TokenStream) : Onward s Expr :=
  asking s.nextRequired s.length_nextRequired fun t s' h _ ↦
    have := length_lt_of_nextRequired h
    match ValueType.ofCastName? t.token.text with
    | none => .answer (.error (.unknownCastType t.token.text t.position)) s'
    | some type =>
      asking (s'.expectSymbol ")") (s'.length_expectSymbol _) fun _ s'' _ _ ↦
        (parseNestedUnary s'').map (.cast type)
termination_by (s.items.length, 4)
decreasing_by all_goals grind

end

/-- Takes an expression of a level. -/
def parse (level : Parser.Level) (s : TokenStream) : Except ParseError Expr × TokenStream :=
  match level with
  | .expression => s.parseExpression.val
  | .tier tier => (s.parseTier tier).val
  | .unary => s.parseUnary.val
  | .base => s.parseBase.val

end TokenStream

/-- The expression that a whole source text is. -/
def Expr.parse (source : String) : Except ParseError Expr :=
  match (TokenStream.ofSource source).parse .expression with
  | (.error e, _) => .error e
  | (.ok e, s) =>
    match s.next with
    | (.error e, _) => .error e
    | (.ok none, _) => .ok e
    | (.ok (some t), _) => .error (.unexpectedInput t.token.text t.position)

end Formula
