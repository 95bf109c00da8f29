import Formula.Expr.Parser

/-!
# The parser as steps over items

The parser of `Formula.Expr.Parser` spends on its stream and gives back by hand.  Here it is without
a stream: a step is told the nesting in use and the items that remain, and its `Outcome` is what it
has found and what remains then.  After a success as much nesting is in use as before, and so none
is returned.

That is what the proofs about the grammar are for.  It is the same parser as long as the count of
the nesting does not wrap around, which is shown in `Formula.Proofs.Parser.Agreement`.  What a count
that wraps around still allows is a budget that is a bit larger, so the budget is a parameter.
-/

set_option autoImplicit false

namespace Formula

/-- What stays as it is during a parse: the length of the whole text in bytes, and the most nesting
that may be in use. -/
structure Bounds where
  stop : Nat
  budget : Nat

/-- The bounds of a parse of a whole source text. -/
def Bounds.ofSource (source : String) : Bounds where
  stop := Text.byteLength source.toList
  budget := maxDepth

@[simp] theorem Bounds.budget_ofSource (source : String) :
    (Bounds.ofSource source).budget = maxDepth := rfl

/-! ## Outcomes -/

/-- What a step over the remaining items comes to: a value and what remains then, with the same
nesting in use as before; or an error, what remains then, and the nesting in use when it arose. -/
inductive Outcome (α : Type) where
  | done (value : α) (rest : List Item)
  | failed (error : ParseError) (rest : List Item) (depth : Nat)

namespace Outcome

variable {α β : Type}

/-- The outcome with another value. -/
def map (f : α → β) : Outcome α → Outcome β
  | done value rest => done (f value) rest
  | failed error rest depth => failed error rest depth

/-- The outcome of a step whose nesting is given back, on failure too. -/
def release (cost : Nat) : Outcome α → Outcome α
  | done value rest => done value rest
  | failed error rest depth => failed error rest (depth - cost)

/-- A further step from what remains, unless there was a failure. -/
def andThen (outcome : Outcome α) (next : α → List Item → Outcome β) : Outcome β :=
  match outcome with
  | done value rest => next value rest
  | failed error rest depth => failed error rest depth

theorem map_eq_andThen (f : α → β) (outcome : Outcome α) :
    outcome.map f = outcome.andThen fun value rest ↦ done (f value) rest := by
  cases outcome <;> rfl

theorem map_andThen {γ : Type} (f : α → β) (next : β → List Item → Outcome γ)
    (outcome : Outcome α) :
    (outcome.map f).andThen next = outcome.andThen fun value ↦ next (f value) := by
  cases outcome <;> rfl

end Outcome

/-! ## Steps over the remaining items -/

namespace Items

/-- A symbol that has to come next. -/
def expect (symbol : String) (bounds : Bounds) (depth : Nat) : List Item → Outcome Unit
  | [] => .failed (.unexpectedEnd bounds.stop) [] depth
  | .error e :: rest => .failed (.lexical e) rest depth
  | .token t :: rest =>
    if t.token.isSymbol symbol then .done () rest
    else .failed (.expectedToken symbol t.token.text t.position) rest depth

/-- The next token if it is a binary operator that `accepts` holds of; otherwise nothing is
taken. -/
def operator? (accepts : BinaryOp → Bool) (depth : Nat) : List Item → Outcome (Option BinaryOp)
  | [] => .done none []
  | .error e :: rest => .failed (.lexical e) rest depth
  | .token t :: rest =>
    match t.token.operator?.filter accepts with
    | some op => .done (some op) rest
    | none => .done none (.token t :: rest)

/-- The failure of a descent beyond the budget: at the next token, or at the end of the source. -/
def tooDeep {α : Type} (bounds : Bounds) (depth : Nat) : List Item → Outcome α
  | [] => .failed (.nestingTooDeep bounds.stop) [] depth
  | .error e :: rest => .failed (.lexical e) rest depth
  | .token t :: rest => .failed (.nestingTooDeep t.position) (.token t :: rest) depth

end Items

namespace Parser

/-- A variable, from what follows its opening bracket. -/
def parseVariable (bounds : Bounds) (depth : Nat) : List Item → Outcome Expr
  | [] => .failed (.unexpectedEnd bounds.stop) [] depth
  | .error e :: rest => .failed (.lexical e) rest depth
  | .token t :: rest =>
    match variableIndex? t.token with
    | some index => (Items.expect "\x7d" bounds depth rest).map fun _ ↦ .var index
    | none => .failed (.invalidVariableIndex t.token.text t.position) rest depth

/-- The type of a cast and its closing parenthesis, from the word that names the type. -/
def parseCastType (t : PlacedToken) (bounds : Bounds) (depth : Nat) (rest : List Item) :
    Outcome ValueType :=
  match ValueType.ofCastName? t.token.text with
  | some type => (Items.expect ")" bounds depth rest).map fun _ ↦ type
  | none => .failed (.unknownCastType t.token.text t.position) rest depth

/-! ## The levels of the grammar -/

mutual

/-- A whole expression; it takes the nesting of a group. -/
def parseExpression (bounds : Bounds) (depth : Nat) (items : List Item) : Outcome Expr :=
  if depth + groupCost ≤ bounds.budget then
    (parseTier BinaryOp.loosestTier bounds (depth + groupCost) items).release groupCost
  else Items.tooDeep bounds (depth + groupCost) items
termination_by (bounds.budget + 1 - depth, 0)
decreasing_by all_goals grind [groupCost]

/-- An expression without operators looser than a tier. -/
def parseTier (tier : Nat) (bounds : Bounds) (depth : Nat) (items : List Item) : Outcome Expr :=
  match tier with
  | 0 => parseUnary bounds depth items
  | lower + 1 =>
    match parseTier lower bounds depth items with
    | .failed error rest depth => .failed error rest depth
    | .done left rest =>
      if lower + 1 = BinaryOp.relationalTier then parseComparison lower bounds depth left rest
      else parseChain lower bounds depth left rest
termination_by (bounds.budget + 1 - depth, 2 * tier + 4)

/-- What follows the left operand of a comparison by order: one operator at most. -/
def parseComparison (lower : Nat) (bounds : Bounds) (depth : Nat) (left : Expr)
    (items : List Item) : Outcome Expr :=
  match Items.operator? (fun op ↦ op.tier == lower + 1) depth items with
  | .failed error rest depth => .failed error rest depth
  | .done none rest => .done left rest
  | .done (some op) rest => (parseTier lower bounds depth rest).map (.binary op left)
termination_by (bounds.budget + 1 - depth, 2 * lower + 5)

/-- What follows the first operand of a chain: any number of operators of the tier above `lower`,
each of which deepens the nesting until the chain ends. -/
def parseChain (lower : Nat) (bounds : Bounds) (depth : Nat) (left : Expr) (items : List Item) :
    Outcome Expr :=
  match Items.operator? (fun op ↦ op.tier == lower + 1) depth items with
  | .failed error rest depth => .failed error rest depth
  | .done none rest => .done left rest
  | .done (some op) rest =>
    if depth + 1 ≤ bounds.budget then
      match parseTier lower bounds (depth + 1) rest with
      | .failed error rest depth => .failed error rest depth
      | .done right rest => parseChain lower bounds (depth + 1) (.binary op left right) rest
    else Items.tooDeep bounds (depth + 1) rest
termination_by (bounds.budget + 1 - depth, 2 * lower + 5)

/-- An operand with its prefix operators. -/
def parseUnary (bounds : Bounds) (depth : Nat) (items : List Item) : Outcome Expr :=
  match items with
  | [] => parseBase bounds depth []
  | .error e :: rest => .failed (.lexical e) rest depth
  | .token t :: rest =>
    match lead? t.token with
    | some (.operator op) => (parseOperand bounds depth rest).map (.unary op)
    | some .plus => parseOperand bounds depth rest
    | some (.truth b) => .done (.const (.boolean b)) rest
    | none => parseBase bounds depth (.token t :: rest)
termination_by (bounds.budget + 1 - depth, 3)

/-- The operand of a prefix operator or a cast, one level deeper. -/
def parseOperand (bounds : Bounds) (depth : Nat) (items : List Item) : Outcome Expr :=
  if depth + 1 ≤ bounds.budget then (parseUnary bounds (depth + 1) items).release 1
  else Items.tooDeep bounds (depth + 1) items
termination_by (bounds.budget + 1 - depth, 0)

/-- An operand that is one token, or in brackets. -/
def parseBase (bounds : Bounds) (depth : Nat) (items : List Item) : Outcome Expr :=
  match items with
  | [] => .failed (.unexpectedEnd bounds.stop) [] depth
  | .error e :: rest => .failed (.lexical e) rest depth
  | .token t :: rest =>
    match t.token.kind with
    | .number =>
      match NumberLiteral.read? t.token.text.toList with
      | some value => .done (.const value) rest
      | none => .failed (.invalidNumber t.token.text t.position) rest depth
    | .string => .done (.const (.string t.token.text)) rest
    | .word =>
      if t.token.text = "null" then .done (.const .null) rest
      else .failed (.unexpectedInput t.token.text t.position) rest depth
    | .symbol =>
      if t.token.text = "(" then parseParenthesized bounds depth rest
      else if t.token.text = "\x7b" then parseVariable bounds depth rest
      else .failed (.expectedExpression t.token.text t.position) rest depth
termination_by (bounds.budget + 1 - depth, 2)

/-- What follows an opening parenthesis: a cast if it is a word, and otherwise a group. -/
def parseParenthesized (bounds : Bounds) (depth : Nat) (items : List Item) : Outcome Expr :=
  match items with
  | .error e :: rest => .failed (.lexical e) rest depth
  | .token ⟨⟨.word, text⟩, position⟩ :: rest =>
    match parseCastType ⟨⟨.word, text⟩, position⟩ bounds depth rest with
    | .failed error rest depth => .failed error rest depth
    | .done type rest => (parseOperand bounds depth rest).map (.cast type)
  | _ =>
    match parseExpression bounds depth items with
    | .failed error rest depth => .failed error rest depth
    | .done inner rest => (Items.expect ")" bounds depth rest).map fun _ ↦ inner
termination_by (bounds.budget + 1 - depth, 1)

end

section Equations

variable {bounds : Bounds} {depth lower : Nat} {left : Expr} {items : List Item}

/-- A tier is a tighter one and what follows it. -/
theorem parseTier_succ :
    parseTier (lower + 1) bounds depth items =
      (parseTier lower bounds depth items).andThen fun left rest ↦
        if lower + 1 = BinaryOp.relationalTier then parseComparison lower bounds depth left rest
        else parseChain lower bounds depth left rest := by
  rw [parseTier]
  cases parseTier lower bounds depth items <;> rfl

theorem parseComparison_eq :
    parseComparison lower bounds depth left items =
      (Items.operator? (fun op ↦ op.tier == lower + 1) depth items).andThen fun op? rest ↦
        match op? with
        | none => .done left rest
        | some op => (parseTier lower bounds depth rest).map (.binary op left) := by
  rw [parseComparison]
  rcases Items.operator? (fun op ↦ op.tier == lower + 1) depth items with ⟨_ | _, _⟩ | _ <;> rfl

/-- A chain is one turn and the rest of the chain, which begins one level deeper. -/
theorem parseChain_eq :
    parseChain lower bounds depth left items =
      (Items.operator? (fun op ↦ op.tier == lower + 1) depth items).andThen fun op? rest ↦
        match op? with
        | none => .done left rest
        | some op =>
          if depth + 1 ≤ bounds.budget then
            (parseTier lower bounds (depth + 1) rest).andThen fun right rest ↦
              parseChain lower bounds (depth + 1) (.binary op left right) rest
          else Items.tooDeep bounds (depth + 1) rest := by
  rw [parseChain]
  rcases Items.operator? (fun op ↦ op.tier == lower + 1) depth items with ⟨_ | op, rest⟩ | _
  · rfl
  · simp only [Outcome.andThen]
    cases parseTier lower bounds (depth + 1) rest <;> rfl
  · rfl

/-- What follows the opening parenthesis of a cast. -/
theorem parseParenthesized_of_cast (t : PlacedToken) (h : t.token.kind = .word) :
    parseParenthesized bounds depth (.token t :: items) =
      (parseCastType t bounds depth items).andThen fun type rest ↦
        (parseOperand bounds depth rest).map (.cast type) := by
  obtain ⟨⟨kind, text⟩, position⟩ := t
  obtain rfl : kind = .word := h
  rw [parseParenthesized]
  cases parseCastType ⟨⟨.word, text⟩, position⟩ bounds depth items <;> rfl

/-- What follows the opening parenthesis of a group. -/
theorem parseParenthesized_of_group
    (hword : ∀ t, items.head? = some (.token t) → t.token.kind ≠ .word)
    (herror : ∀ e, items.head? ≠ some (.error e)) :
    parseParenthesized bounds depth items = (parseExpression bounds depth items).andThen
      fun inner rest ↦ (Items.expect ")" bounds depth rest).map fun _ ↦ inner := by
  rw [parseParenthesized.eq_def]
  split
  · exact absurd rfl (herror _)
  · exact absurd rfl (hword _ rfl)
  · cases parseExpression bounds depth items <;> rfl

end Equations

/-- The step that parses at a level. -/
def parseLevel : Level → Bounds → Nat → List Item → Outcome Expr
  | .expression => parseExpression
  | .tier tier => parseTier tier
  | .unary => parseUnary
  | .base => parseBase

end Parser

end Formula
