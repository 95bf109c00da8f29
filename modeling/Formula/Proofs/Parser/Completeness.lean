import Formula.Proofs.Parser.Agreement
import Formula.Proofs.Parser.Soundness

/-!
# Phrases are taken whole

The converse of `Parser.sound`: in front of what cannot continue it, a phrase whose need is in the
budget is taken whole, and the tree returned is the one that it stands for.

`Complete` says what that means for each nonterminal.  A chain is the instructive case.  Its
derivation ends with its last operator while the parser begins at its first, so the statement about
`count` operators is not that the parser succeeds but that it gets as far: the tier above comes to
the same as going on from behind those operators, with the tree so far as left operand and with one
unit of nesting spent on each of them.

`Expr.parse_eq_ok_iff` puts the two directions together for whole texts.
-/

set_option autoImplicit false

namespace Formula

namespace Parser

/-! ## What cannot continue a phrase -/

/-- Whether a phrase of a tier ends before some items: they do not begin with an operator of that
tier or a tighter one, nor with an error. -/
def Stops (tier : Nat) : List Item → Prop
  | [] => True
  | .error _ :: _ => False
  | .token t :: _ => ∀ op, t.token.operator? = some op → tier < op.tier

theorem Stops.mono {lower tier : Nat} {items : List Item} (hle : lower ≤ tier)
    (h : Stops tier items) : Stops lower items := by
  cases items with
  | nil => trivial
  | cons item items =>
    cases item with
    | error e => exact h
    | token t => exact fun op hop ↦ Nat.lt_of_le_of_lt hle (h op hop)

theorem stops_of_takes {tier : Nat} {items rest : List Item} {t : Token} {tokens : List Token}
    (h : Takes items (t :: tokens) rest) (ht : ∀ op, t.operator? = some op → tier < op.tier) :
    Stops tier items := by
  obtain ⟨position, items', rfl, _⟩ := h.exists_of_cons
  exact ht

/-- The operator of a tier ends the operand before it. -/
theorem stops_of_takes_operator {lower : Nat} {op : BinaryOp} {items rest : List Item}
    {tokens : List Token} (hop : op ∈ tierOperators (lower + 1))
    (h : Takes items (.symbol op.symbol :: tokens) rest) : Stops lower items := by
  refine stops_of_takes h fun op' hop' ↦ ?_
  rw [Token.operator?_symbol] at hop'
  cases hop'
  have := mem_tierOperators_iff.1 hop
  omega

theorem operator?_of_stops {tier depth : Nat} {items : List Item} (h : Stops tier items) :
    Items.operator? (fun op ↦ op.tier == tier) depth items = .done none items := by
  cases items with
  | nil => rfl
  | cons item items =>
    cases item with
    | error e => exact h.elim
    | token t =>
      rw [Items.operator?]
      split
      · rename_i op hop
        obtain ⟨hop, htier⟩ := Option.filter_eq_some_iff.1 hop
        exact absurd (h op hop) (by simp_all)
      · rfl

theorem operator?_of_takes {tier depth : Nat} {items rest : List Item} {op : BinaryOp}
    (h : Takes items [.symbol op.symbol] rest) (hop : op ∈ tierOperators tier) :
    Items.operator? (fun op ↦ op.tier == tier) depth items = .done (some op) rest :=
  Items.operator?_eq_some_iff.2 ⟨by simpa using mem_tierOperators_iff.1 hop, h⟩

theorem not_takes_error {cause : LexError} {items rest : List Item} {tokens : List Token}
    (hne : tokens ≠ []) : ¬ Takes (.error cause :: items) tokens rest := by
  intro h
  cases h
  exact hne rfl

theorem startsWithWord_of_takes {text symbol : String} {position : Nat} {items rest : List Item}
    {tokens : List Token}
    (h : Takes (.token { token := .word text, position } :: items) (tokens ++ [.symbol symbol])
      rest) : StartsWithWord tokens := by
  cases tokens with
  | nil =>
    obtain ⟨_, _, heq, _⟩ := h.exists_of_cons
    simp [Token.word, Token.symbol] at heq
  | cons t tokens =>
    obtain ⟨_, _, heq, _⟩ := h.exists_of_cons
    simp only [List.cons.injEq, Item.token.injEq, PlacedToken.mk.injEq] at heq
    exact ⟨text, tokens, by rw [heq.1.1]⟩

/-! ## What the first tokens decide -/

section FirstTokens

variable {bounds : Bounds} {depth : Nat} {items rest : List Item} {tokens : List Token}

theorem parseUnary_of_operator {op : UnaryOp}
    (h : Takes items (.symbol op.symbol :: tokens) rest) :
    ∃ items', Takes items' tokens rest ∧
      parseUnary bounds depth items = (parseOperand bounds depth items').map (.unary op) := by
  obtain ⟨position, items', rfl, htail⟩ := h.exists_of_cons
  refine ⟨items', htail, ?_⟩
  rw [parseUnary, show lead? (.symbol op.symbol) = _ from lead?_token (.operator op)]

theorem parseUnary_of_plus (h : Takes items (.symbol "+" :: tokens) rest) :
    ∃ items', Takes items' tokens rest ∧
      parseUnary bounds depth items = parseOperand bounds depth items' := by
  obtain ⟨position, items', rfl, htail⟩ := h.exists_of_cons
  refine ⟨items', htail, ?_⟩
  rw [parseUnary, show lead? (.symbol "+") = _ from lead?_token .plus]

theorem parseUnary_of_base {e : Expr} {need : Nat} (h : Takes items tokens rest)
    (hbase : Derives .base tokens e need) :
    parseUnary bounds depth items = parseBase bounds depth items := by
  cases tokens with
  | nil => cases hbase
  | cons t tokens =>
    obtain ⟨position, items', rfl, -⟩ := h.exists_of_cons
    rw [parseUnary, hbase.lead?_head]

theorem parseBase_of_cast {name : String} {type : ValueType}
    (hname : ValueType.ofCastName? name = some type)
    (h : Takes items (.symbol "(" :: .word name :: .symbol ")" :: tokens) rest) :
    ∃ items', Takes items' tokens rest ∧
      parseBase bounds depth items = (parseOperand bounds depth items').map (.cast type) := by
  obtain ⟨position, items₁, rfl, htail⟩ := h.exists_of_cons
  obtain ⟨position', items₂, rfl, htail'⟩ := htail.exists_of_cons
  obtain ⟨items', hclose, hoperand⟩ := htail'.uncons
  refine ⟨items', hoperand, ?_⟩
  rw [parseBase]
  simp only [Token.symbol, if_true]
  rw [Token.word, parseParenthesized, parseCastType_eq_done_iff.2 ⟨hname, hclose⟩]

theorem parseBase_of_group (hword : ¬ StartsWithWord tokens)
    (h : Takes items (.symbol "(" :: (tokens ++ [.symbol ")"])) rest) :
    ∃ items' mid, Takes items' tokens mid ∧ Takes mid [.symbol ")"] rest ∧
      parseBase bounds depth items =
        match parseExpression bounds depth items' with
        | .failed error rest depth => .failed error rest depth
        | .done inner rest => (Items.expect ")" bounds depth rest).map fun _ ↦ inner := by
  obtain ⟨position, items', rfl, htail⟩ := h.exists_of_cons
  obtain ⟨mid, hinner, hclose⟩ := htail.exists_of_append
  refine ⟨items', mid, hinner, hclose, ?_⟩
  rw [parseBase]
  simp only [Token.symbol, if_true]
  rw [parseParenthesized.eq_def]
  split
  · exact absurd htail (not_takes_error (by simp))
  · exact absurd (startsWithWord_of_takes htail) hword
  · rfl

end FirstTokens

/-! ## Each phrase -/

/-- What the parser does at a phrase that stands in front of what remains. -/
def Complete (bounds : Bounds) (e : Expr) (depth : Nat) (items rest : List Item) : Phrase → Prop
  | .expression =>
    Stops BinaryOp.loosestTier rest → parseExpression bounds depth items = .done e rest
  | .tier tier => Stops tier rest → parseTier tier bounds depth items = .done e rest
  | .chain lower count => lower + 1 ≠ BinaryOp.relationalTier → Stops lower rest →
    parseTier (lower + 1) bounds depth items = parseChain lower bounds (depth + count) e rest
  | .unary => parseUnary bounds depth items = .done e rest
  | .base => parseBase bounds depth items = .done e rest

/-- **A phrase that is in the budget is taken whole.** -/
theorem complete (bounds : Bounds) {phrase : Phrase} {tokens : List Token} {e : Expr}
    {need : Nat} (h : Derives phrase tokens e need) :
    ∀ depth items rest, Takes items tokens rest → need ≤ bounds.budget - depth →
      Complete bounds e depth items rest phrase := by
  induction h with
  | expression h ih =>
    intro depth items rest htakes hneed hstops
    have hpos : 0 < groupCost := by decide
    rw [parseExpression, if_pos (by omega), ih _ items rest htakes (by omega) hstops]
    rfl
  | chain htier h ih =>
    intro depth items rest htakes hneed hstops
    rw [ih depth items rest htakes hneed htier (hstops.mono (Nat.le_succ _)), parseChain,
      operator?_of_stops hstops]
  | alone h ih =>
    intro depth items rest htakes hneed htier hstops
    rw [parseTier, ih depth items rest htakes hneed hstops]
    exact if_neg htier
  | @more lower count op left right l r n m hop hl hr ihl ihr =>
    intro depth items rest htakes hneed htier hstops
    obtain ⟨mid, hleft, hmid⟩ := htakes.exists_of_append
    obtain ⟨mid', hsymbol, hright⟩ := hmid.uncons
    have hmidStops : Stops lower mid := stops_of_takes_operator hop hmid
    rw [ihl depth items mid hleft (by omega) htier hmidStops, parseChain,
      operator?_of_takes hsymbol hop]
    simp only [if_pos (show depth + count + 1 ≤ bounds.budget by omega),
      ihr (depth + count + 1) mid' rest hright (by omega) hstops]
    rfl
  | operand htier h ih =>
    intro depth items rest htakes hneed hstops
    rw [parseTier, ih depth items rest htakes hneed (hstops.mono (Nat.le_succ _))]
    simp only [if_pos htier]
    rw [parseComparison, operator?_of_stops hstops]
  | @comparison lower op left right l r n m htier hop hl hr ihl ihr =>
    intro depth items rest htakes hneed hstops
    obtain ⟨mid, hleft, hmid⟩ := htakes.exists_of_append
    obtain ⟨mid', hsymbol, hright⟩ := hmid.uncons
    have hmidStops : Stops lower mid := stops_of_takes_operator hop hmid
    rw [parseTier, ihl depth items mid hleft (by omega) hmidStops]
    simp only [if_pos htier]
    rw [parseComparison, operator?_of_takes hsymbol hop]
    simp only
    rw [ihr depth mid' rest hright (by omega) (hstops.mono (Nat.le_succ _))]
    rfl
  | unary h ih =>
    intro depth items rest htakes hneed _
    rw [parseTier]
    exact ih depth items rest htakes hneed
  | operator h ih =>
    intro depth items rest htakes hneed
    obtain ⟨items', htail, hparse⟩ := parseUnary_of_operator htakes
    rw [Complete, hparse, parseOperand, if_pos (by omega), ih _ items' rest htail (by omega)]
    rfl
  | plus h ih =>
    intro depth items rest htakes hneed
    obtain ⟨items', htail, hparse⟩ := parseUnary_of_plus htakes
    rw [Complete, hparse, parseOperand, if_pos (by omega), ih _ items' rest htail (by omega)]
    rfl
  | truth b =>
    intro depth items rest htakes _
    obtain ⟨position, items', rfl, htail⟩ := htakes.exists_of_cons
    have hlead : lead? (.word (Value.truthText b)) = _ := lead?_token (.truth b)
    rw [Complete, parseUnary, hlead, htail.eq_of_nil]
  | base h ih =>
    intro depth items rest htakes hneed
    rw [Complete, parseUnary_of_base htakes h]
    exact ih depth items rest htakes hneed
  | @number text v hread =>
    intro depth items rest htakes _
    obtain ⟨position, items', rfl, htail⟩ := htakes.exists_of_cons
    rw [Complete, parseBase, htail.eq_of_nil]
    simp only [Token.number, hread]
  | string text =>
    intro depth items rest htakes _
    obtain ⟨position, items', rfl, htail⟩ := htakes.exists_of_cons
    rw [Complete, parseBase, htail.eq_of_nil]
    rfl
  | null =>
    intro depth items rest htakes _
    obtain ⟨position, items', rfl, htail⟩ := htakes.exists_of_cons
    rw [Complete, parseBase, htail.eq_of_nil]
    rfl
  | cast hname h ih =>
    intro depth items rest htakes hneed
    obtain ⟨items', htail, hparse⟩ := parseBase_of_cast hname htakes
    rw [Complete, hparse, parseOperand, if_pos (by omega), ih _ items' rest htail (by omega)]
    rfl
  | group hword h ih =>
    intro depth items rest htakes hneed
    obtain ⟨items', mid, hinner, hclose, hparse⟩ := parseBase_of_group hword htakes
    have hmidStops : Stops BinaryOp.loosestTier mid :=
      stops_of_takes hclose fun op hop ↦ absurd hop (by decide +revert)
    rw [Complete, hparse, ih depth items' mid hinner hneed hmidStops]
    simp only [Items.expect_eq_done_iff (u := ()).2 hclose]
    rfl
  | @var text i hread hi =>
    intro depth items rest htakes _
    obtain ⟨position, items₁, rfl, htail⟩ := htakes.exists_of_cons
    obtain ⟨position', items₂, rfl, hclose⟩ := htail.exists_of_cons
    rw [Complete, parseBase]
    simp only [Token.symbol, if_true]
    rw [if_neg (by decide), parseVariable]
    simp only [variableIndex?_eq_some_iff.2 ⟨text, i, rfl, hread, hi, rfl⟩]
    rw [Items.expect_eq_done_iff (u := ()).2 hclose]
    rfl

/-! ## Everything that there is -/

/-- Items are an expression and nothing else exactly if they are the tokens of one, whose need is in
what is left of the budget. -/
theorem parseExpression_eq_done_iff {bounds : Bounds} {depth : Nat} {items : List Item} {e : Expr} :
    parseExpression bounds depth items = .done e [] ↔
      ∃ tokens need, Takes items tokens [] ∧ Derives .expression tokens e need ∧
        need ≤ bounds.budget - depth := by
  constructor
  · intro h
    have hsound := (sound bounds depth).2.2 items
    rw [h] at hsound
    obtain ⟨tokens, need, htakes, hderives, hneed⟩ := hsound
    exact ⟨tokens, need, htakes, hderives, by omega⟩
  · rintro ⟨tokens, need, htakes, hderives, hneed⟩
    exact complete bounds hderives depth items [] htakes hneed trivial

end Parser

/-! ## Whole texts -/

theorem Expr.parse_eq_ok_iff_done {source : String} {e : Expr} :
    Expr.parse source = .ok e ↔
      Parser.parseExpression (.ofSource source) 0 (Lexer.items source) = .done e [] := by
  rw [Expr.parse_eq]
  split
  · rename_i hfailed
    simp [hfailed]
  · rename_i hdone
    simp [hdone]
  · rename_i hdone
    simp [hdone]
  · rename_i hdone
    simp [hdone]

/-- A text is read as an expression exactly if its items are the tokens of one, whose need is in the
budget. -/
theorem Expr.parse_eq_ok_iff_derives {source : String} {e : Expr} :
    Expr.parse source = .ok e ↔
      ∃ tokens need, Takes (Lexer.items source) tokens [] ∧
        Derives .expression tokens e need ∧ need ≤ maxDepth := by
  rw [Expr.parse_eq_ok_iff_done, Parser.parseExpression_eq_done_iff, Nat.sub_zero,
    Bounds.budget_ofSource]

/-- **The parser accepts exactly its grammar, within its budget.**  A text is an expression exactly
if it is tokens without a lexical error, these tokens are a phrase of the loosest tier for that
expression, and the whole expression and what nests in it need no more than 256 together. -/
theorem Expr.parse_eq_ok_iff (source : String) (e : Expr) :
    Expr.parse source = .ok e ↔
      ∃ placed need, Lexer.tokens (Lexer.items source) = .ok placed ∧
        Derives (.tier BinaryOp.loosestTier) (placed.map (·.token)) e need ∧ 4 + need ≤ 256 := by
  rw [Expr.parse_eq_ok_iff_derives]
  constructor
  · rintro ⟨tokens, need, htakes, hderives, hneed⟩
    obtain ⟨placed, hplaced, rfl⟩ := Lexer.takes_iff_tokens.1 htakes
    cases hderives with
    | expression h => exact ⟨placed, _, hplaced, h, hneed⟩
  · rintro ⟨placed, need, hplaced, hderives, hneed⟩
    exact ⟨_, _, Lexer.takes_iff_tokens.2 ⟨placed, hplaced, rfl⟩, .expression hderives, hneed⟩

end Formula
