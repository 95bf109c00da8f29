import Formula.Expr.Parser

/-!
# The grammar, as a relation

`Derives phrase tokens e need` says that a list of tokens is a phrase of the grammar, that it
stands for the expression `e`, and that reading it takes `need` of the nesting budget.  It is
written without the parser: there is no stream, no lookahead and no budget in it, only which tokens
stand next to each other.

## What is here

* `Phrase` — the nonterminals.  A tier other than that of the comparisons by order is a
  `Phrase.chain`, which counts its operators: the operand after the `i`-th operator costs `i` more
  than it would on its own.
* `tierOperators` — the operators of each tier, written out; `mem_tierOperators_iff` says that this
  is the table the parser goes by.
* `Derives` — the rules.
* `Derives.tier_mono` — a phrase of a tier is one of the looser tiers as well, for the same need.
* `Derives.lead?_head` — an operand in brackets or of one token does not begin with a prefix
  operator, which is what one token of lookahead decides by.
-/

set_option autoImplicit false

namespace Formula

namespace Token

/-! ## Tokens by kind -/

/-- The token of a symbol. -/
def symbol (text : String) : Token := { kind := .symbol, text }

/-- The token of a word. -/
def word (text : String) : Token := { kind := .word, text }

/-- The token of a number. -/
def number (text : String) : Token := { kind := .number, text }

/-- The token of a string. -/
def string (text : String) : Token := { kind := .string, text }

theorem operator?_symbol (op : BinaryOp) : (symbol op.symbol).operator? = some op := by
  simp [operator?, symbol, BinaryOp.ofSymbol?_symbol]

/-- A token that is an operator is its symbol. -/
theorem eq_symbol_of_operator? {t : Token} {op : BinaryOp} (h : t.operator? = some op) :
    t = symbol op.symbol := by
  obtain ⟨kind, text⟩ := t
  rw [operator?] at h
  split at h
  · rename_i hkind
    cases hkind
    rw [symbol, BinaryOp.symbol_of_ofSymbol? h]
  · cases h

@[simp] theorem isSymbol_symbol (text : String) : (symbol text).isSymbol text = true := by
  simp [isSymbol, symbol]

/-- A token that passes for a symbol is that symbol. -/
theorem eq_symbol_of_isSymbol {t : Token} {text : String} (h : t.isSymbol text = true) :
    t = symbol text := by
  obtain ⟨kind, text⟩ := t
  simp only [isSymbol, Bool.and_eq_true, beq_iff_eq] at h
  rw [symbol, h.1, h.2]

end Token

/-! ## Phrases -/

/-- The nonterminals of the grammar.  `chain lower count` is `count` operators of the tier above
`lower`, with operands of the tier `lower` around them. -/
inductive Phrase where
  | expression
  | tier (tier : Nat)
  | chain (lower count : Nat)
  | unary
  | base
  deriving DecidableEq, Repr

/-- The operators of each tier, from the tightest to the loosest. -/
def tierOperators : Nat → List BinaryOp
  | 1 => [.multiply, .divide, .modulus]
  | 2 => [.add, .subtract]
  | 3 => [.shiftLeft, .shiftRight]
  | 4 => [.less, .lessEqual, .greater, .greaterEqual]
  | 5 => [.equal, .notEqual]
  | 6 => [.logicalAnd]
  | 7 => [.logicalXor]
  | 8 => [.logicalOr]
  | 9 => [.conditionalAnd]
  | 10 => [.conditionalOr]
  | _ => []

theorem mem_tierOperators_iff {op : BinaryOp} {tier : Nat} :
    op ∈ tierOperators tier ↔ op.tier = tier := by
  constructor
  · intro h
    unfold tierOperators at h
    split at h
    case h_11 => cases h
    all_goals
      revert h
      cases op <;> decide
  · rintro rfl
    cases op <;> decide

/-- Whether a list of tokens begins with a word. -/
def StartsWithWord (tokens : List Token) : Prop := ∃ text rest, tokens = .word text :: rest

/-- The rules: a phrase, its tokens, the expression that it stands for and the nesting that it
needs. -/
inductive Derives : Phrase → List Token → Expr → Nat → Prop
  | expression {tokens : List Token} {e : Expr} {need : Nat}
      (h : Derives (.tier BinaryOp.loosestTier) tokens e need) :
      Derives .expression tokens e (groupCost + need)
  | chain {lower count : Nat} {tokens : List Token} {e : Expr} {need : Nat}
      (htier : lower + 1 ≠ BinaryOp.relationalTier)
      (h : Derives (.chain lower count) tokens e need) :
      Derives (.tier (lower + 1)) tokens e need
  | alone {lower : Nat} {tokens : List Token} {e : Expr} {need : Nat}
      (h : Derives (.tier lower) tokens e need) : Derives (.chain lower 0) tokens e need
  | more {lower count : Nat} {op : BinaryOp} {left right : List Token} {l r : Expr} {n m : Nat}
      (hop : op ∈ tierOperators (lower + 1)) (hl : Derives (.chain lower count) left l n)
      (hr : Derives (.tier lower) right r m) :
      Derives (.chain lower (count + 1)) (left ++ .symbol op.symbol :: right) (.binary op l r)
        (max n (count + 1 + m))
  | operand {lower : Nat} {tokens : List Token} {e : Expr} {need : Nat}
      (htier : lower + 1 = BinaryOp.relationalTier) (h : Derives (.tier lower) tokens e need) :
      Derives (.tier (lower + 1)) tokens e need
  | comparison {lower : Nat} {op : BinaryOp} {left right : List Token} {l r : Expr} {n m : Nat}
      (htier : lower + 1 = BinaryOp.relationalTier) (hop : op ∈ tierOperators (lower + 1))
      (hl : Derives (.tier lower) left l n) (hr : Derives (.tier lower) right r m) :
      Derives (.tier (lower + 1)) (left ++ .symbol op.symbol :: right) (.binary op l r) (max n m)
  | unary {tokens : List Token} {e : Expr} {need : Nat} (h : Derives .unary tokens e need) :
      Derives (.tier 0) tokens e need
  | operator {op : UnaryOp} {tokens : List Token} {e : Expr} {need : Nat}
      (h : Derives .unary tokens e need) :
      Derives .unary (.symbol op.symbol :: tokens) (.unary op e) (1 + need)
  | plus {tokens : List Token} {e : Expr} {need : Nat} (h : Derives .unary tokens e need) :
      Derives .unary (.symbol "+" :: tokens) e (1 + need)
  | truth (b : Bool) : Derives .unary [.word (Value.truthText b)] (.const (.boolean b)) 0
  | base {tokens : List Token} {e : Expr} {need : Nat} (h : Derives .base tokens e need) :
      Derives .unary tokens e need
  | number {text : String} {v : Value} (h : NumberLiteral.read? text.toList = some v) :
      Derives .base [.number text] (.const v) 0
  | string (text : String) : Derives .base [.string text] (.const (.string text)) 0
  | null : Derives .base [.word "null"] (.const .null) 0
  | cast {name : String} {type : ValueType} {tokens : List Token} {e : Expr} {need : Nat}
      (hname : ValueType.ofCastName? name = some type) (h : Derives .unary tokens e need) :
      Derives .base (.symbol "(" :: .word name :: .symbol ")" :: tokens) (.cast type e) (1 + need)
  | group {tokens : List Token} {e : Expr} {need : Nat} (hword : ¬ StartsWithWord tokens)
      (h : Derives .expression tokens e need) :
      Derives .base (.symbol "(" :: (tokens ++ [.symbol ")"])) e need
  | var {text : String} {i : Int32} (h : NumberLiteral.read? text.toList = some (.int32 i))
      (hi : 0 ≤ i.toInt) :
      Derives .base [.symbol "\x7b", .number text, .symbol "\x7d"] (.var i.toInt.toNat) 0

/-- The first token of an operand in brackets or of one token is no prefix operator. -/
theorem Derives.lead?_head {t : Token} {rest : List Token} {e : Expr} {need : Nat}
    (h : Derives .base (t :: rest) e need) : Parser.lead? t = none := by
  cases h <;> rfl

/-- What is a phrase of a tier is one of every looser tier. -/
theorem Derives.tier_mono {lower tier : Nat} {tokens : List Token} {e : Expr} {need : Nat}
    (h : Derives (.tier lower) tokens e need) (hle : lower ≤ tier) :
    Derives (.tier tier) tokens e need := by
  induction hle with
  | refl => exact h
  | @step tier _ ih =>
    by_cases htier : tier + 1 = BinaryOp.relationalTier
    · exact .operand htier ih
    · exact .chain htier (.alone ih)

end Formula
