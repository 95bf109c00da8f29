import Formula.Proofs.Expr.Rendering
import Formula.Proofs.Parser.Budget
import Formula.Proofs.Parser.Invariants

/-!
# What a rendered expression is read as

The rendered text of an expression is read as the expression in which each constant is replaced by
what its literal is, `Expr.spelled`, or it is not read at all.  `Expr.parse_render_eq_ok_iff` says
when: the expression has to be `Expr.Legible`, and the parentheses that rendering adds have to be
within the budget.

## The argument

* The tokens of a legible expression are a phrase for `Expr.spelled`: `Expr.derives_tokens`.
* The tokens of any other expression are no phrase.  Either one of them is not from the vocabulary,
  as the symbol that a prefix operator and a sign make together, or a word that names no type stands
  behind an opening parenthesis: `Expr.legible_of_isChain`.
* Replacing the constants does not change the value, since each replacement comes to its constant in
  every context: `Expr.eval_spelled`.

So a text that is read at all has the meaning of the expression that it was rendered from, which is
`Expr.eval_of_parse_render`.
-/

set_option autoImplicit false

namespace Formula

/-! ## The expression that is read -/

/-- The expression with each constant as its literal spells it. -/
def Expr.spelled : Expr → Expr
  | const v => v.spelled
  | var i => var i
  | unary op e => unary op e.spelled
  | binary op l r => binary op l.spelled r.spelled
  | cast t e => cast t e.spelled

/-- Spelling leaves the value as it is. -/
theorem Expr.eval_spelled (e : Expr) (c : Context) : e.spelled.eval c = e.eval c := by
  induction e with
  | const v => rw [spelled, v.eval_spelled, eval]
  | var i => rfl
  | unary op e ih => simp only [spelled, eval, ih]
  | binary op l r ihl ihr => simp only [spelled, eval, ihl, ihr]
  | cast t e ih => simp only [spelled, eval, ih]

/-! ## Literals -/

namespace Value

variable {v : Value}

/-- The nesting that reading a literal takes. -/
def spellCost (v : Value) : Nat :=
  (if v.narrow?.isSome then 1 else 0) + if v.isSigned then 1 else 0

theorem leaf_of_isNumeric (hnumeric : v.type.isNumeric = true) (h : v.Spellable) :
    v.leaf = .number (String.ofList v.body) := by
  cases v with
  | null | boolean | string => cases hnumeric
  | byte | int16 | int32 | int64 | decimal => rfl
  | single x | double x =>
    cases x with
    | nan | infinity => cases h
    | finite => rfl

theorem derives_leaf (h : v.Spellable) : Derives .unary [v.leaf] (.const v.magnitude) 0 := by
  cases v with
  | null => exact .base .null
  | boolean b =>
    have htext : (boolean b).leaf = .word (truthText b) := by cases b <;> decide
    exact htext ▸ .truth b
  | string text => exact .base (.string text)
  | byte | int16 | int32 | int64 | single | double | decimal =>
    rw [leaf_of_isNumeric rfl h]
    exact .base (.number (by rw [String.toList_ofList, read?_body rfl h]))

theorem derives_signed (h : v.Spellable) :
    Derives .unary (v.signTokens ++ [v.leaf]) v.signed (if v.isSigned then 1 else 0) := by
  rw [signTokens, signed]
  split
  · have hoperand : Derives .unary (.symbol UnaryOp.negate.symbol :: [v.leaf])
        (.unary .negate (.const v.magnitude)) (1 + 0) := .operator (derives_leaf h)
    exact hoperand
  · exact derives_leaf h

/-- The tokens of a literal are a phrase for what it spells. -/
theorem derives_tokens (h : v.Spellable) : Derives .unary v.tokens v.spelled v.spellCost := by
  rw [tokens, castTokens, spelled, spellCost]
  cases hnarrow : v.narrow? with
  | none => simpa using derives_signed h
  | some t =>
    have hname : ValueType.ofCastName? t.castName = some t :=
      ValueType.ofCastName?_castName (narrow?_ne_null hnarrow)
    exact .base (.cast hname (derives_signed h))

/-- A literal of which the token is from the vocabulary stands for a magnitude. -/
theorem spellable_of_inVocabulary (h : v.leaf.inVocabulary = true) : v.Spellable := by
  cases v with
  | null | boolean | string | byte | int16 | decimal => trivial
  | int32 n =>
    by_contra hout
    have hread : NumberLiteral.read? (Digits.write n.toInt.natAbs) = none := by
      rw [NumberLiteral.read?_write]
      exact if_neg hout
    simp [leaf, body, Token.inVocabulary_number, hread] at h
  | int64 n =>
    by_contra hout
    have hread : NumberLiteral.read? (Digits.write n.toInt.natAbs ++ ['L']) = none := by
      rw [NumberLiteral.read?_write_long]
      exact if_neg hout
    simp [leaf, body, Token.inVocabulary_number, hread] at h
  | single x =>
    cases x with
    | nan => exact absurd h (by decide)
    | infinity negative => exact absurd h (by decide +revert)
    | finite => rfl
  | double x =>
    cases x with
    | nan => exact absurd h (by decide)
    | infinity negative => exact absurd h (by decide +revert)
    | finite => rfl

end Value

/-! ## Expressions that can be read -/

namespace Expr

/-- Whether an expression is written as a word. -/
def isWord : Expr → Bool
  | const .null | const (.boolean _) => true
  | _ => false

/-- The expressions of which the rendered text is one: each literal stands for a magnitude, no
prefix operator is followed by a sign, and no word but a type by an opening parenthesis. -/
def Legible : Expr → Prop
  | const v => v.Spellable
  | var i => i < 2147483648
  | unary _ e => e.isMinus = false ∧ e.Legible
  | binary _ l r => l.isWord = false ∧ l.Legible ∧ r.Legible
  | cast t e => t ≠ .null ∧ e.Legible

theorem exists_tokens_of_isWord {e : Expr} (h : e.isWord = true) :
    ∃ name, e.tokens = [.word name] ∧ ValueType.ofCastName? name = none := by
  unfold isWord at h
  split at h
  · exact ⟨"null", by decide, by decide⟩
  · rename_i b
    exact ⟨Value.truthText b, by cases b <;> decide, by cases b <;> decide⟩
  · cases h

/-- A legible expression that is no word does not begin with one. -/
theorem not_startsWithWord {e : Expr} (h : e.isWord = false) (he : e.Legible)
    (rest : List Token) : ¬ StartsWithWord (e.tokens ++ rest) := by
  rintro ⟨name, rest', heq⟩
  cases e with
  | var | unary | binary | cast => cases heq
  | const v =>
    rw [tokens, Value.tokens, Value.castTokens, Value.signTokens] at heq
    cases hnarrow : v.narrow? with
    | some t => simp [hnarrow, Token.symbol, Token.word] at heq
    | none =>
      by_cases hsign : v.isSigned = true
      · simp [hnarrow, hsign, Token.symbol, Token.word] at heq
      · cases v with
        | null | boolean => cases h
        | string => cases heq
        | byte | int16 | int32 | int64 | single | double | decimal =>
          rw [Value.leaf_of_isNumeric rfl he] at heq
          simp [hnarrow, hsign, Token.number, Token.word] at heq

theorem lt_of_read?_isSome {i : Nat}
    (h : (NumberLiteral.read? (Digits.write i)).isSome = true) : i < 2147483648 := by
  by_contra hout
  have hbound : ¬ (IntegerType.signedOf 32).Holds i := fun hholds ↦
    hout (IntegerType.holds_signedOf_iff.1 hholds)
  rw [NumberLiteral.read?_write, if_neg hbound] at h
  cases h

/-- **If the tokens of an expression could be a phrase, it is legible.** -/
theorem legible_of_isChain {e : Expr} (hknown : e.tokens.all Token.inVocabulary = true)
    (hchain : e.tokens.IsChain Follows) : e.Legible := by
  induction e with
  | const v =>
    refine Value.spellable_of_inVocabulary ?_
    exact List.all_eq_true.1 hknown v.leaf (by simp [tokens, Value.tokens])
  | var i =>
    refine lt_of_read?_isSome ?_
    simpa [Token.inVocabulary_number] using
      List.all_eq_true.1 hknown (.number (String.ofList (Digits.write i))) (by simp [tokens])
  | unary op e ih =>
    by_cases hminus : e.isMinus = true
    · have hsymbol : (Token.symbol (op.symbol ++ "-")).inVocabulary = false := by
        cases op <;> decide
      simp [tokens, hminus, hsymbol] at hknown
    · rw [tokens, if_neg hminus] at hknown hchain
      simp only [List.all_cons, List.all_append, Bool.and_eq_true, List.cons_append] at hknown
      exact ⟨by simpa using hminus, ih hknown.2.2.1 hchain.tail.left_of_append.tail⟩
  | cast t e ih =>
    simp only [tokens, List.all_cons, List.all_append, Bool.and_eq_true] at hknown
    refine ⟨fun hnull ↦ ?_, ih hknown.2.2.2.2.1 hchain.tail.tail.tail.tail.left_of_append⟩
    have hname := hchain.tail.rel rfl t.castName rfl
    subst hnull
    exact absurd hname (by decide)
  | binary op l r ihl ihr =>
    simp only [tokens, List.all_cons, List.all_append, Bool.and_eq_true] at hknown
    refine ⟨?_, ihl hknown.2.1 hchain.tail.left_of_append,
      ihr hknown.2.2.2.1 hchain.tail.right_of_append.tail.left_of_append⟩
    refine Bool.eq_false_iff.2 fun hword ↦ ?_
    obtain ⟨name, htokens, hname⟩ := exists_tokens_of_isWord hword
    rw [tokens, htokens] at hchain
    have := hchain.rel rfl name rfl
    rw [hname] at this
    cases this

end Expr

/-! ## The phrase for a rendered expression -/

/-- The operator between two operands is of its tier.  Among the operators only the comparisons by
order take no nesting for their right operand. -/
theorem Derives.binary {op : BinaryOp} {left right : List Token} {l r : Expr} {n m : Nat}
    (hl : Derives .unary left l n) (hr : Derives .unary right r m) :
    Derives (.tier op.tier) (left ++ .symbol op.symbol :: right) (.binary op l r)
      (if op ∈ [.less, .lessEqual, .greater, .greaterEqual] then max n m else max n (1 + m)) := by
  obtain ⟨lower, htier⟩ : ∃ lower, op.tier = lower + 1 := by cases op <;> exact ⟨_, rfl⟩
  have hop : op ∈ tierOperators (lower + 1) := mem_tierOperators_iff.2 htier
  have hleft : Derives (.tier lower) left l n := .tier_mono (.unary hl) (Nat.zero_le lower)
  have hright : Derives (.tier lower) right r m := .tier_mono (.unary hr) (Nat.zero_le lower)
  rw [htier]
  split
  · rename_i hrelational
    have hrel : op.tier = BinaryOp.relationalTier := mem_tierOperators_iff.1 hrelational
    exact .comparison (htier ▸ hrel) hop hleft hright
  · rename_i hrelational
    have hrel : lower + 1 ≠ BinaryOp.relationalTier := fun heq ↦
      hrelational (mem_tierOperators_iff.2 (htier.trans heq))
    exact .chain hrel (.more hop (.alone hleft) hright)

/-- A phrase of a tier in parentheses is an operand. -/
theorem Derives.parenthesized {tier : Nat} {tokens : List Token} {e : Expr} {need : Nat}
    (hword : ¬ StartsWithWord tokens) (h : Derives (.tier tier) tokens e need)
    (htier : tier ≤ BinaryOp.loosestTier) :
    Derives .unary (.symbol "(" :: (tokens ++ [.symbol ")"])) e (groupCost + need) :=
  .base (.group hword (.expression (h.tier_mono htier)))

/-- The number of a variable is read back. -/
theorem Derives.varOfIndex {i : Nat} (hi : i < 2147483648) :
    Derives .base (Expr.var i).tokens (.var i) 0 := by
  have htoInt : (Int32.ofNat i).toInt = i := Int32.toInt_ofNat_of_lt hi
  have hread : NumberLiteral.read? (String.ofList (Digits.write i)).toList =
      some (.int32 (Int32.ofNat i)) := by
    rw [String.toList_ofList, NumberLiteral.read?_write,
      if_pos (IntegerType.holds_signedOf_iff.2 hi)]
  have := Derives.var hread (by omega)
  rwa [htoInt, Int.toNat_natCast] at this

namespace Expr

/-- The nesting that reading a rendered expression takes, in the parentheses of which it is. -/
def spellCost : Expr → Nat
  | const v => v.spellCost
  | var _ => 0
  | unary _ e | cast _ e => 5 + e.spellCost
  | binary op l r =>
    if op ∈ [.less, .lessEqual, .greater, .greaterEqual] then 4 + max l.spellCost r.spellCost
    else 4 + max l.spellCost (1 + r.spellCost)

/-- **The tokens of a legible expression are a phrase for what it spells.** -/
theorem derives_tokens {e : Expr} (he : e.Legible) :
    Derives .unary e.tokens e.spelled e.spellCost := by
  induction e with
  | const v => exact Value.derives_tokens he
  | var i => exact .base (.varOfIndex he)
  | unary op e ih =>
    obtain ⟨hminus, hoperand⟩ := he
    have hoperator : Derives .unary (.symbol op.symbol :: e.tokens) (.unary op e.spelled) _ :=
      .operator (ih hoperand)
    have hword : ¬ StartsWithWord (.symbol op.symbol :: e.tokens) := by
      rintro ⟨name, rest, ⟨⟩⟩
    have := Derives.parenthesized hword (.unary hoperator) (by decide)
    rw [← Nat.add_assoc] at this
    rwa [tokens, if_neg (by simp [hminus])]
  | binary op l r ihl ihr =>
    obtain ⟨hword, hl, hr⟩ := he
    have hbinary : Derives (.tier op.tier) _ (.binary op l.spelled r.spelled) _ :=
      .binary (ihl hl) (ihr hr)
    have := Derives.parenthesized (not_startsWithWord hword hl _) hbinary (by cases op <;> decide)
    rw [List.append_assoc, List.cons_append] at this
    rw [spellCost]
    split
    · rename_i hrelational
      rwa [if_pos hrelational] at this
    · rename_i hrelational
      rwa [if_neg hrelational] at this
  | cast t e ih =>
    obtain ⟨htype, hoperand⟩ := he
    have hcast : Derives .unary _ (.cast t e.spelled) _ :=
      .base (.cast (ValueType.ofCastName?_castName htype) (ih hoperand))
    have hword : ¬ StartsWithWord (.symbol "(" :: .word t.castName :: .symbol ")" :: e.tokens) := by
      rintro ⟨name, rest, ⟨⟩⟩
    have := Derives.parenthesized hword (.unary hcast) (by decide)
    rwa [← Nat.add_assoc] at this

/-! ## Whole texts -/

/-- What the rendered text of an expression is read as, and when it is. -/
theorem parse_render_eq_ok_iff {e e' : Expr} :
    Expr.parse e.render = .ok e' ↔
      e.Legible ∧ e.spelled = e' ∧ groupCost + e.spellCost ≤ maxDepth := by
  have hread : e.Legible → (Expr.parse e.render = .ok e' ↔
      e.spelled = e' ∧ groupCost + e.spellCost ≤ maxDepth) := fun he ↦
    parse_eq_ok_iff_of (takes_render e)
      (.expression (.tier_mono (.unary (derives_tokens he)) (Nat.zero_le _)))
  constructor
  · intro hparse
    obtain ⟨tokens, need, htakes, hderives, -⟩ := parse_eq_ok_iff_derives.1 hparse
    obtain rfl := htakes.unique (takes_render e)
    have he : e.Legible := legible_of_isChain hderives.all_inVocabulary hderives.isChain_follows
    exact ⟨he, (hread he).1 hparse⟩
  · rintro ⟨he, hrest⟩
    exact (hread he).2 hrest

/-- **Rendering does not change the meaning.**  If the rendered text of an expression is read again,
as whatever tree, this tree has the same value in every context, or the same error. -/
theorem eval_of_parse_render (e e' : Expr) (c : Context) (h : Expr.parse e.render = .ok e') :
    e'.eval c = e.eval c := by
  obtain ⟨-, rfl, -⟩ := parse_render_eq_ok_iff.1 h
  exact e.eval_spelled c

/-- Neither constant comes back as it is: the narrow integer is read as a cast of a negation, and
the decimal, a negative zero with two places, as a negation. -/
theorem eval_of_parse_render_narrow :
    let e := binary .add (const (.int16 (-5)))
      (const (.decimal { negative := true, mantissa := 0, scale := 2 }))
    let e' := binary .add (cast .int16 (unary .negate (const (.int32 5))))
      (unary .negate (const (.decimal { negative := false, mantissa := 0, scale := 2 })))
    Expr.parse e.render = .ok e' ∧ e'.eval .empty = e.eval .empty := by
  intro e e'
  have hparse : Expr.parse e.render = .ok e' :=
    parse_render_eq_ok_iff.2 ⟨⟨rfl, trivial, trivial⟩, by decide, by decide⟩
  exact ⟨hparse, eval_of_parse_render e e' .empty hparse⟩

end Expr

end Formula
