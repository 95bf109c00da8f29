import Formula.Proofs.Parser.Completeness

/-!
# Phrases beyond the budget are refused

`Parser.complete` is about phrases whose need is in the budget.  The others are refused because of
it: `refuses`.  Nothing has to be known of what follows such a phrase, since the parser fails inside
of it.

Together they say what becomes of a text whose tokens have a derivation, `Expr.parse_eq_ok_iff_of`.
That the tokens might have another derivation, of less need, has not to be considered: the parser
would have to read the text and to refuse it.
-/

set_option autoImplicit false

namespace Formula

/-- No phrase is empty. -/
theorem Derives.ne_nil {phrase : Phrase} {tokens : List Token} {e : Expr} {need : Nat}
    (h : Derives phrase tokens e need) : tokens ≠ [] := by
  induction h with
  | expression h ih | chain htier h ih | alone h ih | operand htier h ih | unary h ih
  | base h ih => exact ih
  | more | comparison => simp
  | operator | plus | truth | number | string | null | cast | group | var =>
    exact List.cons_ne_nil _ _

/-! ## Failures -/

namespace Outcome

variable {α β : Type} {outcome : Outcome α}

/-- Whether an outcome is the failure of a descent beyond the budget. -/
def IsTooDeep (outcome : Outcome α) : Prop :=
  ∃ position rest depth, outcome = failed (.nestingTooDeep position) rest depth

theorem not_isTooDeep_done (value : α) (rest : List Item) : ¬ (done value rest).IsTooDeep := by
  rintro ⟨_, _, _, ⟨⟩⟩

theorem IsTooDeep.map (f : α → β) (h : outcome.IsTooDeep) : (outcome.map f).IsTooDeep := by
  obtain ⟨position, rest, depth, rfl⟩ := h
  exact ⟨position, rest, depth, rfl⟩

theorem IsTooDeep.release (cost : Nat) (h : outcome.IsTooDeep) :
    (outcome.release cost).IsTooDeep := by
  obtain ⟨position, rest, depth, rfl⟩ := h
  exact ⟨position, rest, depth - cost, rfl⟩

end Outcome

/-- A descent beyond the budget is reported at the next token, if there is one. -/
theorem Items.isTooDeep_tooDeep {α : Type} {bounds : Bounds} {depth : Nat} {items rest : List Item}
    {tokens : List Token} (h : Takes items tokens rest) (hne : tokens ≠ []) :
    (tooDeep bounds depth items : Outcome α).IsTooDeep := by
  cases h with
  | nil => exact absurd rfl hne
  | cons => exact ⟨_, _, _, rfl⟩

namespace Parser

variable {bounds : Bounds} {tier lower depth : Nat} {items rest : List Item} {tokens : List Token}
  {e : Expr} {need : Nat}

/-! ## Failures inside of larger phrases -/

/-- A tier fails with its first operand. -/
theorem isTooDeep_parseTier_succ (h : (parseTier lower bounds depth items).IsTooDeep) :
    (parseTier (lower + 1) bounds depth items).IsTooDeep := by
  rw [parseTier]
  split
  · rename_i hfailed
    rwa [hfailed] at h
  · rename_i hdone
    exact absurd (hdone ▸ h) (Outcome.not_isTooDeep_done _ _)

/-- The operand of a prefix operator or a cast fails if it fails one level deeper. -/
theorem isTooDeep_parseOperand (htakes : Takes items tokens rest)
    (hderives : Derives .unary tokens e need)
    (h : depth + 1 ≤ bounds.budget → (parseUnary bounds (depth + 1) items).IsTooDeep) :
    (parseOperand bounds depth items).IsTooDeep := by
  rw [parseOperand]
  split
  · rename_i hfits
    exact (h hfits).release 1
  · exact Items.isTooDeep_tooDeep htakes hderives.ne_nil

/-- A comparison fails with its right operand. -/
theorem isTooDeep_parseComparison {left : Expr} {op : BinaryOp} {rest : List Item}
    (hsymbol : Takes items [.symbol op.symbol] rest) (hop : op ∈ tierOperators (lower + 1))
    (h : (parseTier lower bounds depth rest).IsTooDeep) :
    (parseComparison lower bounds depth left items).IsTooDeep := by
  rw [parseComparison, operator?_of_takes hsymbol hop]
  exact h.map _

/-- A chain fails with its next operand. -/
theorem isTooDeep_parseChain {left : Expr} {op : BinaryOp} {mid : List Item}
    (hsymbol : Takes items [.symbol op.symbol] mid) (hop : op ∈ tierOperators (lower + 1))
    (htakes : Takes mid tokens rest) (hderives : Derives (.tier lower) tokens e need)
    (h : depth + 1 ≤ bounds.budget → (parseTier lower bounds (depth + 1) mid).IsTooDeep) :
    (parseChain lower bounds depth left items).IsTooDeep := by
  rw [parseChain, operator?_of_takes hsymbol hop]
  simp only
  split
  · rename_i hfits
    have hdeep := h hfits
    split
    · rename_i hfailed
      rwa [hfailed] at hdeep
    · rename_i hdone
      exact absurd (hdone ▸ hdeep) (Outcome.not_isTooDeep_done _ _)
  · exact Items.isTooDeep_tooDeep htakes hderives.ne_nil

/-! ## Each phrase -/

/-- The failure of the parser at a phrase. -/
def Refused (bounds : Bounds) (depth : Nat) (items : List Item) : Phrase → Prop
  | .expression => (parseExpression bounds depth items).IsTooDeep
  | .tier tier => (parseTier tier bounds depth items).IsTooDeep
  | .chain lower _ =>
    lower + 1 ≠ BinaryOp.relationalTier → (parseTier (lower + 1) bounds depth items).IsTooDeep
  | .unary => (parseUnary bounds depth items).IsTooDeep
  | .base => (parseBase bounds depth items).IsTooDeep

/-- **A phrase that is not in the budget is refused.** -/
theorem refuses (bounds : Bounds) {phrase : Phrase} {tokens : List Token} {e : Expr} {need : Nat}
    (h : Derives phrase tokens e need) :
    ∀ depth items rest, Takes items tokens rest → bounds.budget - depth < need →
      Refused bounds depth items phrase := by
  induction h with
  | expression h ih =>
    intro depth items rest htakes hneed
    rw [Refused, parseExpression]
    split
    · exact (ih _ items rest htakes (by omega)).release _
    · exact Items.isTooDeep_tooDeep htakes h.ne_nil
  | chain htier h ih =>
    intro depth items rest htakes hneed
    exact ih depth items rest htakes hneed htier
  | alone h ih =>
    intro depth items rest htakes hneed _
    exact isTooDeep_parseTier_succ (ih depth items rest htakes hneed)
  | @more lower count op left right l r n m hop hl hr ihl ihr =>
    intro depth items rest htakes hneed htier
    obtain ⟨mid, hleft, hmid⟩ := htakes.exists_of_append
    obtain ⟨mid', hsymbol, hright⟩ := hmid.uncons
    rcases Nat.lt_or_ge (bounds.budget - depth) n with hdeep | hfits
    · exact ihl depth items mid hleft hdeep htier
    · -- the chain gets as far as this operator
      rw [complete bounds hl depth items mid hleft hfits htier (stops_of_takes_operator hop hmid)]
      exact isTooDeep_parseChain hsymbol hop hright hr fun _ ↦ ihr _ mid' rest hright (by omega)
  | operand htier h ih =>
    intro depth items rest htakes hneed
    exact isTooDeep_parseTier_succ (ih depth items rest htakes hneed)
  | @comparison lower op left right l r n m htier hop hl hr ihl ihr =>
    intro depth items rest htakes hneed
    obtain ⟨mid, hleft, hmid⟩ := htakes.exists_of_append
    obtain ⟨mid', hsymbol, hright⟩ := hmid.uncons
    rcases Nat.lt_or_ge (bounds.budget - depth) n with hdeep | hfits
    · exact isTooDeep_parseTier_succ (ihl depth items mid hleft hdeep)
    · rw [Refused, parseTier,
        complete bounds hl depth items mid hleft hfits (stops_of_takes_operator hop hmid)]
      simp only [if_pos htier]
      exact isTooDeep_parseComparison hsymbol hop (ihr depth mid' rest hright (by omega))
  | unary h ih =>
    intro depth items rest htakes hneed
    rw [Refused, parseTier]
    exact ih depth items rest htakes hneed
  | operator h ih =>
    intro depth items rest htakes hneed
    obtain ⟨items', htail, hparse⟩ := parseUnary_of_operator htakes
    rw [Refused, hparse]
    exact (isTooDeep_parseOperand htail h fun _ ↦ ih _ items' rest htail (by omega)).map _
  | plus h ih =>
    intro depth items rest htakes hneed
    obtain ⟨items', htail, hparse⟩ := parseUnary_of_plus htakes
    rw [Refused, hparse]
    exact isTooDeep_parseOperand htail h fun _ ↦ ih _ items' rest htail (by omega)
  | truth | number | string | null | var =>
    intro depth items rest _ hneed
    exact absurd hneed (Nat.not_lt_zero _)
  | base h ih =>
    intro depth items rest htakes hneed
    rw [Refused, parseUnary_of_base htakes h]
    exact ih depth items rest htakes hneed
  | cast hname h ih =>
    intro depth items rest htakes hneed
    obtain ⟨items', htail, hparse⟩ := parseBase_of_cast hname htakes
    rw [Refused, hparse]
    exact (isTooDeep_parseOperand htail h fun _ ↦ ih _ items' rest htail (by omega)).map _
  | group hword h ih =>
    intro depth items rest htakes hneed
    obtain ⟨items', mid, hinner, -, hparse⟩ := parseBase_of_group hword htakes
    have hdeep : (parseExpression bounds depth items').IsTooDeep := ih depth items' mid hinner hneed
    rw [Refused, hparse]
    split
    · rename_i hfailed
      rwa [hfailed] at hdeep
    · rename_i hdone
      exact absurd (hdone ▸ hdeep) (Outcome.not_isTooDeep_done _ _)

/-- Items that are the tokens of a phrase of a level are taken whole, or they are too deep. -/
theorem parseLevel_of_derives (level : Level) (bounds : Bounds) (depth : Nat)
    (htakes : Takes items tokens []) (h : Derives level.phrase tokens e need) :
    (parseLevel level bounds depth items = .done e [] ∧ need ≤ bounds.budget - depth) ∨
      ((parseLevel level bounds depth items).IsTooDeep ∧ bounds.budget - depth < need) := by
  rcases Nat.lt_or_ge (bounds.budget - depth) need with hdeep | hfits
  · have hrefused := refuses bounds h depth items [] htakes hdeep
    exact .inr ⟨by cases level <;> exact hrefused, hdeep⟩
  · have htaken := complete bounds h depth items [] htakes hfits
    refine .inl ⟨?_, hfits⟩
    cases level with
    | expression | tier => exact htaken trivial
    | unary | base => exact htaken

end Parser

/-! ## Whole texts -/

/-- A text whose tokens have a derivation is read as what that is for, unless the derivation needs
more than the budget. -/
theorem Expr.parse_eq_ok_iff_of {source : String} {tokens : List Token} {e e' : Expr} {need : Nat}
    (htakes : Takes (Lexer.items source) tokens []) (h : Derives .expression tokens e need) :
    Expr.parse source = .ok e' ↔ e = e' ∧ need ≤ maxDepth := by
  rw [Expr.parse_eq_ok_iff_done]
  have htaken := Parser.parseLevel_of_derives .expression (.ofSource source) 0 htakes h
  rw [Parser.parseLevel, Nat.sub_zero, Bounds.budget_ofSource] at htaken
  rcases htaken with ⟨hdone, hfits⟩ | ⟨hdeep, hneed⟩
  · simp [hdone, hfits]
  · constructor
    · intro hdone
      exact absurd (hdone ▸ hdeep) (Outcome.not_isTooDeep_done _ _)
    · rintro ⟨-, hfits⟩
      omega

end Formula
