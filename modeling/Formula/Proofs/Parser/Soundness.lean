import Formula.Proofs.Items
import Formula.Proofs.Parser.Induction

/-!
# What the parser takes is a phrase

Every step of the parser that succeeds has taken a phrase of the grammar for the tree that it
returns, and there was room for the phrase's need in the budget.

`Sound` is that statement about one outcome.  Its parameter `before` is what lets it speak of a
chain in the middle: a chain is handed its left operand, so what it completes is a phrase that began
earlier, with the tokens of that operand.  There is one lemma for each step, under the assumption
that the steps it calls are sound, and `steps_induction` puts them together.  A step that fails has
nothing to show.
-/

set_option autoImplicit false

namespace Formula

/-- Only the spelling of an operator is read as that operator. -/
theorem UnaryOp.symbol_of_ofSymbol? {symbol : String} {op : UnaryOp}
    (h : ofSymbol? symbol = some op) : op.symbol = symbol := by
  simpa using List.find?_some h

namespace Parser

/-! ## Leaves -/

/-- The token of a prefix. -/
def Lead.token : Lead → Token
  | .operator op => .symbol op.symbol
  | .plus => .symbol "+"
  | .truth b => .word (Value.truthText b)

/-- Each prefix has one token. -/
theorem lead?_eq_some_iff {t : Token} {lead : Lead} : lead? t = some lead ↔ t = lead.token := by
  constructor
  · obtain ⟨kind, text⟩ := t
    intro h
    cases kind with
    | symbol =>
      simp only [lead?] at h
      split at h
      · rename_i htext
        cases h
        rw [htext]
        rfl
      · obtain ⟨op, hop, rfl⟩ := Option.map_eq_some_iff.1 h
        rw [← UnaryOp.symbol_of_ofSymbol? hop]
        rfl
    | word =>
      simp only [lead?] at h
      split at h
      · rename_i htext
        cases h
        rw [htext]
        rfl
      · split at h
        · rename_i htext
          cases h
          rw [htext]
          rfl
        · cases h
    | number => cases h
    | string => cases h
  · rintro rfl
    cases lead with
    | operator op => cases op <;> decide
    | plus => decide
    | truth b => cases b <;> decide

theorem lead?_token (lead : Lead) : lead? lead.token = some lead := lead?_eq_some_iff.2 rfl

/-- A variable is numbered by a 32-bit integer that is not negative. -/
theorem variableIndex?_eq_some_iff {t : Token} {index : Nat} :
    variableIndex? t = some index ↔
      ∃ (text : String) (i : Int32), t = .number text ∧
        NumberLiteral.read? text.toList = some (.int32 i) ∧ 0 ≤ i.toInt ∧
        i.toInt.toNat = index := by
  constructor
  · obtain ⟨kind, text⟩ := t
    intro h
    rw [variableIndex?] at h
    split at h
    · rename_i hkind
      cases hkind
      split at h
      · rename_i i hread
        split at h
        · rename_i hi
          cases h
          exact ⟨text, i, rfl, hread, hi, rfl⟩
        · cases h
      · cases h
    · cases h
  · rintro ⟨text, i, rfl, hread, hi, rfl⟩
    simp only [variableIndex?, Token.number, if_true, hread, if_pos hi]

/-- The type of a cast is taken exactly if the word names one and the parenthesis comes next. -/
theorem parseCastType_eq_done_iff {t : PlacedToken} {bounds : Bounds} {depth : Nat}
    {items rest : List Item} {type : ValueType} :
    parseCastType t bounds depth items = .done type rest ↔
      ValueType.ofCastName? t.token.text = some type ∧ Takes items [.symbol ")"] rest := by
  constructor
  · intro h
    rw [parseCastType] at h
    split at h
    · rename_i found hfound
      cases hexpect : Items.expect ")" bounds depth items with
      | failed error rest' depth' =>
        rw [hexpect] at h
        cases h
      | done u rest' =>
        rw [hexpect] at h
        cases h
        exact ⟨hfound, Items.expect_eq_done_iff.1 hexpect⟩
    · cases h
  · rintro ⟨hname, htakes⟩
    simp only [parseCastType, hname]
    rw [Items.expect_eq_done_iff (u := ()).2 htakes]
    rfl

theorem mem_of_accepts {op : BinaryOp} {tier : Nat} (h : (op.tier == tier) = true) :
    op ∈ tierOperators tier :=
  mem_tierOperators_iff.2 (by simpa using h)

/-! ## One outcome -/

/-- What an outcome has to be if it is a success: the tokens taken complete the phrase that begins
with `before`, and `cost` and the need of the phrase were in the budget. -/
def Sound (bounds : Bounds) (phrase : Phrase) (before : List Token) (cost depth : Nat)
    (items : List Item) : Outcome Expr → Prop
  | .done e rest => ∃ tokens need, Takes items tokens rest ∧
      Derives phrase (before ++ tokens) e need ∧ cost + need ≤ bounds.budget - depth
  | .failed .. => True

namespace Sound

variable {bounds : Bounds} {phrase phrase' : Phrase} {before before' front : List Token}
  {cost cost' depth depth' : Nat} {items mid : List Item} {outcome : Outcome Expr}

/-- The phrase is part of another one, with the same tokens at its end, for another expression. -/
theorem map (f : Expr → Expr) (h : Sound bounds phrase before cost depth items outcome)
    (hf : ∀ tokens e need, Derives phrase (before ++ tokens) e need →
      cost + need ≤ bounds.budget - depth →
      ∃ need', Derives phrase' (before' ++ tokens) (f e) need' ∧
        cost' + need' ≤ bounds.budget - depth') :
    Sound bounds phrase' before' cost' depth' items (outcome.map f) := by
  cases outcome with
  | failed => trivial
  | done e rest =>
    obtain ⟨tokens, need, htakes, hderives, hneed⟩ := h
    obtain ⟨need', hderives', hneed'⟩ := hf tokens e need hderives hneed
    exact ⟨tokens, need', htakes, hderives', hneed'⟩

/-- The phrase is part of another one, with the same tokens at its end, for the same expression. -/
theorem lift (h : Sound bounds phrase before cost depth items outcome)
    (hf : ∀ tokens e need, Derives phrase (before ++ tokens) e need →
      cost + need ≤ bounds.budget - depth →
      ∃ need', Derives phrase' (before' ++ tokens) e need' ∧
        cost' + need' ≤ bounds.budget - depth') :
    Sound bounds phrase' before' cost' depth' items outcome := by
  have hid : outcome.map id = outcome := by cases outcome <;> rfl
  exact hid ▸ h.map id hf

/-- The phrase was completed behind some tokens that are part of it. -/
theorem extend (htakes : Takes items front mid)
    (h : Sound bounds phrase (before ++ front) cost depth mid outcome) :
    Sound bounds phrase before cost depth items outcome := by
  cases outcome with
  | failed => trivial
  | done e rest =>
    obtain ⟨tokens, need, htakes', hderives, hneed⟩ := h
    exact ⟨front ++ tokens, need, htakes.trans htakes', List.append_assoc .. ▸ hderives, hneed⟩

/-- The phrase is complete up to a symbol that has to come next. -/
theorem expect {symbol : String} {spent need : Nat} {e : Expr}
    (h : Derives phrase (before ++ [.symbol symbol]) e need)
    (hneed : cost + need ≤ bounds.budget - depth) :
    Sound bounds phrase before cost depth items
      ((Items.expect symbol bounds spent items).map fun _ ↦ e) := by
  cases hexpect : Items.expect symbol bounds spent items with
  | failed => trivial
  | done u rest => exact ⟨[.symbol symbol], need, Items.expect_eq_done_iff.1 hexpect, h, hneed⟩

theorem release (spent : Nat) (h : Sound bounds phrase before cost depth items outcome) :
    Sound bounds phrase before cost depth items (outcome.release spent) := by
  cases outcome with
  | failed => trivial
  | done e rest => exact h

theorem tooDeep (spent : Nat) :
    Sound bounds phrase before cost depth items (Items.tooDeep bounds spent mid) := by
  cases mid with
  | nil => trivial
  | cons item mid => cases item <;> trivial

end Sound

/-! ## Each step, if the steps below it are sound -/

section Steps

variable {bounds : Bounds} {depth lower : Nat}

theorem sound_parseExpression
    (h : depth + groupCost ≤ bounds.budget → ∀ items,
      Sound bounds (.tier BinaryOp.loosestTier) [] 0 (depth + groupCost) items
        (parseTier BinaryOp.loosestTier bounds (depth + groupCost) items))
    (items : List Item) :
    Sound bounds .expression [] 0 depth items (parseExpression bounds depth items) := by
  rw [parseExpression]
  split
  · rename_i hfits
    refine ((h hfits items).lift fun tokens e need hderives hneed ↦ ?_).release _
    exact ⟨_, .expression hderives, by omega⟩
  · exact .tooDeep ..

theorem sound_parseOperand
    (h : depth + 1 ≤ bounds.budget → ∀ items,
      Sound bounds .unary [] 0 (depth + 1) items (parseUnary bounds (depth + 1) items))
    (items : List Item) :
    Sound bounds .unary [] 1 depth items (parseOperand bounds depth items) := by
  rw [parseOperand]
  split
  · rename_i hfits
    refine ((h hfits items).lift fun tokens e need hderives hneed ↦ ?_).release _
    exact ⟨need, hderives, by omega⟩
  · exact .tooDeep ..

/-- What follows the opening bracket of a variable. -/
theorem sound_parseVariable (items : List Item) :
    Sound bounds .base [.symbol "\x7b"] 0 depth items (parseVariable bounds depth items) := by
  cases items with
  | nil => trivial
  | cons item items =>
    cases item with
    | error e => trivial
    | token t =>
      rw [parseVariable]
      split
      · rename_i index hindex
        obtain ⟨text, i, htoken, hread, hi, rfl⟩ := variableIndex?_eq_some_iff.1 hindex
        refine .extend (.single t items) (.expect ?_ (show 0 + 0 ≤ _ from Nat.zero_le _))
        rw [htoken]
        exact .var hread hi
      · trivial

/-- What follows an opening parenthesis. -/
theorem sound_parseParenthesized
    (hoperand : ∀ items, Sound bounds .unary [] 1 depth items (parseOperand bounds depth items))
    (hexpression : ∀ items,
      Sound bounds .expression [] 0 depth items (parseExpression bounds depth items))
    (items : List Item) :
    Sound bounds .base [.symbol "("] 0 depth items (parseParenthesized bounds depth items) := by
  rw [parseParenthesized.eq_def]
  split
  · trivial
  · rename_i text position rest
    cases htype : parseCastType ⟨⟨.word, text⟩, position⟩ bounds depth rest with
    | failed => trivial
    | done type rest' =>
      obtain ⟨hname, htakes⟩ := parseCastType_eq_done_iff.1 htype
      refine .extend (.cons _ htakes) ((hoperand rest').map _ fun tokens e need hderives hneed ↦ ?_)
      exact ⟨1 + need, .cast hname hderives, by omega⟩
  · rename_i hword
    have hsound := hexpression items
    cases hinner : parseExpression bounds depth items with
    | failed => trivial
    | done inner rest =>
      rw [hinner] at hsound
      obtain ⟨tokens, need, htakes, hderives, hneed⟩ := hsound
      refine .extend htakes (.expect (.group (fun hstarts ↦ ?_) hderives) hneed)
      obtain ⟨text, tokens', rfl⟩ := hstarts
      obtain ⟨position, items', rfl, _⟩ := htakes.exists_of_cons
      exact hword _ _ _ rfl

/-- An operand in brackets or of one token. -/
theorem sound_parseBase
    (h : ∀ items,
      Sound bounds .base [.symbol "("] 0 depth items (parseParenthesized bounds depth items))
    (items : List Item) : Sound bounds .base [] 0 depth items (parseBase bounds depth items) := by
  rw [parseBase.eq_def]
  split
  · trivial
  · trivial
  · rename_i t rest
    obtain ⟨⟨kind, text⟩, position⟩ := t
    cases kind with
    | number =>
      simp only
      split
      · rename_i value hread
        exact ⟨[.number text], 0, .single _ rest, .number hread, Nat.zero_le _⟩
      · trivial
    | string => exact ⟨[.string text], 0, .single _ rest, .string text, Nat.zero_le _⟩
    | word =>
      simp only
      split
      · rename_i htext
        cases htext
        exact ⟨[.word "null"], 0, .single _ rest, .null, Nat.zero_le _⟩
      · trivial
    | symbol =>
      simp only
      split
      · rename_i htext
        cases htext
        exact .extend (.single _ rest) (h rest)
      split
      · rename_i htext
        cases htext
        exact .extend (.single _ rest) (sound_parseVariable rest)
      · trivial

/-- An operand with its prefix operators. -/
theorem sound_parseUnary
    (hoperand : ∀ items, Sound bounds .unary [] 1 depth items (parseOperand bounds depth items))
    (hbase : ∀ items, Sound bounds .base [] 0 depth items (parseBase bounds depth items))
    (items : List Item) : Sound bounds .unary [] 0 depth items (parseUnary bounds depth items) := by
  have hofBase : ∀ items, Sound bounds .unary [] 0 depth items (parseBase bounds depth items) :=
    fun items ↦ (hbase items).lift fun tokens e need hderives hneed ↦ ⟨need, .base hderives, hneed⟩
  rw [parseUnary.eq_def]
  split
  · exact hofBase []
  · trivial
  · rename_i t rest
    split
    · rename_i op hlead
      refine .extend (.single t rest)
        ((hoperand rest).map _ fun tokens e need hderives hneed ↦ ⟨1 + need, ?_, by omega⟩)
      rw [lead?_eq_some_iff.1 hlead]
      exact .operator hderives
    · rename_i hlead
      refine .extend (.single t rest)
        ((hoperand rest).lift fun tokens e need hderives hneed ↦ ⟨1 + need, ?_, by omega⟩)
      rw [lead?_eq_some_iff.1 hlead]
      exact .plus hderives
    · rename_i b hlead
      refine ⟨[t.token], 0, .single t rest, ?_, Nat.zero_le _⟩
      rw [lead?_eq_some_iff.1 hlead]
      exact .truth b
    · exact hofBase (.token t :: rest)

/-- What follows the left operand of a comparison by order, of which the tokens are `before`. -/
theorem sound_parseComparison (htier : lower + 1 = BinaryOp.relationalTier)
    (h : ∀ items, Sound bounds (.tier lower) [] 0 depth items (parseTier lower bounds depth items))
    {left : Expr} {before : List Token} {need : Nat}
    (hleft : Derives (.tier lower) before left need) (hneed : need ≤ bounds.budget - depth)
    (items : List Item) :
    Sound bounds (.tier (lower + 1)) before 0 depth items
      (parseComparison lower bounds depth left items) := by
  rw [parseComparison]
  split
  · trivial
  · rename_i hnone
    rw [Items.eq_of_operator?_eq_none hnone]
    exact ⟨[], need, .nil items, by simpa using .operand htier hleft, by omega⟩
  · rename_i op rest hop
    obtain ⟨haccepts, hsymbol⟩ := Items.operator?_eq_some_iff.1 hop
    refine .extend hsymbol ((h rest).map _ fun tokens r need' hderives hneed' ↦ ?_)
    refine ⟨max need need', ?_, by omega⟩
    simpa using Derives.comparison htier (mem_of_accepts haccepts) hleft hderives

/-- What follows `count` operators of a chain that began with `depth` nesting in use, of which the
tokens so far are `before`.  The induction is on the nesting that is left. -/
theorem sound_parseChain (htier : lower + 1 ≠ BinaryOp.relationalTier)
    (h : ∀ spent, depth < spent → spent ≤ bounds.budget → ∀ items,
      Sound bounds (.tier lower) [] 0 spent items (parseTier lower bounds spent items))
    {left : Expr} {before : List Token} {count need : Nat}
    (hleft : Derives (.chain lower count) before left need) (hneed : need ≤ bounds.budget - depth)
    (items : List Item) :
    Sound bounds (.tier (lower + 1)) before 0 depth items
      (parseChain lower bounds (depth + count) left items) := by
  induction hbudget : bounds.budget - (depth + count) using Nat.strongRecOn
    generalizing left before count need items with
  | _ budget ih =>
  rw [parseChain]
  split
  · trivial
  · rename_i hnone
    rw [Items.eq_of_operator?_eq_none hnone]
    exact ⟨[], need, .nil items, by simpa using .chain htier hleft, by omega⟩
  · rename_i op rest hop
    split
    · rename_i hfits
      have hsound := h (depth + count + 1) (by omega) hfits rest
      split
      · trivial
      · rename_i right rest' hright
        rw [hright] at hsound
        obtain ⟨haccepts, hsymbol⟩ := Items.operator?_eq_some_iff.1 hop
        obtain ⟨tokens, need', htakes, hderives, hneed'⟩ := hsound
        have hmore := Derives.more (mem_of_accepts haccepts) hleft hderives
        exact .extend (hsymbol.trans htakes) (ih _ (by omega) hmore (by omega) rest' rfl)
    · exact .tooDeep ..

/-- A tier: the induction is on the tier. -/
theorem sound_parseTier
    (hunary : ∀ items, Sound bounds .unary [] 0 depth items (parseUnary bounds depth items))
    (hdeeper : ∀ spent, depth < spent → spent ≤ bounds.budget → ∀ tier items,
      Sound bounds (.tier tier) [] 0 spent items (parseTier tier bounds spent items))
    (tier : Nat) (items : List Item) :
    Sound bounds (.tier tier) [] 0 depth items (parseTier tier bounds depth items) := by
  induction tier generalizing items with
  | zero =>
    rw [parseTier]
    exact (hunary items).lift fun tokens e need hderives hneed ↦ ⟨need, .unary hderives, hneed⟩
  | succ lower ih =>
    have hsound := ih items
    rw [parseTier]
    split
    · trivial
    · rename_i left rest hleft
      rw [hleft] at hsound
      obtain ⟨tokens, need, htakes, hderives, hneed⟩ := hsound
      refine .extend htakes ?_
      split
      · rename_i htier
        exact sound_parseComparison htier ih hderives (by omega) rest
      · rename_i htier
        exact sound_parseChain htier (fun spent hlt hle ↦ hdeeper spent hlt hle lower)
          (.alone hderives) (by omega) rest

end Steps

/-! ## All steps -/

/-- **Every step of the parser is sound**, whatever nesting is in use. -/
theorem sound (bounds : Bounds) (depth : Nat) :
    (∀ items, Sound bounds .unary [] 0 depth items (parseUnary bounds depth items)) ∧
    (∀ tier items, Sound bounds (.tier tier) [] 0 depth items (parseTier tier bounds depth items)) ∧
    ∀ items, Sound bounds .expression [] 0 depth items (parseExpression bounds depth items) :=
  steps_induction (fun _ ↦ sound_parseOperand) (fun _ ↦ sound_parseExpression)
    (fun _ ↦ sound_parseParenthesized) (fun _ ↦ sound_parseBase) (fun _ ↦ sound_parseUnary)
    (fun _ ↦ sound_parseTier) depth

/-- The phrases that a level takes. -/
def Level.phrase : Level → Phrase
  | .expression => .expression
  | .tier k => .tier k
  | .unary => .unary
  | .base => .base

/-- **Every level is sound.** -/
theorem sound_parseLevel (level : Level) (bounds : Bounds) (depth : Nat) (items : List Item) :
    Sound bounds level.phrase [] 0 depth items (parseLevel level bounds depth items) := by
  obtain ⟨hunary, htier, hexpression⟩ := sound bounds depth
  cases level with
  | expression => exact hexpression items
  | tier k => exact htier k items
  | unary => exact hunary items
  | base =>
    have hoperand : ∀ items,
        Sound bounds .unary [] 1 depth items (parseOperand bounds depth items) :=
      sound_parseOperand fun _ ↦ (sound bounds (depth + 1)).1
    exact sound_parseBase (sound_parseParenthesized hoperand hexpression) items

end Parser

end Formula
