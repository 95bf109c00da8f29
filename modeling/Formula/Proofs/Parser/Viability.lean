import Formula.Proofs.Parser.Soundness

/-!
# What the parser has taken when it fails

When a step of the parser fails, the tokens in front of the item that the error is about could be
the beginning of a phrase: they are `Viable`.

`Located` is that statement about one outcome, with the tokens before it that are part of the phrase
already, as in `Sound`.  A step that succeeds has nothing to show here, but what it has taken is
known from `sound`, and the steps behind it need that.  There is one lemma for each step, under the
assumption that the failures of the steps that it calls are located; `located` puts them together.
-/

set_option autoImplicit false

namespace Formula

/-! ## Beginnings of phrases -/

/-- Whether a phrase can begin with some tokens, whatever nesting it needs. -/
def Viable (phrase : Phrase) (tokens : List Token) : Prop :=
  ∃ more e need, Derives phrase (tokens ++ more) e need

namespace Viable

variable {tokens : List Token} {lower : Nat}

theorem of_derives {phrase : Phrase} {e : Expr} {need : Nat} (h : Derives phrase tokens e need) :
    Viable phrase tokens :=
  ⟨[], e, need, by rwa [List.append_nil]⟩

/-- Tokens that a phrase begins with, and that more of them completes. -/
theorem of_append {phrase : Phrase} {e : Expr} {need : Nat} (more : List Token)
    (h : Derives phrase (tokens ++ more) e need) : Viable phrase tokens :=
  ⟨more, e, need, h⟩

theorem unary (h : Viable .base tokens) : Viable .unary tokens := by
  obtain ⟨more, e, need, h⟩ := h
  exact ⟨more, e, need, .base h⟩

theorem tier (h : Viable .unary tokens) (tier : Nat) : Viable (.tier tier) tokens := by
  obtain ⟨more, e, need, h⟩ := h
  exact ⟨more, e, need, .tier_mono (.unary h) (Nat.zero_le tier)⟩

/-- A phrase of a tier is one of the next looser tier as well. -/
theorem succ (h : Viable (.tier lower) tokens) : Viable (.tier (lower + 1)) tokens := by
  obtain ⟨more, e, need, h⟩ := h
  exact ⟨more, e, need, h.tier_mono (Nat.le_succ lower)⟩

theorem expression (h : Viable (.tier BinaryOp.loosestTier) tokens) :
    Viable .expression tokens := by
  obtain ⟨more, e, need, h⟩ := h
  exact ⟨more, e, _, .expression h⟩

theorem nil_base : Viable .base [] := ⟨[.string ""], _, 0, .string ""⟩

theorem nil_unary : Viable .unary [] := nil_base.unary

theorem nil_tier (tier : Nat) : Viable (.tier tier) [] := nil_unary.tier tier

theorem nil_expression : Viable .expression [] := (nil_tier _).expression

/-- A chain goes on with an operator of its tier and another operand. -/
theorem chain {count need : Nat} {op : BinaryOp} {before : List Token} {left : Expr}
    (htier : lower + 1 ≠ BinaryOp.relationalTier) (hop : op ∈ tierOperators (lower + 1))
    (hleft : Derives (.chain lower count) before left need) (h : Viable (.tier lower) tokens) :
    Viable (.tier (lower + 1)) (before ++ .symbol op.symbol :: tokens) := by
  obtain ⟨more, right, need', h⟩ := h
  refine ⟨more, .binary op left right, max need (count + 1 + need'), ?_⟩
  simpa using Derives.chain htier (.more hop hleft h)

/-- A comparison goes on with an operator and another operand. -/
theorem comparison {need : Nat} {op : BinaryOp} {before : List Token} {left : Expr}
    (htier : lower + 1 = BinaryOp.relationalTier) (hop : op ∈ tierOperators (lower + 1))
    (hleft : Derives (.tier lower) before left need) (h : Viable (.tier lower) tokens) :
    Viable (.tier (lower + 1)) (before ++ .symbol op.symbol :: tokens) := by
  obtain ⟨more, right, need', h⟩ := h
  refine ⟨more, .binary op left right, max need need', ?_⟩
  simpa using Derives.comparison htier hop hleft h

theorem operator (op : UnaryOp) (h : Viable .unary tokens) :
    Viable .unary (.symbol op.symbol :: tokens) := by
  obtain ⟨more, e, need, h⟩ := h
  exact ⟨more, .unary op e, _, .operator h⟩

theorem plus (h : Viable .unary tokens) : Viable .unary (.symbol "+" :: tokens) := by
  obtain ⟨more, e, need, h⟩ := h
  exact ⟨more, e, _, .plus h⟩

theorem cast {name : String} {type : ValueType} (hname : ValueType.ofCastName? name = some type)
    (h : Viable .unary tokens) :
    Viable .base (.symbol "(" :: .word name :: .symbol ")" :: tokens) := by
  obtain ⟨more, e, need, h⟩ := h
  exact ⟨more, .cast type e, _, .cast hname h⟩

/-- An opening parenthesis can be followed by a string, among others. -/
theorem openParen : Viable .base [.symbol "("] := by
  have hstring : Derives .expression [.string ""] _ _ :=
    .expression (.tier_mono (.unary (.base (.string ""))) (Nat.zero_le _))
  refine of_append [.string "", .symbol ")"] (.group ?_ hstring)
  rintro ⟨text, rest, ⟨⟩⟩

/-- What begins like an expression, and not with a word, can be in a group. -/
theorem group (hword : ¬ StartsWithWord tokens) (h : Viable .expression tokens) :
    Viable .base (.symbol "(" :: tokens) := by
  obtain ⟨more, e, need, h⟩ := h
  cases tokens with
  | nil => exact openParen
  | cons t tokens =>
    have hgroup : ¬ StartsWithWord (t :: tokens ++ more) := by
      rintro ⟨text, rest, heq⟩
      cases heq
      exact hword ⟨text, tokens, rfl⟩
    refine ⟨more ++ [.symbol ")"], e, need, ?_⟩
    simpa using Derives.group hgroup h

/-- Behind an opening curly bracket a number is missing. -/
theorem openCurly : Viable .base [.symbol "\x7b"] := by
  have hread : NumberLiteral.read? "0".toList = some (.int32 0) := by decide
  exact of_append [.number "0", .symbol "\x7d"] (.var hread (by decide))

end Viable

/-! ## Errors -/

/-- What an error is about: the items from the one that it is about on, and the items that remain
when the parser has failed.  Past the end there is no item; an error of nesting is about the next
token and does not take it; and any other error has taken what it is about. -/
inductive Blames (stop : Nat) : ParseError → List Item → List Item → Prop
  | lexical (cause : LexError) (rest : List Item) :
      Blames stop (.lexical cause) (.error cause :: rest) rest
  | unexpectedEnd : Blames stop (.unexpectedEnd stop) [] []
  | tooDeepAtEnd : Blames stop (.nestingTooDeep stop) [] []
  | tooDeep (t : PlacedToken) (rest : List Item) :
      Blames stop (.nestingTooDeep t.position) (.token t :: rest) (.token t :: rest)
  | token {error : ParseError} {t : PlacedToken} (rest : List Item)
      (hfound : error.found? = some t.token.text) (hposition : error.position = t.position) :
      Blames stop error (.token t :: rest) rest

namespace Parser

/-- What an outcome has to be if it is a failure: the tokens in front of what the error is about go
on what has been taken before, as a beginning of the phrase. -/
def Located (phrase : Phrase) (before : List Token) (bounds : Bounds) (items : List Item) :
    Outcome Expr → Prop
  | .done .. => True
  | .failed error rest _ => ∃ tokens culprit, Takes items tokens culprit ∧
      Blames bounds.stop error culprit rest ∧ Viable phrase (before ++ tokens)

namespace Located

variable {phrase phrase' : Phrase} {before before' front : List Token} {bounds : Bounds}
  {depth : Nat} {items mid rest : List Item} {outcome : Outcome Expr} {error : ParseError}

/-- The beginning of a phrase is the beginning of another one. -/
theorem lift (h : Located phrase before bounds items outcome)
    (hviable : ∀ tokens, Viable phrase (before ++ tokens) → Viable phrase' (before' ++ tokens)) :
    Located phrase' before' bounds items outcome := by
  cases outcome with
  | done => trivial
  | failed error rest depth =>
    obtain ⟨tokens, culprit, htakes, hblames, h⟩ := h
    exact ⟨tokens, culprit, htakes, hblames, hviable tokens h⟩

theorem map (f : Expr → Expr) (h : Located phrase before bounds items outcome) :
    Located phrase before bounds items (outcome.map f) := by
  cases outcome with
  | done => trivial
  | failed => exact h

theorem release (cost : Nat) (h : Located phrase before bounds items outcome) :
    Located phrase before bounds items (outcome.release cost) := by
  cases outcome with
  | done => trivial
  | failed => exact h

/-- The failure was behind some tokens that are part of the phrase. -/
theorem extend (htakes : Takes items front mid)
    (h : Located phrase (before ++ front) bounds mid outcome) :
    Located phrase before bounds items outcome := by
  cases outcome with
  | done => trivial
  | failed error rest depth =>
    obtain ⟨tokens, culprit, htakes', hblames, h⟩ := h
    exact ⟨front ++ tokens, culprit, htakes.trans htakes', hblames, List.append_assoc .. ▸ h⟩

/-- The failure is at the next item. -/
theorem here (h : Viable phrase before) (hblames : Blames bounds.stop error items rest) :
    Located phrase before bounds items (.failed error rest depth) :=
  ⟨[], items, .nil items, hblames, by rwa [List.append_nil]⟩

theorem tooDeep (h : Viable phrase before) (items : List Item) :
    Located phrase before bounds items (Items.tooDeep bounds depth items) := by
  match items with
  | [] => exact here h .tooDeepAtEnd
  | .error cause :: rest => exact here h (.lexical cause rest)
  | .token t :: rest => exact here h (.tooDeep t rest)

/-- A symbol that has to come next is missing. -/
theorem of_expect {symbol : String} {depth' : Nat} (h : Viable phrase before)
    (hfailed : Items.expect symbol bounds depth items = .failed error rest depth') :
    Located phrase before bounds items (.failed error rest depth') := by
  match items with
  | [] =>
    cases hfailed
    exact here h .unexpectedEnd
  | .error cause :: rest =>
    cases hfailed
    exact here h (.lexical cause _)
  | .token t :: rest =>
    rw [Items.expect] at hfailed
    split at hfailed <;> cases hfailed
    exact here h (.token _ rfl rfl)

theorem expect {symbol : String} {e : Expr} (h : Viable phrase before) (items : List Item) :
    Located phrase before bounds items
      ((Items.expect symbol bounds depth items).map fun _ ↦ e) := by
  cases hexpect : Items.expect symbol bounds depth items with
  | done => trivial
  | failed => exact of_expect h hexpect

end Located

/-- Looking for an operator fails at a lexical error only. -/
theorem operator?_eq_failed {accepts : BinaryOp → Bool} {depth depth' : Nat}
    {items rest : List Item} {error : ParseError}
    (h : Items.operator? accepts depth items = .failed error rest depth') :
    ∃ cause, error = .lexical cause ∧ items = .error cause :: rest := by
  unfold Items.operator? at h
  split at h
  · cases h
  · cases h
    exact ⟨_, rfl, rfl⟩
  · split at h <;> cases h

/-! ## Each step, if the failures of the steps below it are located -/

section Steps

variable {bounds : Bounds} {depth lower : Nat}

theorem located_parseExpression
    (h : depth + groupCost ≤ bounds.budget → ∀ items,
      Located (.tier BinaryOp.loosestTier) [] bounds items
        (parseTier BinaryOp.loosestTier bounds (depth + groupCost) items))
    (items : List Item) :
    Located .expression [] bounds items (parseExpression bounds depth items) := by
  rw [parseExpression]
  split
  · rename_i hfits
    exact ((h hfits items).lift fun tokens hviable ↦ hviable.expression).release _
  · exact .tooDeep .nil_expression items

theorem located_parseOperand
    (h : depth + 1 ≤ bounds.budget → ∀ items,
      Located .unary [] bounds items (parseUnary bounds (depth + 1) items))
    (items : List Item) : Located .unary [] bounds items (parseOperand bounds depth items) := by
  rw [parseOperand]
  split
  · rename_i hfits
    exact (h hfits items).release _
  · exact .tooDeep .nil_unary items

/-- What follows the opening bracket of a variable. -/
theorem located_parseVariable (items : List Item) :
    Located .base [.symbol "\x7b"] bounds items (parseVariable bounds depth items) := by
  match items with
  | [] => exact .here .openCurly .unexpectedEnd
  | .error cause :: rest => exact .here .openCurly (.lexical cause rest)
  | .token t :: rest =>
    rw [parseVariable]
    split
    · rename_i index hindex
      obtain ⟨text, i, htoken, hread, hi, rfl⟩ := variableIndex?_eq_some_iff.1 hindex
      refine .extend (.single t rest) (.expect ?_ rest)
      rw [htoken]
      exact .of_append [.symbol "\x7d"] (.var hread hi)
    · exact .here .openCurly (.token rest rfl rfl)

/-- What follows an opening parenthesis. -/
theorem located_parseParenthesized
    (hoperand : ∀ items, Located .unary [] bounds items (parseOperand bounds depth items))
    (hexpression : ∀ items,
      Located .expression [] bounds items (parseExpression bounds depth items))
    (items : List Item) :
    Located .base [.symbol "("] bounds items (parseParenthesized bounds depth items) := by
  rw [parseParenthesized.eq_def]
  split
  · exact .here .openParen (.lexical _ _)
  · rename_i text position rest
    have hword := Takes.single ⟨.word text, position⟩ rest
    rw [parseCastType]
    cases hname : ValueType.ofCastName? text with
    | none => exact .here .openParen (.token rest rfl rfl)
    | some type =>
      have htype : Viable .base [.symbol "(", .word text] :=
        .of_append [.symbol ")", .string ""] (.cast hname (.base (.string "")))
      refine .extend hword ?_
      cases hclose : Items.expect ")" bounds depth rest with
      | failed => exact .of_expect htype hclose
      | done u rest' =>
        refine .extend (Items.expect_eq_done_iff.1 hclose) (.map _ ?_)
        exact (hoperand rest').lift fun tokens hviable ↦ hviable.cast hname
  · rename_i hword
    have hinner := hexpression items
    cases hdone : parseExpression bounds depth items with
    | failed error rest depth' =>
      rw [hdone] at hinner
      obtain ⟨tokens, culprit, htakes, hblames, hviable⟩ := hinner
      refine ⟨tokens, culprit, htakes, hblames, .group ?_ hviable⟩
      rintro ⟨text, tokens', rfl⟩
      obtain ⟨position, items', rfl, -⟩ := htakes.exists_of_cons
      exact hword _ _ _ rfl
    | done inner rest =>
      have hsound := (sound bounds depth).2.2 items
      rw [hdone] at hsound
      obtain ⟨tokens, need, htakes, hderives, -⟩ := hsound
      refine .extend htakes (.expect (.of_append [.symbol ")"] (.group ?_ hderives)) rest)
      rintro ⟨text, tokens', rfl⟩
      obtain ⟨position, items', rfl, -⟩ := htakes.exists_of_cons
      exact hword _ _ _ rfl

/-- An operand in brackets or of one token. -/
theorem located_parseBase
    (h : ∀ items, Located .base [.symbol "("] bounds items (parseParenthesized bounds depth items))
    (items : List Item) : Located .base [] bounds items (parseBase bounds depth items) := by
  rw [parseBase.eq_def]
  split
  · exact .here .nil_base .unexpectedEnd
  · exact .here .nil_base (.lexical _ _)
  · rename_i t rest
    have hfound : ∀ {error : ParseError}, error.found? = some t.token.text →
        error.position = t.position →
        Located .base [] bounds (.token t :: rest) (.failed error rest depth) :=
      fun hfound hposition ↦ .here .nil_base (.token rest hfound hposition)
    obtain ⟨⟨kind, text⟩, position⟩ := t
    cases kind with
    | number =>
      simp only
      split
      · trivial
      · exact hfound rfl rfl
    | string => trivial
    | word =>
      simp only
      split
      · trivial
      · exact hfound rfl rfl
    | symbol =>
      simp only
      split
      · rename_i htext
        cases htext
        exact .extend (.single _ rest) (h rest)
      split
      · rename_i htext
        cases htext
        exact .extend (.single _ rest) (located_parseVariable rest)
      · exact hfound rfl rfl

/-- An operand with its prefix operators. -/
theorem located_parseUnary
    (hoperand : ∀ items, Located .unary [] bounds items (parseOperand bounds depth items))
    (hbase : ∀ items, Located .base [] bounds items (parseBase bounds depth items))
    (items : List Item) : Located .unary [] bounds items (parseUnary bounds depth items) := by
  have hofBase : ∀ items, Located .unary [] bounds items (parseBase bounds depth items) :=
    fun items ↦ (hbase items).lift fun tokens hviable ↦ hviable.unary
  rw [parseUnary.eq_def]
  split
  · exact hofBase []
  · exact .here .nil_unary (.lexical _ _)
  · rename_i t rest
    split
    · rename_i op hlead
      refine .extend (.single t rest) (((hoperand rest).lift fun tokens hviable ↦ ?_).map _)
      rw [lead?_eq_some_iff.1 hlead]
      exact hviable.operator op
    · rename_i hlead
      refine .extend (.single t rest) ((hoperand rest).lift fun tokens hviable ↦ ?_)
      rw [lead?_eq_some_iff.1 hlead]
      exact hviable.plus
    · trivial
    · exact hofBase (.token t :: rest)

/-- What follows the left operand of a comparison by order, of which the tokens are `before`. -/
theorem located_parseComparison (htier : lower + 1 = BinaryOp.relationalTier)
    (h : ∀ items, Located (.tier lower) [] bounds items (parseTier lower bounds depth items))
    {left : Expr} {before : List Token} {need : Nat}
    (hleft : Derives (.tier lower) before left need) (items : List Item) :
    Located (.tier (lower + 1)) before bounds items
      (parseComparison lower bounds depth left items) := by
  rw [parseComparison]
  split
  · rename_i hfailed
    obtain ⟨cause, rfl, rfl⟩ := operator?_eq_failed hfailed
    exact .here (.of_derives (.operand htier hleft)) (.lexical cause _)
  · trivial
  · rename_i op rest hop
    obtain ⟨haccepts, hsymbol⟩ := Items.operator?_eq_some_iff.1 hop
    refine .extend hsymbol (((h rest).lift fun tokens hviable ↦ ?_).map _)
    simpa using hviable.comparison htier (mem_of_accepts haccepts) hleft

/-- What follows some operators of a chain, of which the tokens so far are `before`.  The induction
is on the nesting that is left. -/
theorem located_parseChain (htier : lower + 1 ≠ BinaryOp.relationalTier)
    (h : ∀ spent, depth < spent → spent ≤ bounds.budget → ∀ items,
      Located (.tier lower) [] bounds items (parseTier lower bounds spent items))
    {left : Expr} {before : List Token} {count need : Nat}
    (hleft : Derives (.chain lower count) before left need) (items : List Item) :
    Located (.tier (lower + 1)) before bounds items (parseChain lower bounds depth left items) := by
  induction hbudget : bounds.budget - depth using Nat.strongRecOn
    generalizing depth left before count need items with
  | _ budget ih =>
  rw [parseChain]
  split
  · rename_i hfailed
    obtain ⟨cause, rfl, rfl⟩ := operator?_eq_failed hfailed
    exact .here (.of_derives (.chain htier hleft)) (.lexical cause _)
  · trivial
  · rename_i op rest hop
    obtain ⟨haccepts, hsymbol⟩ := Items.operator?_eq_some_iff.1 hop
    have hop : op ∈ tierOperators (lower + 1) := mem_of_accepts haccepts
    split
    · rename_i hfits
      have hright := h (depth + 1) (by omega) hfits rest
      have hsound := (sound bounds (depth + 1)).2.1 lower rest
      split
      · rename_i hfailed
        rw [hfailed] at hright
        refine .extend hsymbol (hright.lift fun tokens hviable ↦ ?_)
        simpa using hviable.chain htier hop hleft
      · rename_i right rest' hdone
        rw [hdone] at hsound
        obtain ⟨tokens, need', htakes, hderives, -⟩ := hsound
        have hmore := Derives.more hop hleft hderives
        refine .extend (hsymbol.trans htakes) ?_
        exact ih _ (by omega) (fun spent hlt ↦ h spent (by omega)) hmore rest' rfl
    · refine .extend hsymbol (.tooDeep ?_ rest)
      exact (Viable.nil_tier lower).chain htier hop hleft

/-- A tier: the induction is on the tier. -/
theorem located_parseTier
    (hunary : ∀ items, Located .unary [] bounds items (parseUnary bounds depth items))
    (hdeeper : ∀ spent, depth < spent → spent ≤ bounds.budget → ∀ tier items,
      Located (.tier tier) [] bounds items (parseTier tier bounds spent items))
    (tier : Nat) (items : List Item) :
    Located (.tier tier) [] bounds items (parseTier tier bounds depth items) := by
  induction tier generalizing items with
  | zero =>
    rw [parseTier]
    exact (hunary items).lift fun tokens hviable ↦ hviable.tier 0
  | succ lower ih =>
    have hfirst := ih items
    have hsound := (sound bounds depth).2.1 lower items
    rw [parseTier]
    split
    · rename_i hfailed
      rw [hfailed] at hfirst
      exact hfirst.lift fun tokens hviable ↦ hviable.succ
    · rename_i left rest hdone
      rw [hdone] at hsound
      obtain ⟨tokens, need, htakes, hderives, -⟩ := hsound
      refine .extend htakes ?_
      split
      · rename_i htier
        exact located_parseComparison htier ih hderives rest
      · rename_i htier
        exact located_parseChain htier (fun spent hlt hle ↦ hdeeper spent hlt hle lower)
          (.alone hderives) rest

end Steps

/-! ## All steps -/

/-- **Every failure of the parser is located**, whatever nesting is in use. -/
theorem located (bounds : Bounds) (depth : Nat) :
    (∀ items, Located .unary [] bounds items (parseUnary bounds depth items)) ∧
    (∀ tier items, Located (.tier tier) [] bounds items (parseTier tier bounds depth items)) ∧
    ∀ items, Located .expression [] bounds items (parseExpression bounds depth items) :=
  steps_induction (fun _ ↦ located_parseOperand) (fun _ ↦ located_parseExpression)
    (fun _ ↦ located_parseParenthesized) (fun _ ↦ located_parseBase) (fun _ ↦ located_parseUnary)
    (fun _ ↦ located_parseTier) depth

end Parser

end Formula
