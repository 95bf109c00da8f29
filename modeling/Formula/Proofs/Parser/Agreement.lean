import Formula.Proofs.Parser.Equations
import Formula.Proofs.Parser.Steps
import Formula.Proofs.Stream.Depth

/-!
# The parser and its steps agree

The parser works on a stream and counts the nesting there; its steps over items are told how much is
in use.  They come to the same wherever no cost wraps around (`TokenStream.parse_eq`), and hence on
whole texts, which begin with nothing in use (`Expr.parse_eq`).

In front of a cost that wraps around the count is no longer what has been spent, and a descent that
should fail succeeds.  But the parser does not take anything else for an expression then: what it
finds is what the steps find if the budget is large enough (`TokenStream.done_of_parse`).

Both are shown at once.  `Meets exact` says how a stream and the nesting that a step is told belong
together, and `Accords exact` what a parse has to come to, where `exact` is whether errors count,
too.  There is one lemma for each function, under the assumption that the functions it calls agree
with their steps, and the induction is on the items that remain.
-/

set_option autoImplicit false

namespace Formula

open Nesting TokenStream

/-! ## One parse and one outcome -/

/-- A stream and the nesting that a step is told.  The budget of the step is enough for whatever may
be spent on the stream.  If errors count, the two budgets and the nesting in use are the same. -/
structure Meets (exact : Prop) (bounds : Bounds) (depth : Nat) (s : TokenStream) : Prop where
  stop : s.stop = bounds.stop
  room : depth + room s.depth ≤ bounds.budget ∨ room s.depth = 0
  counts : exact → bounds.budget = maxDepth ∧ s.depth.toNat = depth ∧
    depth + groupCost < UInt64.size

/-- What a parse has to come to.  If it succeeds, so does the step, with the same value and the same
items, and the count has returned to what it was.  If it fails and errors count, then the step fails
alike, and no nesting is gained. -/
def Accords {α : Type} (exact : Prop) (bounds : Bounds) (home : UInt64) (outcome : Outcome α)
    (found : Except ParseError α × TokenStream) : Prop :=
  found.2.stop = bounds.stop ∧
  match found.1 with
  | .ok value => outcome = .done value found.2.items ∧ Returns home found.2.depth
  | .error e => exact → outcome = .failed e found.2.items found.2.depth.toNat ∧
      home.toNat ≤ found.2.depth.toNat ∧
      found.2.depth.toNat ≤ max home.toNat maxDepth + groupCost

section Combinators

variable {exact : Prop} {bounds : Bounds} {depth cost : Nat} {home : UInt64} {s s' : TokenStream}
  {α β : Type} {outcome : Outcome α} {found : Except ParseError α × TokenStream}

/-- Behind a construct that returns, the stream and the nesting belong together as before. -/
theorem Meets.returns (h : Meets exact bounds depth s) (hstop : s'.stop = bounds.stop)
    (hdepth : Returns s.depth s'.depth) : Meets exact bounds depth s' where
  stop := hstop
  room := by
    have := hdepth.room_le
    have := h.room
    omega
  counts hexact := by
    obtain ⟨hbudget, hcount, hlt⟩ := h.counts hexact
    rw [hdepth.eq (by omega)]
    exact ⟨hbudget, hcount, hlt⟩

/-- With other items the stream and the nesting belong together as well. -/
theorem Meets.items (h : Meets exact bounds depth s) (items : List Item) :
    Meets exact bounds depth { s with items } :=
  ⟨h.stop, h.room, h.counts⟩

/-- What a descent has found, if it is in the budget of the stream. -/
theorem Meets.spend (h : Meets exact bounds depth s) (hpos : 0 < cost) (hcost : cost ≤ groupCost)
    (hfits : (s.spend cost).depth.toNat ≤ maxDepth) :
    depth + cost ≤ bounds.budget ∧ Meets exact bounds (depth + cost) (s.spend cost) := by
  have hroom : Nesting.room (s.spend cost).depth + cost = Nesting.room s.depth :=
    room_spend hcost hfits
  have hle := h.room
  refine ⟨by omega, h.stop, by omega, fun hexact ↦ ?_⟩
  obtain ⟨hbudget, hcount, hlt⟩ := h.counts hexact
  have hspent : (s.spend cost).depth.toNat = s.depth.toNat + cost :=
    toNat_spend_of_lt (by omega)
  refine ⟨hbudget, by omega, ?_⟩
  simp only [groupCost, maxDepth, UInt64.size] at *
  omega

/-- The nesting in use is no less than `home`, and no more than the budget if it is more. -/
def Near (exact : Prop) (home depth : UInt64) : Prop :=
  exact → home.toNat ≤ depth.toNat ∧ depth.toNat ≤ max home.toNat maxDepth

theorem Near.refl (exact : Prop) (depth : UInt64) : Near exact depth depth :=
  fun _ ↦ by omega

namespace Accords

theorem ok (value : α) (hstop : s.stop = bounds.stop) (h : Returns home s.depth) :
    Accords exact bounds home (.done value s.items) (.ok value, s) :=
  ⟨hstop, rfl, h⟩

theorem error (e : ParseError) (hs : Meets exact bounds depth s) (hnear : Near exact home s.depth) :
    Accords exact bounds home (.failed e s.items depth : Outcome α) (.error e, s) := by
  refine ⟨hs.stop, fun hexact ↦ ?_⟩
  obtain ⟨-, hcount, -⟩ := hs.counts hexact
  have := hnear hexact
  exact ⟨by rw [hcount], this.1, by simp only; omega⟩

theorem map (f : α → β) (h : Accords exact bounds home outcome found) :
    Accords exact bounds home (outcome.map f) (found.map (.map f) id) := by
  obtain ⟨_ | value, s⟩ := found
  · refine ⟨h.1, fun hexact ↦ ?_⟩
    obtain ⟨rfl, hdepth⟩ := h.2 hexact
    exact ⟨rfl, hdepth⟩
  · obtain ⟨hstop, rfl, hdepth⟩ := h
    exact ⟨hstop, rfl, hdepth⟩

/-- What a descent has spent is given back, after a failure, too. -/
theorem release (hs : Meets exact bounds depth s) (hcost : cost ≤ groupCost)
    (hfits : (s.spend cost).depth.toNat ≤ maxDepth)
    (h : Accords exact bounds (s.spend cost).depth outcome found) :
    Accords exact bounds s.depth (outcome.release cost) (found.map id (ascend cost)) := by
  obtain ⟨_ | value, s'⟩ := found
  · refine ⟨h.1, fun hexact ↦ ?_⟩
    obtain ⟨rfl, hhome, hle⟩ := h.2 hexact
    obtain ⟨-, hcount, hlt⟩ := hs.counts hexact
    have hspent : (s.spend cost).depth.toNat = s.depth.toNat + cost :=
      toNat_spend_of_lt (by omega)
    simp only [Prod.map, id, ascend, toNat_giveBack] at hhome hle ⊢
    exact ⟨rfl, by omega, by omega⟩
  · obtain ⟨hstop, rfl, hdepth⟩ := h
    exact ⟨hstop, rfl, hdepth.giveBack hcost hfits⟩

/-- One parse and what is done behind it, where not the same is in use as in the whole. -/
theorem andThen_of_near {home' : UInt64} {next : α → List Item → Outcome β}
    {behind : α → TokenStream → Except ParseError β × TokenStream}
    (h : Accords exact bounds home outcome found) (hnear : Near exact home' home)
    (hnext : ∀ value s', found = (.ok value, s') → s'.stop = bounds.stop →
      Returns home s'.depth → Accords exact bounds home' (next value s'.items) (behind value s')) :
    Accords exact bounds home' (outcome.andThen next) (TokenStream.andThen found behind) := by
  obtain ⟨_ | value, s⟩ := found
  · refine ⟨h.1, fun hexact ↦ ?_⟩
    obtain ⟨rfl, hhome, hle⟩ := h.2 hexact
    have := hnear hexact
    simp only [TokenStream.andThen] at hhome hle ⊢
    exact ⟨rfl, by omega, by omega⟩
  · obtain ⟨hstop, rfl, hdepth⟩ := h
    exact hnext value s rfl hstop hdepth

/-- The same as seen from where another nesting is in use. -/
theorem of_home {home' : UInt64} (h : Accords exact bounds home' outcome found)
    (hreturns : ∀ {after}, Returns home' after → Returns home after)
    (hcounts : exact → home' = home) : Accords exact bounds home outcome found := by
  obtain ⟨_ | value, s'⟩ := found
  · exact ⟨h.1, fun hexact ↦ hcounts hexact ▸ h.2 hexact⟩
  · obtain ⟨hstop, rfl, hdepth⟩ := h
    exact ⟨hstop, rfl, hreturns hdepth⟩

/-- One parse and what is done behind it. -/
theorem andThen {next : α → List Item → Outcome β}
    {behind : α → TokenStream → Except ParseError β × TokenStream} (hs : Meets exact bounds depth s)
    (h : Accords exact bounds s.depth outcome found)
    (hnext : ∀ value s', found = (.ok value, s') → Meets exact bounds depth s' →
      Accords exact bounds s'.depth (next value s'.items) (behind value s')) :
    Accords exact bounds s.depth (outcome.andThen next) (TokenStream.andThen found behind) :=
  h.andThen_of_near (.refl _ _) fun value s' hfound hstop hdepth ↦
    (hnext value s' hfound (hs.returns hstop hdepth)).of_home hdepth.trans fun hexact ↦ by
      obtain ⟨-, hcount, hlt⟩ := hs.counts hexact
      exact hdepth.eq (by omega)

/-- A symbol that has to come next. -/
theorem expect (symbol : String) (hs : Meets exact bounds depth s) :
    Accords exact bounds s.depth (Items.expect symbol bounds depth s.items)
      (s.expectSymbol symbol) := by
  obtain ⟨_ | ⟨t | e, rest⟩, stop, count⟩ := s
  · obtain rfl : stop = bounds.stop := hs.stop
    exact error _ hs (.refl _ _)
  · simp only [Items.expect, expectSymbol, nextRequired, next]
    split
    · exact ok _ hs.stop (.refl _)
    · exact error _ (hs.items rest) (.refl _ _)
  · exact error _ (hs.items rest) (.refl _ _)

/-- A symbol that has to come last. -/
theorem close (symbol : String) (value : β) (hs : Meets exact bounds depth s) :
    Accords exact bounds s.depth ((Items.expect symbol bounds depth s.items).map fun _ ↦ value)
      (TokenStream.andThen (s.expectSymbol symbol) fun _ s ↦ (.ok value, s)) := by
  rw [Outcome.map_eq_andThen]
  exact .andThen hs (.expect symbol hs) fun _ _ _ hs ↦ .ok _ hs.stop (.refl _)

/-- An operator that may come next. -/
theorem operator? (accepts : BinaryOp → Bool) (hs : Meets exact bounds depth s) :
    Accords exact bounds s.depth (Items.operator? accepts depth s.items)
      (s.nextOperatorIf accepts) := by
  obtain ⟨_ | ⟨t | e, rest⟩, stop, count⟩ := s
  · exact ok _ hs.stop (.refl _)
  · simp only [Items.operator?, nextOperatorIf, peek, next]
    cases t.token.operator?.filter accepts with
    | none => exact ok _ hs.stop (.refl _)
    | some op => exact ok _ hs.stop (.refl _)
  · exact error _ (hs.items rest) (.refl _ _)

/-- A descent and what is done behind it. -/
theorem descend {behind : TokenStream → Except ParseError α × TokenStream}
    (hs : Meets exact bounds depth s) (hpos : 0 < cost) (hcost : cost ≤ groupCost)
    (hnear : Near exact home s.depth)
    (hfits : (s.spend cost).depth.toNat ≤ maxDepth →
      Accords exact bounds home outcome (behind (s.spend cost))) :
    Accords exact bounds home
      (if depth + cost ≤ bounds.budget then outcome
        else Items.tooDeep bounds (depth + cost) s.items)
      (TokenStream.andThen (s.descend cost) fun _ s ↦ behind s) := by
  rw [TokenStream.descend]
  by_cases hbudget : (s.spend cost).depth.toNat ≤ maxDepth
  · rw [if_pos hbudget, if_pos (hs.spend hpos hcost hbudget).1]
    exact hfits hbudget
  · rw [if_neg hbudget]
    obtain ⟨items, stop, count⟩ := s
    have hfailed : exact → ¬ depth + cost ≤ bounds.budget ∧
        (count + .ofNat cost).toNat = depth + cost ∧ home.toNat ≤ depth + cost ∧
        depth + cost ≤ max home.toNat maxDepth + groupCost := by
      intro hexact
      obtain ⟨hbounds, hcount, hlt⟩ := hs.counts hexact
      have hspent : (count + .ofNat cost).toNat = count.toNat + cost :=
        toNat_spend_of_lt (by simp only at hcount; omega)
      have hspend :
          (TokenStream.spend cost ⟨items, stop, count⟩).depth.toNat = count.toNat + cost := hspent
      have := hnear hexact
      simp only at hcount this
      exact ⟨by omega, by omega, by omega, by omega⟩
    obtain rfl : stop = bounds.stop := hs.stop
    rcases items with _ | ⟨t | e, rest⟩ <;>
    · refine ⟨rfl, fun hexact ↦ ?_⟩
      obtain ⟨hdeep, hcount, hhome, hle⟩ := hfailed hexact
      rw [if_neg hdeep, Items.tooDeep, ← hcount]
      rw [← hcount] at hhome hle
      exact ⟨rfl, hhome, hle⟩

end Accords

end Combinators

/-! ## Each function, if the functions that it calls agree with their steps -/

/-- A function does as its step on all streams with less than some number of items. -/
def Agrees (exact : Prop) (bounds : Bounds) (count : Nat) (step : Nat → List Item → Outcome Expr)
    (parse : (s : TokenStream) → Onward s Expr) : Prop :=
  ∀ depth s, s.items.length < count → Meets exact bounds depth s →
    Accords exact bounds s.depth (step depth s.items) (parse s).val

/-- A chain does as its step, some turns of which have been spent on already. -/
def AgreesChain (exact : Prop) (bounds : Bounds) (count lower : Nat) : Prop :=
  ∀ taken left depth s, s.items.length < count → Meets exact bounds depth s →
    (taken = 0 ∨ s.depth.toNat ≤ maxDepth) →
      Accords exact bounds (.ofNat (s.depth.toNat - taken))
        (Parser.parseChain lower bounds depth left s.items) (s.parseChain lower taken left).val

section Functions

variable {exact : Prop} {bounds : Bounds} {count lower : Nat}

theorem agrees_parseVariable :
    Agrees exact bounds count (Parser.parseVariable bounds) parseVariable := by
  intro depth s _ hs
  rw [parseVariable_val]
  obtain ⟨_ | ⟨t | e, rest⟩, stop, used⟩ := s
  · obtain rfl : stop = bounds.stop := hs.stop
    exact .error _ hs (.refl _ _)
  · simp only [Parser.parseVariable, nextRequired, next, TokenStream.andThen]
    cases Parser.variableIndex? t.token with
    | none => exact .error _ (hs.items rest) (.refl _ _)
    | some index => exact .close _ _ (hs.items rest)
  · exact .error _ (hs.items rest) (.refl _ _)

theorem agrees_parseNestedUnary
    (h : Agrees exact bounds count (Parser.parseUnary bounds) parseUnary) :
    Agrees exact bounds count (Parser.parseOperand bounds) parseNestedUnary := by
  intro depth s hcount hs
  rw [parseNestedUnary_val, Parser.parseOperand]
  have hcost : 1 ≤ groupCost := by decide
  refine .descend hs Nat.one_pos hcost (.refl _ _) fun hfits ↦ ?_
  have hspent := (hs.spend Nat.one_pos hcost hfits).2
  exact (h (depth + 1) (s.spend 1) hcount hspent).release hs hcost hfits

theorem agrees_parseExpression
    (h : Agrees exact bounds count (Parser.parseTier BinaryOp.loosestTier bounds)
      (parseTier BinaryOp.loosestTier)) :
    Agrees exact bounds count (Parser.parseExpression bounds) parseExpression := by
  intro depth s hcount hs
  rw [parseExpression_val, Parser.parseExpression]
  have hpos : 0 < groupCost := by decide
  have hcost := Nat.le_refl groupCost
  refine .descend hs hpos hcost (.refl _ _) fun hfits ↦ ?_
  have hspent := (hs.spend hpos hcost hfits).2
  exact (h (depth + groupCost) (s.spend groupCost) hcount hspent).release hs hcost hfits

/-- A cast, from the word behind its opening parenthesis. -/
theorem accords_parseCast
    (h : Agrees exact bounds count (Parser.parseOperand bounds) parseNestedUnary)
    {depth : Nat} {t : PlacedToken} {rest : List Item} {stop : Nat} {used : UInt64}
    (hcount : rest.length < count) (hs : Meets exact bounds depth ⟨.token t :: rest, stop, used⟩) :
    Accords exact bounds used
      ((Parser.parseCastType t bounds depth rest).andThen fun type rest ↦
        (Parser.parseOperand bounds depth rest).map (.cast type))
      (parseCast ⟨.token t :: rest, stop, used⟩).val := by
  have hs := hs.items rest
  rw [parseCast_val]
  simp only [nextRequired, next, TokenStream.andThen, Parser.parseCastType]
  cases ValueType.ofCastName? t.token.text with
  | none => exact .error _ hs (.refl _ _)
  | some type =>
    simp only [Outcome.map_andThen]
    refine .andThen hs (.expect ")" hs) fun _ s hexpect hs ↦ (h depth s ?_ hs).map _
    have hle := length_expectSymbol ⟨rest, stop, used⟩ ")"
    rw [hexpect] at hle
    exact Nat.lt_of_le_of_lt hle hcount

theorem agrees_parseParenthesized
    (hexpression : Agrees exact bounds count (Parser.parseExpression bounds) parseExpression)
    (hoperand : Agrees exact bounds count (Parser.parseOperand bounds) parseNestedUnary) :
    Agrees exact bounds count (Parser.parseParenthesized bounds) parseParenthesized := by
  intro depth s hcount hs
  have hgroup : Accords exact bounds s.depth
      ((Parser.parseExpression bounds depth s.items).andThen fun inner rest ↦
        (Items.expect ")" bounds depth rest).map fun _ ↦ inner)
      (TokenStream.andThen s.parseExpression.val fun inner s ↦
        TokenStream.andThen (s.expectSymbol ")") fun _ s ↦ (.ok inner, s)) :=
    .andThen hs (hexpression depth s hcount hs) fun _ _ _ hs ↦ .close _ _ hs
  rw [parseParenthesized_val]
  obtain ⟨_ | ⟨t | e, rest⟩, stop, used⟩ := s
  · rw [Parser.parseParenthesized_of_group (by simp) (by simp)]
    exact hgroup
  · simp only [peek, TokenStream.andThen, Option.any_some, decide_eq_true_eq]
    split
    · rename_i hword
      rw [Parser.parseParenthesized_of_cast t hword]
      exact accords_parseCast hoperand (Nat.lt_of_succ_lt hcount) hs
    · rename_i hword
      rw [Parser.parseParenthesized_of_group (by rintro _ ⟨⟩; exact hword) (by simp)]
      exact hgroup
  · rw [Parser.parseParenthesized]
    exact .error _ (hs.items rest) (.refl _ _)

theorem agrees_parseBase
    (h : Agrees exact bounds count (Parser.parseParenthesized bounds) parseParenthesized) :
    Agrees exact bounds (count + 1) (Parser.parseBase bounds) parseBase := by
  intro depth s hcount hs
  rw [parseBase_val]
  obtain ⟨_ | ⟨t | e, rest⟩, stop, used⟩ := s
  · obtain rfl : stop = bounds.stop := hs.stop
    rw [Parser.parseBase]
    exact .error _ hs (.refl _ _)
  · have hs := hs.items rest
    have hcount : rest.length < count := Nat.lt_of_succ_lt_succ hcount
    rw [Parser.parseBase]
    simp only [nextRequired, next, TokenStream.andThen]
    cases t.token.kind with
    | number =>
      cases NumberLiteral.read? t.token.text.toList with
      | none => exact .error _ hs (.refl _ _)
      | some value => exact .ok _ hs.stop (.refl _)
    | string => exact .ok _ hs.stop (.refl _)
    | word =>
      simp only
      split
      · exact .ok _ hs.stop (.refl _)
      · exact .error _ hs (.refl _ _)
    | symbol =>
      simp only
      split
      · exact h depth _ hcount hs
      split
      · exact agrees_parseVariable depth _ hcount hs
      · exact .error _ hs (.refl _ _)
  · rw [Parser.parseBase]
    exact .error _ (hs.items rest) (.refl _ _)

theorem agrees_parseUnary
    (hbase : Agrees exact bounds (count + 1) (Parser.parseBase bounds) parseBase)
    (hoperand : Agrees exact bounds count (Parser.parseOperand bounds) parseNestedUnary) :
    Agrees exact bounds (count + 1) (Parser.parseUnary bounds) parseUnary := by
  intro depth s hcount hs
  rw [parseUnary_val]
  obtain ⟨_ | ⟨t | e, rest⟩, stop, used⟩ := s
  · rw [Parser.parseUnary]
    exact hbase depth _ hcount hs
  · rw [Parser.parseUnary]
    simp only [peek, TokenStream.andThen, Option.bind_some]
    cases Parser.lead? t.token with
    | none => exact hbase depth _ hcount hs
    | some lead =>
      have hs := hs.items rest
      have hcount : rest.length < count := Nat.lt_of_succ_lt_succ hcount
      cases lead with
      | operator op => exact (hoperand depth _ hcount hs).map _
      | plus => exact hoperand depth _ hcount hs
      | truth b => exact .ok _ hs.stop (.refl _)
  · rw [Parser.parseUnary]
    exact .error _ (hs.items rest) (.refl _ _)

theorem agrees_parseComparison
    (h : Agrees exact bounds count (Parser.parseTier lower bounds) (parseTier lower))
    (left : Expr) :
    Agrees exact bounds (count + 1) (Parser.parseComparison lower bounds · left)
      (parseComparison lower left) := by
  intro depth s hcount hs
  simp only [parseComparison_val, Parser.parseComparison_eq]
  refine .andThen hs (.operator? _ hs) fun op? s' hop hs' ↦ ?_
  cases op? with
  | none => exact .ok _ hs'.stop (.refl _)
  | some op =>
    have := length_lt_of_nextOperatorIf hop
    exact (h depth s' (by omega) hs').map _

/-- A chain.  What its turns have spent is given back at once, when it ends. -/
theorem agreesChain
    (htier : Agrees exact bounds count (Parser.parseTier lower bounds) (parseTier lower))
    (hchain : AgreesChain exact bounds count lower) :
    AgreesChain exact bounds (count + 1) lower := by
  intro taken left depth s hcount hs htaken
  have hcost : 1 ≤ groupCost := by decide
  have hnear : Near exact (.ofNat (s.depth.toNat - taken)) s.depth := fun _ ↦ by
    rw [toNat_giveBack]
    omega
  rw [parseChain_val, Parser.parseChain_eq]
  refine (Accords.operator? _ hs).andThen_of_near hnear fun op? s' hop hstop hdepth ↦ ?_
  have hs' := hs.returns hstop hdepth
  rw [← depth_of_nextOperatorIf hop] at htaken hnear ⊢
  cases op? with
  | none => exact .ok (s := s'.ascend taken) left hstop (.refl _)
  | some op =>
    have hfewer := length_lt_of_nextOperatorIf hop
    refine .descend hs' Nat.one_pos hcost hnear fun hfits ↦ ?_
    have hlt : (s'.spend 1).depth.toNat + groupCost < UInt64.size := by
      simp only [groupCost, maxDepth, UInt64.size] at hfits ⊢
      omega
    have hspent := (hs'.spend Nat.one_pos hcost hfits).2
    have hoperand := htier (depth + 1) (s'.spend 1) (Nat.lt_of_lt_of_le hfewer (by omega)) hspent
    refine hoperand.andThen_of_near (fun hexact ↦ ?_) fun right s'' hright hstop hdepth ↦ ?_
    · obtain ⟨-, hcounts, hroom⟩ := hs'.counts hexact
      have hone : (s'.spend 1).depth.toNat = s'.depth.toNat + 1 := toNat_spend_of_lt (by omega)
      have := hnear hexact
      omega
    have hdepth' := hdepth.eq hlt
    have hle : s''.items.length ≤ s'.items.length := by
      have h := ((s'.spend 1).parseTier lower).property
      rwa [hright] at h
    have hrest := hchain (taken + 1) (.binary op left right) (depth + 1) s'' (by omega)
      (hspent.returns hstop hdepth) (.inr (hdepth' ▸ hfits))
    rw [hdepth'] at hrest
    refine hrest.of_home (.turn htaken) fun hexact ↦ ?_
    obtain ⟨-, hcounts, hroom⟩ := hs'.counts hexact
    rw [show (s'.spend 1).depth.toNat = s'.depth.toNat + 1 from toNat_spend_of_lt (by omega),
      Nat.add_sub_add_right]

theorem agrees_parseTier
    (hunary : Agrees exact bounds count (Parser.parseUnary bounds) parseUnary)
    (hcomparison : ∀ lower left, Agrees exact bounds count
      (Parser.parseComparison lower bounds · left) (parseComparison lower left))
    (hchain : ∀ lower, AgreesChain exact bounds count lower) (tier : Nat) :
    Agrees exact bounds count (Parser.parseTier tier bounds) (parseTier tier) := by
  induction tier with
  | zero =>
    intro depth s hcount hs
    rw [parseTier_val_zero, Parser.parseTier]
    exact hunary depth s hcount hs
  | succ lower ih =>
    intro depth s hcount hs
    rw [parseTier_val_succ, Parser.parseTier_succ]
    refine .andThen hs (ih depth s hcount hs) fun left s' hleft hs' ↦ ?_
    have hle : s'.items.length ≤ s.items.length := by
      simpa only [hleft] using (s.parseTier lower).property
    split
    · exact hcomparison lower left depth s' (by omega) hs'
    · simpa only [giveBack_zero] using hchain lower 0 left depth s' (by omega) hs' (.inl rfl)

end Functions

/-! ## All functions -/

/-- **All functions agree with their steps**; the induction is on the items that remain, and the
calls on as many items go from the tighter constructs to the looser ones. -/
theorem agrees (exact : Prop) (bounds : Bounds) (count : Nat) :
    Agrees exact bounds count (Parser.parseExpression bounds) parseExpression ∧
    (∀ tier, Agrees exact bounds count (Parser.parseTier tier bounds) (parseTier tier)) ∧
    (∀ lower, AgreesChain exact bounds count lower) ∧
    Agrees exact bounds count (Parser.parseUnary bounds) parseUnary ∧
    Agrees exact bounds count (Parser.parseOperand bounds) parseNestedUnary ∧
    Agrees exact bounds count (Parser.parseBase bounds) parseBase ∧
    Agrees exact bounds count (Parser.parseParenthesized bounds) parseParenthesized := by
  induction count with
  | zero =>
    have hnone : ∀ step parse, Agrees exact bounds 0 step parse :=
      fun _ _ _ _ h ↦ absurd h (Nat.not_lt_zero _)
    exact ⟨hnone _ _, fun _ ↦ hnone _ _, fun _ _ _ _ _ h ↦ absurd h (Nat.not_lt_zero _),
      hnone _ _, hnone _ _, hnone _ _, hnone _ _⟩
  | succ count ih =>
    obtain ⟨-, htier, hchain, -, hoperand, -, hparenthesized⟩ := ih
    have baseHere := agrees_parseBase hparenthesized
    have unaryHere := agrees_parseUnary baseHere hoperand
    have operandHere := agrees_parseNestedUnary unaryHere
    have chainHere := fun lower ↦ agreesChain (htier lower) (hchain lower)
    have tierHere := agrees_parseTier unaryHere
      (fun lower left ↦ agrees_parseComparison (htier lower) left) chainHere
    have expressionHere := agrees_parseExpression (tierHere BinaryOp.loosestTier)
    exact ⟨expressionHere, tierHere, chainHere, unaryHere, operandHere, baseHere,
      agrees_parseParenthesized expressionHere operandHere⟩

namespace TokenStream

/-- Every level of the grammar agrees with its step. -/
theorem accords_parse {exact : Prop} {bounds : Bounds} {depth : Nat} {s : TokenStream}
    (level : Parser.Level) (hs : Meets exact bounds depth s) :
    Accords exact bounds s.depth (Parser.parseLevel level bounds depth s.items)
      (s.parse level) := by
  obtain ⟨hexpression, htier, -, hunary, -, hbase, -⟩ :=
    agrees exact bounds (s.items.length + 1)
  have hcount := Nat.lt_succ_self s.items.length
  cases level with
  | expression => exact hexpression depth s hcount hs
  | tier k => exact htier k depth s hcount hs
  | unary => exact hunary depth s hcount hs
  | base => exact hbase depth s hcount hs

/-- The bounds of a parse from a stream. -/
def bounds (s : TokenStream) : Bounds where
  stop := s.stop
  budget := maxDepth

/-- What a parse from a stream comes to, if it is the outcome of a step over its items. -/
def comingTo {α : Type} (s : TokenStream) : Outcome α → Except ParseError α × TokenStream
  | .done value rest => (.ok value, { s with items := rest })
  | .failed error rest depth => (.error error, { s with items := rest, depth := .ofNat depth })

variable {s s' : TokenStream} {level : Parser.Level} {e : Expr} {error : ParseError}

theorem accords_of_lt (level : Parser.Level) (hroom : s.depth.toNat + groupCost < UInt64.size) :
    Accords True s.bounds s.depth (Parser.parseLevel level s.bounds s.depth.toNat s.items)
      (s.parse level) :=
  accords_parse level ⟨rfl, toNat_add_room hroom, fun _ ↦ ⟨rfl, rfl, hroom⟩⟩

theorem accords_of_room (level : Parser.Level) (s : TokenStream) :
    Accords False ⟨s.stop, Nesting.room s.depth⟩ s.depth
      (Parser.parseLevel level ⟨s.stop, Nesting.room s.depth⟩ 0 s.items) (s.parse level) :=
  accords_parse level ⟨rfl, .inl (by simp only; omega), False.elim⟩

/-- **The parser is the one on items**, wherever no cost wraps around. -/
theorem parse_eq (level : Parser.Level) (hroom : s.depth.toNat + groupCost < UInt64.size) :
    s.parse level =
      s.comingTo (Parser.parseLevel level s.bounds s.depth.toNat s.items) := by
  have h := accords_of_lt level hroom
  generalize s.parse level = found at h ⊢
  obtain ⟨_ | e, items, stop, depth⟩ := found
  · obtain ⟨rfl, h⟩ := h
    rw [(h trivial).1, comingTo]
    simp only [UInt64.ofNat_toNat]
    rfl
  · obtain ⟨rfl, hdone, hdepth⟩ := h
    obtain rfl := hdepth.eq hroom
    rw [hdone]
    rfl

/-- What is in use after a parse that succeeds, wherever it begins. -/
theorem returns_of_parse (h : s.parse level = (.ok e, s')) : Returns s.depth s'.depth := by
  have haccords := accords_of_room level s
  rw [h] at haccords
  exact haccords.2.2

/-- What a parse finds, wherever it begins, is what its step finds if the budget is large enough. -/
theorem done_of_parse (h : s.parse level = (.ok e, s')) :
    Parser.parseLevel level ⟨s.stop, Nesting.room s.depth⟩ 0 s.items = .done e s'.items := by
  have haccords := accords_of_room level s
  rw [h] at haccords
  exact haccords.2.1

/-- A parse that fails leaves no less in use, and one descent more at most, unless a cost wraps
around. -/
theorem depth_of_parse_eq_error (hroom : s.depth.toNat + groupCost < UInt64.size)
    (h : s.parse level = (.error error, s')) :
    s.depth.toNat ≤ s'.depth.toNat ∧ s'.depth.toNat ≤ max s.depth.toNat maxDepth + groupCost := by
  have haccords := accords_of_lt level hroom
  rw [h] at haccords
  exact (haccords.2 trivial).2

/-- The parse of a whole text begins with nothing in use. -/
theorem parse_ofSource (source : String) :
    (ofSource source).parse .expression = (ofSource source).comingTo
      (Parser.parseExpression (.ofSource source) 0 (Lexer.items source)) :=
  parse_eq .expression (show (0 : UInt64).toNat + groupCost < UInt64.size by decide)

end TokenStream

/-- **A whole text is parsed as by the steps over its items.** -/
theorem Expr.parse_eq (source : String) : Expr.parse source =
    match Parser.parseExpression (.ofSource source) 0 (Lexer.items source) with
    | .failed error _ _ => .error error
    | .done e [] => .ok e
    | .done _ (.error cause :: _) => .error (.lexical cause)
    | .done _ (.token t :: _) => .error (.unexpectedInput t.token.text t.position) := by
  rw [Expr.parse, parse_ofSource]
  rcases Parser.parseExpression (.ofSource source) 0 (Lexer.items source) with
    ⟨e, _ | ⟨_ | _, _⟩⟩ | _ <;> rfl

end Formula
