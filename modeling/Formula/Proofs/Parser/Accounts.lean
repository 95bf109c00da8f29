import Formula.Proofs.Parser.Agreement
import Formula.Proofs.Parser.Metered

/-!
# The accounts are right

The parser that accounts for itself comes to the same as the one that does not: with frames enough
it ends, with the same answer, its stream is one that reads as it goes of the other one's, and the
limit has not been exceeded if it admits what the budget does.  `Mirrors` is that statement about
one parse.

What is recorded of the calls on the way is left open.  `Keeps` says what an account has to be: a
relation between what is under way and the nesting in use, which each descent within the budget
keeps, and each construct that returns.  One account may hold of the calls inside of an expression
only, and another one of all calls.

There is one lemma for each function, under the assumption that the functions it calls are mirrored
with one frame less, and `mirrored` puts them together.  How many frames are enough depends on what
may still be spent and not on the text: a call takes at most seven more for each unit of nesting.
-/

set_option autoImplicit false

namespace Formula

open Nesting TokenStream

/-! ## The stream under the parser -/

namespace Meter

/-- The stream under the parser is one that holds certain items, and an account holds of all calls
so far. -/
structure Stands (account : Active → Nat → Prop) (m : Meter) (s : TokenStream) : Prop where
  view : m.stream.view = s
  visits : ∀ v ∈ m.visits, account v.active v.depth

namespace Stands

variable {account : Active → Nat → Prop} {m : Meter} {s : TokenStream} {α : Type}

theorem depth_eq (h : m.Stands account s) : m.stream.depth = s.depth :=
  congrArg TokenStream.depth h.view

theorem visit (h : m.Stands account s) (routine : Routine) {a : Active}
    (ha : account a s.depth.toNat) : (m.visit routine a).Stands account s where
  view := h.view
  visits v hv := by
    rcases List.mem_append.1 hv with hv | hv
    · exact h.visits v hv
    · rw [List.mem_singleton.1 hv, h.depth_eq]
      exact ha

theorem ascend (h : m.Stands account s) (cost : Nat) :
    (m.ascend cost).Stands account (s.ascend cost) where
  view := congrArg (TokenStream.ascend cost) h.view
  visits := h.visits

/-- What is asked of the stream is answered as by the stream that holds the items. -/
theorem ask {call : Lookahead → Except ParseError α × Lookahead}
    {call' : TokenStream → Except ParseError α × TokenStream} (h : m.Stands account s)
    (hcall : ∀ s : Lookahead, call' s.view = ((call s).1, (call s).2.view)) :
    ∃ m', m.ask call = ((call' s).1.mapError .refused, m') ∧ m'.Stands account (call' s).2 := by
  have hs := h.view ▸ hcall m.stream
  rw [Meter.ask, hs]
  obtain ⟨reply, stream⟩ := call m.stream
  match reply with
  | .ok value | .error e => exact ⟨_, rfl, rfl, h.visits⟩

end Stands

end Meter

/-! ## One parse -/

/-- What a parse with accounts has to come to: to what one without has found, with an account that
holds of all calls so far. -/
def Mirrors {α : Type} (account : Active → Nat → Prop)
    (found : Except ParseError α × TokenStream) (parsed : Option (Reply α)) : Prop :=
  ∃ m, parsed = some (found.1.mapError .refused, m) ∧ m.Stands account found.2

namespace Mirrors

variable {account : Active → Nat → Prop} {α β : Type} {m : Meter} {s : TokenStream}
  {found : Except ParseError α × TokenStream} {parsed : Option (Reply α)}

/-- An answer that both give. -/
theorem answer (reply : Except ParseError α) (h : m.Stands account s) :
    Mirrors account (reply, s) (some (reply.mapError .refused, m)) :=
  ⟨m, rfl, h⟩

theorem map (f : α → β) (h : Mirrors account found parsed) :
    Mirrors account (found.map (.map f) id) (do
      let (reply, m) ← parsed
      return (reply.map f, m)) := by
  obtain ⟨m, rfl, hm⟩ := h
  obtain ⟨_ | value, s⟩ := found <;> exact ⟨m, rfl, hm⟩

/-- What was spent before is given back by hand, on failure too. -/
theorem ascend (cost : Nat) (h : Mirrors account found parsed) :
    Mirrors account (found.map id (TokenStream.ascend cost)) (do
      let (reply, m) ← parsed
      return (reply, m.ascend cost)) := by
  obtain ⟨m, rfl, hm⟩ := h
  exact ⟨m.ascend cost, rfl, hm.ascend cost⟩

/-- One parse and what is done behind it; a failure is passed on. -/
theorem andThen {next : α → TokenStream → Except ParseError β × TokenStream}
    {behind : Reply α → Option (Reply β)} (h : Mirrors account found parsed)
    (hfailed : ∀ e m, behind (.error e, m) = some (.error e, m))
    (hdone : ∀ value s m, found = (.ok value, s) → m.Stands account s →
      Mirrors account (next value s) (behind (.ok value, m))) :
    Mirrors account (TokenStream.andThen found next) (parsed >>= behind) := by
  obtain ⟨m, rfl, hm⟩ := h
  obtain ⟨e | value, s⟩ := found
  · exact ⟨m, hfailed _ m, hm⟩
  · exact hdone value s m rfl hm

/-- What is asked of the stream, and what is done with the answer. -/
theorem ask {call : Lookahead → Except ParseError α × Lookahead}
    {call' : TokenStream → Except ParseError α × TokenStream}
    {next : α → TokenStream → Except ParseError β × TokenStream} {parsed : Option (Reply β)}
    (h : m.Stands account s)
    (hcall : ∀ s : Lookahead, call' s.view = ((call s).1, (call s).2.view))
    (hfailed : ∀ e m', m.ask call = (.error e, m') → parsed = some (.error e, m'))
    (hdone : ∀ value s' m', call' s = (.ok value, s') → m.ask call = (.ok value, m') →
      m'.Stands account s' → Mirrors account (next value s') parsed) :
    Mirrors account (TokenStream.andThen (call' s) next) parsed := by
  obtain ⟨m', hask, hm'⟩ := h.ask hcall
  rcases hfound : call' s with ⟨e | value, s'⟩ <;> rw [hfound] at hask hm'
  · exact ⟨m', hfailed _ m' hask, hm'⟩
  · exact hdone value s' m' hfound hask hm'

/-- A descent, and what is done behind it. -/
theorem descend {cost : Nat} {next : TokenStream → Except ParseError α × TokenStream}
    {parsed : Option (Reply α)} (h : m.Stands account s)
    (hfailed : ∀ e m', m.ask (·.descend cost) = (.error e, m') → parsed = some (.error e, m'))
    (hfits : ∀ m', (s.spend cost).depth.toNat ≤ maxDepth →
      m.ask (·.descend cost) = (.ok (), m') → m'.Stands account (s.spend cost) →
        Mirrors account (next (s.spend cost)) parsed) :
    Mirrors account (TokenStream.andThen (s.descend cost) fun _ ↦ next) parsed := by
  refine ask h (Lookahead.descend_view cost) hfailed fun _ s' m' hdescend hask hm' ↦ ?_
  obtain ⟨hbudget, rfl⟩ := descend_eq_ok hdescend
  exact hfits m' hbudget hask hm'

end Mirrors

/-! ## Each function, if the functions that it calls are mirrored -/

/-- What an account has to be, one of all calls and one of those inside of an expression: descents
within the budget keep it, the limit admits them, and it is kept by what returns. -/
structure Keeps (limit : Active → Bool) (visit within : Active → Nat → Prop) : Prop where
  visit_of_within : ∀ {a depth}, within a depth → visit a depth
  group : ∀ {a} {depth : UInt64}, visit a depth.toNat →
    (depth + .ofNat groupCost).toNat ≤ maxDepth →
      limit a.group = true ∧ within a.group (depth + .ofNat groupCost).toNat
  operand : ∀ {a} {depth : UInt64}, within a depth.toNat → (depth + .ofNat 1).toNat ≤ maxDepth →
    limit a.operand = true ∧ within a.operand (depth + .ofNat 1).toNat
  operator : ∀ {a} {depth : UInt64}, within a depth.toNat → (depth + .ofNat 1).toNat ≤ maxDepth →
    within a.operator (depth + .ofNat 1).toNat
  returns : ∀ {a} {before after : UInt64}, within a before.toNat → Returns before after →
    within a after.toNat

/-- The frames that are taken by calls that are deeper than some nesting in use.  A group takes the
most of them: 26 for all tiers, for the four units of nesting that it spends. -/
def deeperFrames (depth : UInt64) : Nat := 7 * room depth

theorem deeperFrames_spend {depth : UInt64} {cost : Nat} (hcost : cost ≤ groupCost)
    (hfits : (depth + .ofNat cost).toNat ≤ maxDepth) :
    deeperFrames (depth + .ofNat cost) + 7 * cost = deeperFrames depth := by
  have := room_spend hcost hfits
  simp only [deeperFrames]
  omega

theorem deeperFrames_returns {before after : UInt64} (h : Returns before after) :
    deeperFrames after ≤ deeperFrames before :=
  Nat.mul_le_mul_left 7 h.room_le

/-- A function with some frames mirrors one of the parser, wherever an account holds and `own`
frames are left next to those of the calls that are deeper. -/
def Mirrored (account holds : Active → Nat → Prop) (own frames : Nat)
    (parse : (s : TokenStream) → Onward s Expr)
    (metered : Active → Meter → Option (Reply Expr)) : Prop :=
  ∀ a m s, deeperFrames s.depth + own ≤ frames → holds a s.depth.toNat → m.Stands account s →
    Mirrors account (parse s).val (metered a m)

/-- All functions with some frames mirror those of the parser. -/
structure MirroredAt (limit : Active → Bool) (visit within : Active → Nat → Prop)
    (frames : Nat) : Prop where
  expression : Mirrored visit visit 1 frames parseExpression (Meter.expression limit frames)
  tier : ∀ tier, Mirrored visit within (2 * tier + 6) frames (parseTier tier)
    (Meter.tier limit frames tier)
  comparison : ∀ lower left, Mirrored visit within (2 * lower + 7) frames
    (parseComparison lower left) (Meter.comparison limit frames lower · left)
  chain : ∀ lower taken left, Mirrored visit within (2 * lower + 7) frames
    (parseChain lower taken left) (Meter.chain limit frames lower taken · left)
  unary : Mirrored visit within 5 frames parseUnary (Meter.unary limit frames)
  nestedUnary : Mirrored visit within 1 frames parseNestedUnary (Meter.nestedUnary limit frames)
  base : Mirrored visit within 4 frames parseBase (Meter.base limit frames)
  parenthesized : Mirrored visit within 3 frames parseParenthesized
    (Meter.parenthesized limit frames)
  cast : Mirrored visit within 2 frames parseCast (Meter.cast limit frames)

section Functions

variable {limit : Active → Bool} {visit within : Active → Nat → Prop} {frames : Nat}
  (k : Keeps limit visit within)
include k

theorem mirrors_reference {a : Active} {m : Meter} {s : TokenStream} (ha : within a s.depth.toNat)
    (hm : m.Stands visit s) : Mirrors visit s.parseVariable.val (Meter.reference a m) := by
  rw [parseVariable_val, Meter.reference]
  refine .ask (hm.visit .reference (k.visit_of_within ha)) Lookahead.nextRequired_view
    (fun e m hask ↦ by rw [hask]) fun t s m _ hask hm ↦ ?_
  rw [hask]
  cases hindex : Parser.variableIndex? t.token with
  | none =>
    simp only [hindex]
    exact .answer (.error _) hm
  | some index =>
    simp only [hindex]
    refine .ask hm (Lookahead.expectSymbol_view _) (fun e m hask ↦ by rw [hask])
      fun _ s m _ hask hm ↦ ?_
    rw [hask]
    exact .answer (.ok (Expr.var index)) hm

variable (ih : MirroredAt limit visit within frames)
include ih

theorem mirrored_expression :
    Mirrored visit visit 1 (frames + 1) parseExpression (Meter.expression limit (frames + 1)) := by
  intro a m s hframes ha hm
  rw [parseExpression_val, Meter.expression]
  refine .descend (hm.visit .expression ha) (fun e m hask ↦ by rw [hask])
    fun m hfits hask hm ↦ ?_
  obtain ⟨hlimit, ha⟩ := k.group ha hfits
  have hdeeper : deeperFrames (s.spend groupCost).depth + 7 * groupCost = deeperFrames s.depth :=
    deeperFrames_spend le_rfl hfits
  simp only [hask, if_pos hlimit]
  refine (ih.tier BinaryOp.loosestTier a.group m _ ?_ ha hm).ascend groupCost
  simp only [groupCost, BinaryOp.loosestTier] at hdeeper ⊢
  omega

theorem mirrored_nestedUnary :
    Mirrored visit within 1 (frames + 1) parseNestedUnary
      (Meter.nestedUnary limit (frames + 1)) := by
  intro a m s hframes ha hm
  rw [parseNestedUnary_val, Meter.nestedUnary]
  refine .descend (hm.visit .nestedUnary (k.visit_of_within ha)) (fun e m hask ↦ by rw [hask])
    fun m hfits hask hm ↦ ?_
  obtain ⟨hlimit, ha⟩ := k.operand ha hfits
  have hdeeper : deeperFrames (s.spend 1).depth + 7 * 1 = deeperFrames s.depth :=
    deeperFrames_spend (by decide) hfits
  simp only [hask, if_pos hlimit]
  exact (ih.unary a.operand m _ (by omega) ha hm).ascend 1

theorem mirrored_tier (tier : Nat) :
    Mirrored visit within (2 * tier + 6) (frames + 1) (parseTier tier)
      (Meter.tier limit (frames + 1) tier) := by
  intro a m s hframes ha hm
  cases tier with
  | zero =>
    rw [parseTier_val_zero, Meter.tier]
    exact ih.unary a m s (by omega) ha hm
  | succ lower =>
    rw [parseTier_val_succ, Meter.tier]
    have hvisit := hm.visit (.tier (lower + 1)) (k.visit_of_within ha)
    refine (ih.tier lower a _ s (by omega) ha hvisit).andThen (fun _ _ ↦ rfl)
      fun left s' m hleft hm ↦ ?_
    have hreturns : Returns s.depth s'.depth :=
      returns_of_parse (show s.parse (.tier lower) = _ from hleft)
    have hdeeper := deeperFrames_returns hreturns
    have ha := k.returns ha hreturns
    simp only
    split
    · exact ih.comparison lower left a m s' (by omega) ha hm
    · exact ih.chain lower 0 left a m s' (by omega) ha hm

omit k in
theorem mirrored_comparison (lower : Nat) (left : Expr) :
    Mirrored visit within (2 * lower + 7) (frames + 1) (parseComparison lower left)
      (Meter.comparison limit (frames + 1) lower · left) := by
  intro a m s hframes ha hm
  show Mirrors visit _ (Meter.comparison limit (frames + 1) lower a left m)
  rw [parseComparison_val, Meter.comparison]
  refine .ask hm (Lookahead.nextOperatorIf_view _) (fun e m hask ↦ by rw [hask])
    fun op? s' m hfound hask hm ↦ ?_
  have hdepth := depth_of_nextOperatorIf hfound
  rw [hask]
  cases op? with
  | none => exact .answer (.ok left) hm
  | some op => exact (ih.tier lower a m s' (by rw [hdepth]; omega) (hdepth ▸ ha) hm).map _

/-- A chain: what its turns have spent is given back at once, when it ends. -/
theorem mirrored_chain (lower taken : Nat) (left : Expr) :
    Mirrored visit within (2 * lower + 7) (frames + 1) (parseChain lower taken left)
      (Meter.chain limit (frames + 1) lower taken · left) := by
  intro a m s hframes ha hm
  show Mirrors visit _ (Meter.chain limit (frames + 1) lower taken a left m)
  rw [parseChain_val, Meter.chain]
  refine .ask hm (Lookahead.nextOperatorIf_view _) (fun e m hask ↦ by rw [hask])
    fun op? s' m hfound hask hm ↦ ?_
  rw [← depth_of_nextOperatorIf hfound] at hframes ha
  rw [hask]
  cases op? with
  | none => exact .answer (.ok left) (hm.ascend taken)
  | some op =>
    refine .descend hm (fun e m hask ↦ by simp only [hask]) fun m hfits hask hm ↦ ?_
    simp only [hask]
    have hdeeper : deeperFrames (s'.spend 1).depth + 7 * 1 = deeperFrames s'.depth :=
      deeperFrames_spend (by decide) hfits
    have ha := k.operator ha hfits
    refine (ih.tier lower a.operator m (s'.spend 1) (by omega) ha hm).andThen (fun _ _ ↦ rfl)
      fun right s'' m hright hm ↦ ?_
    have hreturns : Returns (s'.spend 1).depth s''.depth :=
      returns_of_parse (show (s'.spend 1).parse (.tier lower) = _ from hright)
    have hdeeper' := deeperFrames_returns hreturns
    exact ih.chain lower (taken + 1) _ a.operator m s'' (by omega) (k.returns ha hreturns) hm

theorem mirrored_unary :
    Mirrored visit within 5 (frames + 1) parseUnary (Meter.unary limit (frames + 1)) := by
  intro a m s hframes ha hm
  rw [parseUnary_val, Meter.unary]
  refine .ask (hm.visit .unary (k.visit_of_within ha)) Lookahead.peek_view
    (fun e m hask ↦ by rw [hask]) fun seen s' m hpeek hask hm ↦ ?_
  rw [← depth_of_peek hpeek] at hframes ha
  rw [hask]
  cases hlead : seen.bind fun t ↦ Parser.lead? t.token with
  | none =>
    simp only [hlead]
    exact ih.base a m s' (by omega) ha hm
  | some lead =>
    simp only [hlead]
    refine .ask hm Lookahead.next_view (fun e m hask ↦ by rw [hask])
      fun _ s'' m hnext hask hm ↦ ?_
    rw [← depth_of_next hnext] at hframes ha
    rw [hask]
    cases lead with
    | operator op => exact (ih.nestedUnary a m s'' (by omega) ha hm).map _
    | plus => exact ih.nestedUnary a m s'' (by omega) ha hm
    | truth b => exact .answer (.ok (Expr.const (.boolean b))) hm

theorem mirrored_base :
    Mirrored visit within 4 (frames + 1) parseBase (Meter.base limit (frames + 1)) := by
  intro a m s hframes ha hm
  rw [parseBase_val, Meter.base]
  refine .ask (hm.visit .base (k.visit_of_within ha)) Lookahead.nextRequired_view
    (fun e m hask ↦ by rw [hask]) fun t s' m hnext hask hm ↦ ?_
  rw [← depth_of_nextRequired hnext] at hframes ha
  rw [hask]
  rcases hkind : t.token.kind with _ | _ | _ | _ <;> simp only [hkind]
  case number =>
    cases NumberLiteral.read? t.token.text.toList with
    | none => exact .answer (.error _) hm
    | some value => exact .answer (.ok _) hm
  case string => exact .answer (.ok _) hm
  case word =>
    split
    · exact .answer (.ok _) hm
    · exact .answer (.error _) hm
  case symbol =>
    split
    · exact ih.parenthesized a m s' (by omega) ha hm
    split
    · exact mirrors_reference k ha hm
    · exact .answer (.error _) hm

theorem mirrored_parenthesized :
    Mirrored visit within 3 (frames + 1) parseParenthesized
      (Meter.parenthesized limit (frames + 1)) := by
  intro a m s hframes ha hm
  rw [parseParenthesized_val, Meter.parenthesized]
  refine .ask (hm.visit .parenthesized (k.visit_of_within ha)) Lookahead.peek_view
    (fun e m hask ↦ by rw [hask]) fun seen s' m hpeek hask hm ↦ ?_
  rw [← depth_of_peek hpeek] at hframes ha
  simp only [hask]
  split
  · exact ih.cast a m s' (by omega) ha hm
  · refine (ih.expression a m s' (by omega) (k.visit_of_within ha) hm).andThen (fun _ _ ↦ rfl)
      fun inner s'' m _ hm ↦ ?_
    refine .ask hm (Lookahead.expectSymbol_view _) (fun e m hask ↦ by simp only [hask]; rfl)
      fun _ s m _ hask hm ↦ ?_
    simp only [hask]
    exact .answer (.ok inner) hm

theorem mirrored_cast :
    Mirrored visit within 2 (frames + 1) parseCast (Meter.cast limit (frames + 1)) := by
  intro a m s hframes ha hm
  rw [parseCast_val, Meter.cast]
  refine .ask (hm.visit .cast (k.visit_of_within ha)) Lookahead.nextRequired_view
    (fun e m hask ↦ by rw [hask]) fun t s' m hnext hask hm ↦ ?_
  rw [← depth_of_nextRequired hnext] at hframes ha
  rw [hask]
  cases htype : ValueType.ofCastName? t.token.text with
  | none =>
    simp only [htype]
    exact .answer (.error _) hm
  | some type =>
    simp only [htype]
    refine .ask hm (Lookahead.expectSymbol_view _) (fun e m hask ↦ by rw [hask])
      fun _ s'' m hexpect hask hm ↦ ?_
    rw [← depth_of_expectSymbol hexpect] at hframes ha
    rw [hask]
    exact (ih.nestedUnary a m s'' (by omega) ha hm).map _

end Functions

/-! ## All functions -/

/-- Without a frame no function is called. -/
theorem mirrored_none {account holds : Active → Nat → Prop} {own : Nat}
    {parse : (s : TokenStream) → Onward s Expr} {metered : Active → Meter → Option (Reply Expr)} :
    Mirrored account holds (own + 1) 0 parse metered :=
  fun _ _ _ hframes ↦ absurd hframes (by omega)

/-- **The parser with accounts mirrors the one without**; the induction is on the frames, of which
each call takes one. -/
theorem mirroredAt {limit : Active → Bool} {visit within : Active → Nat → Prop}
    (k : Keeps limit visit within) (frames : Nat) : MirroredAt limit visit within frames := by
  induction frames with
  | zero =>
    exact ⟨mirrored_none, fun _ ↦ mirrored_none, fun _ _ ↦ mirrored_none, fun _ _ _ ↦ mirrored_none,
      mirrored_none, mirrored_none, mirrored_none, mirrored_none, mirrored_none⟩
  | succ frames ih =>
    exact ⟨mirrored_expression k ih, mirrored_tier k ih, mirrored_comparison ih,
      mirrored_chain k ih, mirrored_unary k ih, mirrored_nestedUnary k ih, mirrored_base k ih,
      mirrored_parenthesized k ih, mirrored_cast k ih⟩

/-- The frames of a level of the grammar that are not taken by deeper calls. -/
def Parser.Level.frames : Level → Nat
  | .expression => 1
  | .tier k => 2 * k + 6
  | .unary => 5
  | .base => 4

/-- **Every level is mirrored**, whatever nesting is in use. -/
theorem mirrors_parse {limit : Active → Bool} {visit within : Active → Nat → Prop}
    (k : Keeps limit visit within) {frames : Nat} (level : Parser.Level) {a : Active} {m : Meter}
    {s : TokenStream} (hframes : deeperFrames s.depth + level.frames ≤ frames)
    (ha : within a s.depth.toNat) (hm : m.Stands visit s) :
    Mirrors visit (s.parse level) (Meter.level limit level frames a m) := by
  have h := mirroredAt k frames
  cases level with
  | expression => exact h.expression a m s hframes (k.visit_of_within ha) hm
  | tier tier => exact h.tier tier a m s hframes ha hm
  | unary => exact h.unary a m s hframes ha hm
  | base => exact h.base a m s hframes ha hm

end Formula
