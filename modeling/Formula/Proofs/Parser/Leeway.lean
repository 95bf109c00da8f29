import Formula.Proofs.Parser.Conservation
import Mathlib

/-!
# The budget only ever rejects

Here are two parses side by side that differ in one thing only, how much nesting is in use when they
begin.  `Lookahead.Eases s s'` says that a stream `s'` is `s` with no more nesting in use.  If the
parse from `s` does not end because of its nesting, then the one from `s'` answers the same, and the
streams are left alike again, `Lookahead.parse_of_eases`.

The count of the nesting must not wrap around, since then the parse with more in use would descend
where the other one cannot (`Lookahead.parse_of_eases_last`).  So there has to be room in the count
of the first stream for the most that a descent costs.  A descent that succeeds leaves no more in
use than the budget, and thus `Meter.Abreast`, streams that are alike and the room, is kept until
one of the parses fails.

Nothing but a descent looks at the nesting (`Blind`), and the two parses go on side by side until
one of them cannot descend, which is the one with more in use.  In most cases that is where it ends
because of its nesting.  But to say where that is, a failed descent looks at what comes next, and
that can be a lexical error, which is then reported instead.  The other parse does descend, and has
to meet the same error.  It does, as what is parsed behind a descent is a tier or an operand, and
both begin with a look at what comes next (`Alike.tier_of_peek`, `Alike.unary_of_peek`).
-/

set_option autoImplicit false

namespace Formula

open Nesting

/-! ## Streams with less nesting in use -/

namespace Lookahead

/-- The stream `s'` is `s`, with no more nesting in use. -/
structure Eases (s s' : Lookahead) : Prop where
  cursor : s'.cursor = s.cursor
  peeked : s'.peeked = s.peeked
  stop : s'.stop = s.stop
  depth : s'.depth ≤ s.depth

/-- A call on a stream does not look at the nesting in use, and leaves it alone. -/
def Blind {α : Type} (call : Lookahead → Except ParseError α × Lookahead) : Prop :=
  ∀ s s', Eases s s' → ∃ reply after after',
    call s = (reply, after) ∧ call s' = (reply, after') ∧ Eases after after' ∧
      after.depth = s.depth

/-- What is spent on both sides keeps the order, unless the greater count wraps around. -/
theorem toNat_spend_le {s s' : Lookahead} {cost : Nat} (h : s'.depth ≤ s.depth)
    (hroom : s.depth.toNat + cost < UInt64.size) :
    (s'.spend cost).depth.toNat ≤ (s.spend cost).depth.toNat := by
  have hle : s'.depth.toNat ≤ s.depth.toNat := h
  rw [spend, spend, toNat_spend_of_lt hroom, toNat_spend_of_lt (by omega)]
  exact Nat.add_le_add_right hle cost

theorem Eases.spend {s s' : Lookahead} {cost : Nat} (h : s.Eases s')
    (hroom : s.depth.toNat + cost < UInt64.size) : (s.spend cost).Eases (s'.spend cost) where
  cursor := h.cursor
  peeked := h.peeked
  stop := h.stop
  depth := toNat_spend_le h.depth hroom

theorem Eases.ascend {s s' : Lookahead} (h : s.Eases s') (cost : Nat) :
    (s.ascend cost).Eases (s'.ascend cost) where
  cursor := h.cursor
  peeked := h.peeked
  stop := h.stop
  depth := by
    rw [UInt64.le_iff_toNat_le, Lookahead.ascend, Lookahead.ascend, toNat_giveBack, toNat_giveBack]
    exact Nat.sub_le_sub_right h.depth cost

/-- Giving nesting back on one side is no harm. -/
theorem Eases.ascend_right {s s' : Lookahead} (h : s.Eases s') (cost : Nat) :
    s.Eases (s'.ascend cost) where
  cursor := h.cursor
  peeked := h.peeked
  stop := h.stop
  depth := by
    rw [UInt64.le_iff_toNat_le, Lookahead.ascend, toNat_giveBack]
    exact (Nat.sub_le ..).trans h.depth

theorem blind_peek : Blind peek := by
  rintro ⟨_, _, _, depth, _⟩ ⟨cursor, found?, stop, depth', hend⟩ ⟨rfl, rfl, rfl, hdepth⟩
  match found? with
  | some found => exact ⟨_, _, _, rfl, rfl, ⟨rfl, rfl, rfl, hdepth⟩, rfl⟩
  | none =>
    simp only [peek]
    split <;> exact ⟨_, _, _, rfl, rfl, ⟨rfl, rfl, rfl, hdepth⟩, rfl⟩

theorem blind_next : Blind next := by
  rintro ⟨_, _, _, depth, _⟩ ⟨cursor, found?, stop, depth', hend⟩ ⟨rfl, rfl, rfl, hdepth⟩
  match found? with
  | some found => exact ⟨_, _, _, rfl, rfl, ⟨rfl, rfl, rfl, hdepth⟩, rfl⟩
  | none =>
    simp only [next]
    split <;> exact ⟨_, _, _, rfl, rfl, ⟨rfl, rfl, rfl, hdepth⟩, rfl⟩

theorem blind_nextRequired : Blind nextRequired := by
  intro s s' h
  obtain ⟨reply, after, after', hs, hs', hafter⟩ := blind_next s s' h
  simp only [nextRequired, hs, hs']
  rcases reply with e | _ | t
  · exact ⟨_, _, _, rfl, rfl, hafter⟩
  · exact ⟨_, _, _, rfl, by simp only [hafter.1.stop], hafter⟩
  · exact ⟨_, _, _, rfl, rfl, hafter⟩

theorem blind_expectSymbol (symbol : String) : Blind (expectSymbol symbol) := by
  intro s s' h
  obtain ⟨reply, after, after', hs, hs', hafter⟩ := blind_nextRequired s s' h
  simp only [expectSymbol, hs, hs']
  rcases reply with e | t
  · exact ⟨_, _, _, rfl, rfl, hafter⟩
  · simp only
    split <;> exact ⟨_, _, _, rfl, rfl, hafter⟩

theorem blind_nextOperatorIf (accepts : BinaryOp → Bool) : Blind (nextOperatorIf accepts) := by
  intro s s' h
  obtain ⟨reply, seen, seen', hs, hs', hseen⟩ := blind_peek s s' h
  simp only [nextOperatorIf, hs, hs']
  rcases reply with e | _ | t
  · exact ⟨_, _, _, rfl, rfl, hseen⟩
  · exact ⟨_, _, _, rfl, rfl, hseen⟩
  obtain ⟨reply, after, after', hs, hs', hafter, hdepth⟩ := blind_next seen seen' hseen.1
  simp only [hs, hs']
  rcases t.token.operator?.filter accepts with _ | op
  · exact ⟨_, _, _, rfl, rfl, hseen⟩
  · cases reply <;> exact ⟨_, _, _, rfl, rfl, hafter, hdepth.trans hseen.2⟩

/-- A descent on both sides: it succeeds on both, or it fails because of the nesting where more of
it is in use, or it meets a lexical error there.  In the last case the other side fails with this
error, too, or has yet to meet it. -/
theorem Eases.descend {s s' : Lookahead} {cost : Nat} (h : s.Eases s')
    (hroom : s.depth.toNat + cost < UInt64.size) :
    (s.descend cost = (.ok (), s.spend cost) ∧ s'.descend cost = (.ok (), s'.spend cost) ∧
        (s.spend cost).depth.toNat ≤ maxDepth) ∨
      (∃ p after, s.descend cost = (.error (.nestingTooDeep p), after)) ∨
      ∃ e after after', s.descend cost = (.error e, after) ∧ after.Eases after' ∧
        (s'.descend cost = (.error e, after') ∨ s'.descend cost = (.ok (), s'.spend cost) ∧
          (s'.spend cost).peek = (.error e, after')) := by
  by_cases hfits : (s.spend cost).depth.toNat ≤ maxDepth
  · exact .inl ⟨if_pos hfits, if_pos ((toNat_spend_le h.depth hroom).trans hfits), hfits⟩
  · obtain ⟨reply, after, after', hs, hs', hafter, -⟩ := blind_peek _ _ (h.spend hroom)
    rw [Lookahead.descend, if_neg hfits, hs]
    rcases reply with e | _ | t
    · refine .inr (.inr ⟨e, after, after', rfl, hafter, ?_⟩)
      by_cases hfits' : (s'.spend cost).depth.toNat ≤ maxDepth
      · exact .inr ⟨if_pos hfits', hs'⟩
      · exact .inl (by rw [Lookahead.descend, if_neg hfits', hs'])
    · exact .inr (.inl ⟨_, _, rfl⟩)
    · exact .inr (.inl ⟨_, _, rfl⟩)

end Lookahead

/-! ## Two parses side by side -/

namespace Meter

/-- Two parses go on side by side: their streams are alike but for the nesting in use, and there is
room for a descent in the count of the first one. -/
structure Abreast (m m' : Meter) : Prop where
  eases : m.stream.Eases m'.stream
  room : m.stream.depth.toNat + groupCost < UInt64.size

theorem Abreast.visit {m m' : Meter} (h : m.Abreast m') (routine : Routine) (a : Active) :
    (m.visit routine a).Abreast (m'.visit routine a) := ⟨h.eases, h.room⟩

theorem Abreast.ascend {m m' : Meter} (h : m.Abreast m') (cost : Nat) :
    (m.ascend cost).Abreast (m'.ascend cost) where
  eases := h.eases.ascend cost
  room := by
    have := h.room
    rw [Meter.ascend, Lookahead.ascend, toNat_giveBack]
    omega

theorem Abreast.ask {α : Type} {m m' : Meter} (h : m.Abreast m')
    {call : Lookahead → Except ParseError α × Lookahead} (hcall : Lookahead.Blind call) :
    ∃ reply after after', m.ask call = (reply, after) ∧ m'.ask call = (reply, after') ∧
      after.Abreast after' := by
  obtain ⟨reply, after, after', hs, hs', hafter, hdepth⟩ := hcall _ _ h.eases
  have hroom : after.depth.toNat + groupCost < UInt64.size := hdepth ▸ h.room
  rw [Meter.ask, Meter.ask, hs, hs']
  cases reply <;> exact ⟨_, _, _, rfl, rfl, hafter, hroom⟩

end Meter

/-- One of two parses, the second, does as the first one or the first one ends because of its
nesting.  They are still abreast after a success.  A parse that runs out of frames is not
compared. -/
def Alike {α : Type} (parsed parsed' : Option (Reply α)) : Prop :=
  ∀ reply m reply' m', parsed = some (reply, m) → parsed' = some (reply', m') →
    (∃ p, reply = .error (.refused (.nestingTooDeep p))) ∨
      reply' = reply ∧ m.stream.Eases m'.stream ∧ ((∃ value, reply = .ok value) → m.Abreast m')

namespace Alike

variable {α β : Type} {m m' : Meter} {parsed parsed' : Option (Reply α)}

theorem ok (value : α) (h : m.Abreast m') : Alike (some (.ok value, m)) (some (.ok value, m')) := by
  rintro _ _ _ _ ⟨⟩ ⟨⟩
  exact .inr ⟨rfl, h.eases, fun _ ↦ h⟩

theorem error (e : Halt) (h : m.stream.Eases m'.stream) :
    Alike (some ((.error e : Except Halt α), m)) (some (.error e, m')) := by
  rintro _ _ _ _ ⟨⟩ ⟨⟩
  exact .inr ⟨rfl, h, nofun⟩

theorem tooDeep (p : Nat) (m : Meter) (parsed' : Option (Reply α)) :
    Alike (some (.error (.refused (.nestingTooDeep p)), m)) parsed' := by
  rintro _ _ _ _ ⟨⟩ -
  exact .inl ⟨p, rfl⟩

/-- What is done behind two parses; that the nesting was too deep is passed on. -/
theorem bind {behind behind' : Reply α → Option (Reply β)} (h : Alike parsed parsed')
    (hdeep : ∀ p m, ∃ m', behind (.error (.refused (.nestingTooDeep p)), m) =
      some (.error (.refused (.nestingTooDeep p)), m'))
    (herror : ∀ e m m', m.stream.Eases m'.stream →
      Alike (behind (.error e, m)) (behind' (.error e, m')))
    (hok : ∀ value m m', m.Abreast m' → Alike (behind (.ok value, m)) (behind' (.ok value, m'))) :
    Alike (parsed >>= behind) (parsed' >>= behind') := by
  cases parsed with
  | none => rintro _ _ _ _ ⟨⟩
  | some found =>
    cases parsed' with
    | none => rintro _ _ _ _ - ⟨⟩
    | some found' =>
      obtain ⟨reply, m⟩ := found
      obtain ⟨reply', m'⟩ := found'
      obtain ⟨p, hp⟩ | ⟨hreply, hm, habreast⟩ := h _ _ _ _ rfl rfl
      · cases hp
        obtain ⟨after, hafter⟩ := hdeep p m
        simp only [Option.bind_eq_bind, Option.bind_some, hafter]
        exact tooDeep p after _
      · cases hreply
        cases reply with
        | error e => exact herror e m m' hm
        | ok value => exact hok value m m' (habreast ⟨value, rfl⟩)

/-- What is done behind the second parse, if the first one has failed. -/
theorem passed {error : Halt} {behind : Reply α → Option (Reply β)}
    (h : Alike (some (.error error, m)) parsed')
    (hbehind : ∀ m', m.stream.Eases m'.stream →
      Alike (some (.error error, m)) (behind (.error error, m'))) :
    Alike (some (.error error, m)) (parsed' >>= behind) := by
  cases parsed' with
  | none => rintro _ _ _ _ - ⟨⟩
  | some found' =>
    obtain ⟨reply', m'⟩ := found'
    obtain ⟨p, hp⟩ | ⟨hreply, hm, -⟩ := h _ _ _ _ rfl rfl
    · cases hp
      exact tooDeep p m _
    · cases hreply
      exact hbehind m' hm

/-- What two parses answer is made something else of. -/
theorem map (f : α → β) (h : Alike parsed parsed') :
    Alike (do let (reply, m) ← parsed; return (reply.map f, m))
      (do let (reply, m) ← parsed'; return (reply.map f, m)) :=
  h.bind (fun _ m ↦ ⟨m, rfl⟩) (fun e _ _ hm ↦ .error e hm) fun value _ _ hm ↦ .ok (f value) hm

/-- What two parses have spent is given back. -/
theorem ascend (cost : Nat) (h : Alike parsed parsed') :
    Alike (do let (reply, m) ← parsed; return (reply, m.ascend cost))
      (do let (reply, m) ← parsed'; return (reply, m.ascend cost)) :=
  h.bind (fun _ m ↦ ⟨m.ascend cost, rfl⟩) (fun e _ _ hm ↦ .error e (hm.ascend cost))
    fun value _ _ hm ↦ .ok value (hm.ascend cost)

/-- A token that has to come next, and what is done with it. -/
theorem nextRequired {behind : PlacedToken → Meter → Option (Reply β)} (h : m.Abreast m')
    (hbehind : ∀ t m m', m.Abreast m' → Alike (behind t m) (behind t m')) :
    Alike
      (match m.ask (·.nextRequired) with
      | (.error e, m) => some (.error e, m)
      | (.ok t, m) => behind t m)
      (match m'.ask (·.nextRequired) with
      | (.error e, m) => some (.error e, m)
      | (.ok t, m) => behind t m) := by
  obtain ⟨reply, n, n', hs, hs', h⟩ := h.ask Lookahead.blind_nextRequired
  rw [hs, hs']
  cases reply with
  | error e => exact .error e h.eases
  | ok t => exact hbehind t n n' h

/-- A look at what comes next, and what is done then. -/
theorem peek {behind : Option PlacedToken → Meter → Option (Reply β)} (h : m.Abreast m')
    (hbehind : ∀ seen m m', m.Abreast m' → Alike (behind seen m) (behind seen m')) :
    Alike
      (match m.ask (·.peek) with
      | (.error e, m) => some (.error e, m)
      | (.ok seen, m) => behind seen m)
      (match m'.ask (·.peek) with
      | (.error e, m) => some (.error e, m)
      | (.ok seen, m) => behind seen m) := by
  obtain ⟨reply, n, n', hs, hs', h⟩ := h.ask Lookahead.blind_peek
  rw [hs, hs']
  cases reply with
  | error e => exact .error e h.eases
  | ok seen => exact hbehind seen n n' h

/-- A symbol that has to come next, and what is done behind it. -/
theorem expect {symbol : String} {behind : Meter → Option (Reply β)} (h : m.Abreast m')
    (hbehind : ∀ m m', m.Abreast m' → Alike (behind m) (behind m')) :
    Alike
      (match m.ask (·.expectSymbol symbol) with
      | (.error e, m) => some (.error e, m)
      | (.ok _, m) => behind m)
      (match m'.ask (·.expectSymbol symbol) with
      | (.error e, m) => some (.error e, m)
      | (.ok _, m) => behind m) := by
  obtain ⟨reply, n, n', hs, hs', h⟩ := h.ask (Lookahead.blind_expectSymbol symbol)
  rw [hs, hs']
  cases reply with
  | error e => exact .error e h.eases
  | ok _ => exact hbehind n n' h

/-- An operator that may come next, and what is done with it and without. -/
theorem operator? {accepts : BinaryOp → Bool} {without : Meter → Option (Reply β)}
    {behind : BinaryOp → Meter → Option (Reply β)} (h : m.Abreast m')
    (hnone : ∀ m m', m.Abreast m' → Alike (without m) (without m'))
    (hsome : ∀ op m m', m.Abreast m' → Alike (behind op m) (behind op m')) :
    Alike
      (match m.ask (·.nextOperatorIf accepts) with
      | (.error e, m) => some (.error e, m)
      | (.ok none, m) => without m
      | (.ok (some op), m) => behind op m)
      (match m'.ask (·.nextOperatorIf accepts) with
      | (.error e, m) => some (.error e, m)
      | (.ok none, m) => without m
      | (.ok (some op), m) => behind op m) := by
  obtain ⟨reply, n, n', hs, hs', h⟩ := h.ask (Lookahead.blind_nextOperatorIf accepts)
  rw [hs, hs']
  rcases reply with e | _ | op
  · exact .error e h.eases
  · exact hnone n n' h
  · exact hsome op n n' h

/-- A descent, and what is done behind it.  Where one parse cannot descend and meets a lexical error
instead, the other one has to meet it behind its descent. -/
theorem descend {cost : Nat} {behind : Meter → Option (Reply β)} (h : m.Abreast m')
    (hcost : cost ≤ groupCost)
    (hbehind : ∀ m m', m.Abreast m' → Alike (behind m) (behind m'))
    (herror : ∀ e m m' after, m'.stream.peek = (.error e, after) → m.stream.Eases after →
      Alike (some (.error (.refused e), m)) (behind m')) :
    Alike
      (match m.ask (·.descend cost) with
      | (.error e, m) => some (.error e, m)
      | (.ok _, m) => behind m)
      (match m'.ask (·.descend cost) with
      | (.error e, m) => some (.error e, m)
      | (.ok _, m) => behind m) := by
  have hroom : m.stream.depth.toNat + cost < UInt64.size := by
    have := h.room
    omega
  obtain ⟨hs, hs', hfits⟩ | ⟨p, after, hs⟩ | ⟨e, after, after', hs, hafter, hs'⟩ :=
    h.eases.descend hroom
  · simp only [Meter.ask, hs, hs']
    exact hbehind _ _ ⟨h.eases.spend hroom, add_lt_size hfits le_rfl⟩
  · simp only [Meter.ask, hs]
    exact .tooDeep p _ _
  · rcases hs' with hs' | ⟨hs', hpeek⟩
    · simp only [Meter.ask, hs, hs']
      exact .error _ hafter
    · simp only [Meter.ask, hs, hs']
      exact herror e _ _ after' hpeek hafter

end Alike

/-! ## Each function, if the functions that it calls are alike -/

section Functions

variable {limit : Active → Bool} {frames : Nat}

/-- A function does alike on streams that are alike but for the nesting in use. -/
def Lenient (parse : Active → Meter → Option (Reply Expr)) : Prop :=
  ∀ a m m', m.Abreast m' → Alike (parse a m) (parse a m')

/-- An operand begins with a look at what comes next. -/
theorem Alike.unary_of_peek {e : ParseError} {m m' : Meter} {after : Lookahead}
    (hpeek : m'.stream.peek = (.error e, after)) (h : m.stream.Eases after) (a : Active) :
    Alike (some (.error (.refused e), m)) (Meter.unary limit frames a m') := by
  cases frames with
  | zero => rintro _ _ _ _ - ⟨⟩
  | succ frames =>
    have hask : (m'.visit .unary a).ask (·.peek) =
        (.error (.refused e), { m'.visit .unary a with stream := after }) := by
      simp only [Meter.ask, Meter.visit, hpeek]
    rw [Meter.unary, hask]
    exact .error _ h

/-- A tier begins with an operand; the induction is on the frames. -/
theorem Alike.tier_of_peek {e : ParseError} {m m' : Meter} {after : Lookahead}
    (hpeek : m'.stream.peek = (.error e, after)) (h : m.stream.Eases after) (tier : Nat)
    (a : Active) : Alike (some (.error (.refused e), m)) (Meter.tier limit frames tier a m') := by
  induction frames generalizing tier m' with
  | zero => rintro _ _ _ _ - ⟨⟩
  | succ frames ih =>
    cases tier with
    | zero =>
      rw [Meter.tier]
      exact .unary_of_peek hpeek h a
    | succ lower =>
      rw [Meter.tier]
      have hvisit : (m'.visit (.tier (lower + 1)) a).stream.peek = (.error e, after) := hpeek
      exact (ih hvisit lower).passed fun m' hm' ↦ .error _ hm'

/-- All functions do alike that have some number of frames. -/
structure LenientAt (limit : Active → Bool) (frames : Nat) : Prop where
  expression : Lenient (Meter.expression limit frames)
  tier : ∀ tier, Lenient (Meter.tier limit frames tier)
  comparison : ∀ lower left, Lenient (Meter.comparison limit frames lower · left)
  chain : ∀ lower taken left, Lenient (Meter.chain limit frames lower taken · left)
  unary : Lenient (Meter.unary limit frames)
  nestedUnary : Lenient (Meter.nestedUnary limit frames)
  base : Lenient (Meter.base limit frames)
  parenthesized : Lenient (Meter.parenthesized limit frames)
  cast : Lenient (Meter.cast limit frames)

theorem lenient_reference : Lenient Meter.reference := by
  intro a m m' h
  rw [Meter.reference, Meter.reference]
  refine .nextRequired (h.visit .reference a) fun t m m' h ↦ ?_
  rcases Parser.variableIndex? t.token with _ | index
  · exact .error _ h.eases
  · exact .expect h fun m m' h ↦ .ok _ h

variable (hlimit : ∀ a, limit a = true) (ih : LenientAt limit frames)
include ih

theorem lenient_comparison (lower : Nat) (left : Expr) :
    Lenient (Meter.comparison limit (frames + 1) lower · left) := by
  intro a m m' h
  simp only [Meter.comparison]
  exact .operator? h (fun m m' h ↦ .ok left h) fun op m m' h ↦
    (ih.tier lower a m m' h).map (Expr.binary op left)

/-- A chain: what its turns have spent is given back at once. -/
theorem lenient_chain (lower taken : Nat) (left : Expr) :
    Lenient (Meter.chain limit (frames + 1) lower taken · left) := by
  intro a m m' h
  simp only [Meter.chain]
  refine .operator? h (fun m m' h ↦ .ok left (h.ascend taken)) fun op m m' h ↦ ?_
  refine .descend h (by decide) (fun m m' h ↦ ?_) fun e m m' after hpeek h ↦ ?_
  · exact (ih.tier lower a.operator m m' h).bind (fun _ m ↦ ⟨m, rfl⟩) (fun e m m' h ↦ .error e h)
      fun right m m' h ↦ ih.chain lower (taken + 1) (.binary op left right) a.operator m m' h
  · exact (Alike.tier_of_peek hpeek h lower a.operator).passed fun m' h ↦ .error _ h

theorem lenient_tier (tier : Nat) : Lenient (Meter.tier limit (frames + 1) tier) := by
  intro a m m' h
  cases tier with
  | zero =>
    rw [Meter.tier, Meter.tier]
    exact ih.unary a m m' h
  | succ lower =>
    rw [Meter.tier, Meter.tier]
    have hlower := ih.tier lower a _ _ (h.visit (.tier (lower + 1)) a)
    refine hlower.bind (fun _ m ↦ ⟨m, rfl⟩) (fun e m m' h ↦ .error e h) fun left m m' h ↦ ?_
    simp only
    split
    · exact ih.comparison lower left a m m' h
    · exact ih.chain lower 0 left a m m' h

theorem lenient_base : Lenient (Meter.base limit (frames + 1)) := by
  intro a m m' h
  rw [Meter.base, Meter.base]
  refine .nextRequired (h.visit .base a) fun t m m' h ↦ ?_
  rcases t.token.kind with _ | _ | _ | _
  · simp only
    split
    · exact ih.parenthesized a m m' h
    split
    · exact lenient_reference a m m' h
    · exact .error _ h.eases
  · simp only
    split
    · exact .ok _ h
    · exact .error _ h.eases
  · simp only
    split
    · exact .ok _ h
    · exact .error _ h.eases
  · exact .ok _ h

theorem lenient_cast : Lenient (Meter.cast limit (frames + 1)) := by
  intro a m m' h
  rw [Meter.cast, Meter.cast]
  refine .nextRequired (h.visit .cast a) fun t m m' h ↦ ?_
  rcases ValueType.ofCastName? t.token.text with _ | type
  · exact .error _ h.eases
  · exact .expect h fun m m' h ↦ (ih.nestedUnary a m m' h).map (Expr.cast type)

theorem lenient_parenthesized : Lenient (Meter.parenthesized limit (frames + 1)) := by
  intro a m m' h
  rw [Meter.parenthesized, Meter.parenthesized]
  refine .peek (h.visit .parenthesized a) fun seen m m' h ↦ ?_
  split
  · exact ih.cast a m m' h
  · exact (ih.expression a m m' h).bind (fun _ m ↦ ⟨m, rfl⟩) (fun e m m' h ↦ .error e h)
      fun inner m m' h ↦ .expect h fun m m' h ↦ .ok inner h

theorem lenient_unary : Lenient (Meter.unary limit (frames + 1)) := by
  intro a m m' h
  rw [Meter.unary, Meter.unary]
  refine .peek (h.visit .unary a) fun seen m m' h ↦ ?_
  rcases seen.bind fun t ↦ Parser.lead? t.token with _ | lead
  · exact ih.base a m m' h
  -- what was seen is taken
  obtain ⟨reply, n, n', hs, hs', h⟩ := h.ask Lookahead.blind_next
  simp only [hs, hs']
  rcases reply with e | _
  · exact .error e h.eases
  rcases lead with op | _ | b
  · exact (ih.nestedUnary a n n' h).map (Expr.unary op)
  · exact ih.nestedUnary a n n' h
  · exact .ok _ h

include hlimit

theorem lenient_expression : Lenient (Meter.expression limit (frames + 1)) := by
  intro a m m' h
  rw [Meter.expression, Meter.expression]
  refine .descend (h.visit .expression a) le_rfl (fun m m' h ↦ ?_)
    fun e m m' after hpeek h ↦ ?_
  · rw [if_pos (hlimit _), if_pos (hlimit _)]
    exact (ih.tier BinaryOp.loosestTier a.group m m' h).ascend groupCost
  · rw [if_pos (hlimit _)]
    exact (Alike.tier_of_peek hpeek h BinaryOp.loosestTier a.group).passed fun m' h ↦
      .error _ (h.ascend_right groupCost)

theorem lenient_nestedUnary : Lenient (Meter.nestedUnary limit (frames + 1)) := by
  intro a m m' h
  rw [Meter.nestedUnary, Meter.nestedUnary]
  refine .descend (h.visit .nestedUnary a) (by decide) (fun m m' h ↦ ?_)
    fun e m m' after hpeek h ↦ ?_
  · rw [if_pos (hlimit _), if_pos (hlimit _)]
    exact (ih.unary a.operand m m' h).ascend 1
  · rw [if_pos (hlimit _)]
    exact (Alike.unary_of_peek hpeek h a.operand).passed fun m' h ↦ .error _ (h.ascend_right 1)

end Functions

/-! ## All functions -/

/-- Without a frame there is nothing to compare. -/
theorem lenient_none : Lenient fun _ _ ↦ none := by
  rintro _ _ _ - _ _ _ _ ⟨⟩

/-- All functions do alike; the induction is on the frames, of which each call takes one. -/
theorem lenientAt {limit : Active → Bool} (hlimit : ∀ a, limit a = true) (frames : Nat) :
    LenientAt limit frames := by
  induction frames with
  | zero =>
    exact ⟨lenient_none, fun _ ↦ lenient_none, fun _ _ ↦ lenient_none, fun _ _ _ ↦ lenient_none,
      lenient_none, lenient_none, lenient_none, lenient_none, lenient_none⟩
  | succ frames ih =>
    exact ⟨lenient_expression hlimit ih, lenient_tier ih, lenient_comparison ih, lenient_chain ih,
      lenient_unary ih, lenient_nestedUnary hlimit ih, lenient_base ih, lenient_parenthesized ih,
      lenient_cast ih⟩

theorem lenient_level {limit : Active → Bool} (hlimit : ∀ a, limit a = true)
    (level : Parser.Level) (frames : Nat) : Lenient (Meter.level limit level frames) := by
  have h := lenientAt hlimit frames
  match level with
  | .expression => exact h.expression
  | .tier k => exact h.tier k
  | .unary => exact h.unary
  | .base => exact h.base

namespace Lookahead

theorem mapError_refused_injective {answer answer' : Except ParseError Expr}
    (h : answer'.mapError Halt.refused = answer.mapError .refused) : answer' = answer := by
  cases answer <;> cases answer' <;> cases h <;> rfl

/-- **The budget only ever rejects, as long as the count does not wrap around.**  Take two streams
that are alike but for the nesting in use, with room in the count for a descent where more of it is
in use, and parse at a level of the grammar from both.  Either the parse with more nesting in use
ends because of it, or the other one comes to the same, a tree or an error with its position; and
then both streams are left with the same token looked at and the same text to read, once more alike
but for the nesting in use. -/
theorem parse_of_eases (more : Nat) (level : Parser.Level) (s s' : Lookahead) (h : s.Eases s')
    (hroom : s.depth.toNat + groupCost < UInt64.size) :
    ∃ answer after answer' after',
      (s.parse more level = some (answer.mapError .refused, after) ∧
        s.view.parse level = (answer, after.view)) ∧
      (s'.parse more level = some (answer'.mapError .refused, after') ∧
        s'.view.parse level = (answer', after'.view)) ∧
      ((∀ p, answer ≠ .error (.nestingTooDeep p)) → answer' = answer ∧ after.Eases after') := by
  obtain ⟨answer, after, hparse, hview⟩ := s.exists_parse more level
  obtain ⟨answer', after', hparse', hview'⟩ := s'.exists_parse more level
  refine ⟨answer, after, answer', after', ⟨hparse, hview⟩, ⟨hparse', hview'⟩, fun hdeep ↦ ?_⟩
  obtain ⟨⟨reply, m⟩, hm, heq⟩ := Option.map_eq_some_iff.1 hparse
  obtain ⟨⟨reply', m'⟩, hm', heq'⟩ := Option.map_eq_some_iff.1 hparse'
  cases heq
  cases heq'
  obtain ⟨p, hp⟩ | ⟨hreply, heases, -⟩ := lenient_level (fun _ ↦ rfl) level _ {}
    { stream := s, visits := [] } { stream := s', visits := [] } ⟨h, hroom⟩ _ _ _ _ hm hm'
  · cases answer with
    | ok e => cases hp
    | error e =>
      cases hp
      exact absurd rfl (hdeep p)
  · exact ⟨mapError_refused_injective hreply, heases⟩

/-- With the whole budget in use the operand of a minus sign cannot descend, and an escape that is
none is met.  With nothing in use it descends, and meets the same. -/
theorem parse_of_eases_escape :
    let s (depth : UInt64) : Lookahead :=
      { cursor := { position := 0, text := ['-', '\x22', '\\', 'q'] }, peeked := none, stop := 4,
        depth, cursor_at_end := by rintro ⟨⟩ }
    let error := Except.error (Halt.refused (.lexical (.unrecognizedEscape 'q' 2)))
    (s 256).Eases (s 0) ∧ (s 256).depth.toNat + groupCost < UInt64.size ∧
      ((s 256).parse 0 .unary).map (·.1) = some error ∧
      ((s 0).parse 0 .unary).map (·.1) = some error := by
  intro s error
  have hs : (s 256).Eases (s 0) := ⟨rfl, rfl, rfl, by decide⟩
  have hroom : (s 256).depth.toNat + groupCost < UInt64.size := by decide
  have herror : ((s 256).parse 0 .unary).map (·.1) = some error := by cbv
  obtain ⟨answer, after, answer', after', ⟨hparse, -⟩, ⟨hparse', -⟩, halike⟩ :=
    parse_of_eases 0 .unary (s 256) (s 0) hs hroom
  have hanswer : answer.mapError .refused = error := by
    rw [hparse] at herror
    exact Option.some.inj herror
  have hshallow : ∀ p, answer ≠ .error (.nestingTooDeep p) := by
    rintro p rfl
    simp [error, Except.mapError] at hanswer
  obtain ⟨rfl, -⟩ := halike hshallow
  exact ⟨hs, hroom, herror, by rw [hparse', ← hanswer]; rfl⟩

/-- With all of the count in use the cost of an expression wraps around, and a number is found.
With less in use, but still more than the budget, there is none. -/
theorem parse_of_eases_last :
    let s (depth : UInt64) : Lookahead := { Lookahead.ofSource "1" with depth }
    (s 18446744073709551615).Eases (s 300) ∧
      ((s 18446744073709551615).parse 0 .expression).map (·.1) =
        some (.ok (.const (.int32 1))) ∧
      ((s 300).parse 0 .expression).map (·.1) = some (.error (.refused (.nestingTooDeep 0))) := by
  intro s
  exact ⟨⟨rfl, rfl, rfl, by decide⟩, by cbv, by cbv⟩

end Lookahead

end Formula
