import Formula.Proofs.Parser.Accounts
import Mathlib

/-!
# What is spent, and what comes back

Nesting is spent and given back by hand, with early exits between the two, and giving back stops at
zero without a word.  The books balance all the same as long as the count, a machine word, does not
wrap around.  `mirrors_parse` has that as its content, and here are the two things that it is for.

* The budget is conserved, `Lookahead.depth_of_parse`.  At any level of the grammar and on any
  stream with room for one descent more in the count, a success leaves as much in use as there was,
  and a failure leaves no less.  Hence parses one after another, on one stream, gain no budget.  In
  front of the last few words a success may leave nothing in use instead:
  `Lookahead.depth_of_parse_last` is a parse that gains the whole budget so.
* The recursion is bounded, `Meter.parse_atMost`.  At any call the nesting in use is what the calls
  under way and the unfinished chains have spent, and since that is in the budget, so many calls
  cannot be under way at a time, however long the text is.

The first needs no account of the calls, the second one does: `Active.Spends`.  An operand is always
inside of an expression, and so there is a bit less for operands than the whole budget.
-/

set_option autoImplicit false

namespace Formula

open Nesting TokenStream

/-! ## Conservation -/

/-- What is in use leaves room for a bounded number of frames only. -/
theorem deeperFrames_le (depth : UInt64) : deeperFrames depth ≤ 7 * (maxDepth + groupCost) :=
  Nat.mul_le_mul_left 7 (room_le depth)

namespace Lookahead

/-- Takes an expression of a level, with frames enough for whatever may be spent and more. -/
def parse (more : Nat) (level : Parser.Level) (s : Lookahead) :
    Option (Except Halt Expr × Lookahead) :=
  (Meter.level (fun _ ↦ true) level (7 * (maxDepth + groupCost) + level.frames + more) {}
    { stream := s, visits := [] }).map fun (reply, m) ↦ (reply, m.stream)

/-- Takes expressions of some levels one after another, whether they are there or not. -/
def parseAll (more : Nat) : List Parser.Level → Lookahead → Option Lookahead
  | [], s => some s
  | level :: levels, s => do
    let (_, s) ← s.parse more level
    s.parseAll more levels

/-- One level: it ends as the parse on the items does. -/
theorem exists_parse (more : Nat) (level : Parser.Level) (s : Lookahead) :
    ∃ answer s', s.parse more level = some (answer.mapError .refused, s') ∧
      s.view.parse level = (answer, s'.view) := by
  have k : Keeps (fun _ ↦ true) (fun _ _ ↦ True) (fun _ _ ↦ True) :=
    ⟨fun _ ↦ trivial, fun _ _ ↦ ⟨rfl, trivial⟩, fun _ _ ↦ ⟨rfl, trivial⟩, fun _ _ ↦ trivial,
      fun _ _ ↦ trivial⟩
  have hstands : Meter.Stands (fun _ _ ↦ True) { stream := s, visits := [] } s.view :=
    ⟨rfl, by simp⟩
  have hframes : deeperFrames s.view.depth + level.frames ≤
      7 * (maxDepth + groupCost) + level.frames + more := by
    have := deeperFrames_le s.view.depth
    omega
  obtain ⟨m, hparsed, hm⟩ := mirrors_parse k level (a := {}) hframes trivial hstands
  exact ⟨(s.view.parse level).1, m.stream, by rw [parse, hparsed]; rfl, by rw [hm.view]⟩

/-- Some levels one after another: the nesting in use does not get less, if the count has room for
all descents that can fail. -/
theorem exists_parseAll (more : Nat) (levels : List Parser.Level) (s : Lookahead)
    (hroom : max s.depth.toNat maxDepth + groupCost * levels.length < UInt64.size) :
    ∃ s', s.parseAll more levels = some s' ∧ s.depth ≤ s'.depth := by
  induction levels generalizing s with
  | nil => exact ⟨s, rfl, UInt64.le_refl _⟩
  | cons level levels ih =>
    rw [List.length_cons, Nat.mul_succ] at hroom
    obtain ⟨answer, mid, hparse, hview⟩ := s.exists_parse more level
    have hlt : s.depth.toNat + groupCost < UInt64.size := by omega
    have hmid : s.depth ≤ mid.depth ∧
        mid.depth.toNat ≤ max s.depth.toNat maxDepth + groupCost := by
      cases answer with
      | ok e =>
        have hkept : mid.depth = s.depth := Returns.eq (returns_of_parse hview) hlt
        rw [hkept]
        exact ⟨UInt64.le_refl _, by omega⟩
      | error e => exact depth_of_parse_eq_error hlt hview
    obtain ⟨s', hrest, hle⟩ := ih mid (by omega)
    exact ⟨s', by rw [parseAll, hparse]; exact hrest, UInt64.le_trans hmid.1 hle⟩

/-- **The budget is conserved, as long as the count does not wrap around.**  At every level of the
grammar and from every stream, whatever is in use, a parse ends as the one on the items does.  If it
succeeds then as much nesting is in use as before, or none if so much was in use that a cost wraps
around.  If it fails then no less is in use, where no cost wraps around, though at most one descent
beyond the budget or beyond what was in use.  Hence parses one after another gain nothing, if the
count has room for one descent for each of them. -/
theorem depth_of_parse (more : Nat) (s : Lookahead) :
    (∀ level : Parser.Level,
      ∃ answer s', s.parse more level = some (answer.mapError .refused, s') ∧
        s.view.parse level = (answer, s'.view) ∧
        match answer with
        | .ok _ => s'.depth = s.depth ∨ UInt64.size ≤ s.depth.toNat + groupCost ∧ s'.depth = 0
        | .error _ => s.depth.toNat + groupCost < UInt64.size →
            s.depth ≤ s'.depth ∧ s'.depth.toNat ≤ max s.depth.toNat maxDepth + groupCost) ∧
    ∀ levels : List Parser.Level,
      max s.depth.toNat maxDepth + groupCost * levels.length < UInt64.size →
        ∃ s', s.parseAll more levels = some s' ∧ s.depth ≤ s'.depth := by
  refine ⟨fun level ↦ ?_, fun levels ↦ s.exists_parseAll more levels⟩
  obtain ⟨answer, s', hparse, hview⟩ := s.exists_parse more level
  refine ⟨answer, s', hparse, hview, ?_⟩
  cases answer with
  | ok e => exact returns_of_parse hview
  | error e => exact fun hroom ↦ depth_of_parse_eq_error hroom hview

/-- More than the budget is in use.  An expression fails, and leaves what its descent has spent; the
number behind it is found; and nothing is gained. -/
theorem depth_of_parse_beyond :
    let s : Lookahead := { Lookahead.ofSource "1" with depth := 300 }
    (∃ p s', s.parse 0 .expression = some (.error (.refused (.nestingTooDeep p)), s') ∧
      s.depth ≤ s'.depth ∧ s'.depth.toNat ≤ 300 + groupCost) ∧
    ∃ s', s.parseAll 0 [.expression, .base] = some s' ∧ s.depth ≤ s'.depth := by
  intro s
  refine ⟨?_, (depth_of_parse 0 s).2 _ (by decide)⟩
  have hdeep : (s.parse 0 .expression).map (·.1) =
      some (.error (.refused (.nestingTooDeep 0))) := by cbv
  obtain ⟨answer, s', hparse, -, hdepth⟩ := (depth_of_parse 0 s).1 .expression
  rw [hparse] at hdeep
  cases answer with
  | ok e => cases hdeep
  | error e =>
    cases hdeep
    exact ⟨0, s', hparse, hdepth (by decide)⟩

/-- All of the count is in use.  The cost of an expression wraps around and is within the budget,
and what it gives back is all that is left. -/
theorem depth_of_parse_last :
    let s : Lookahead := { Lookahead.ofSource "1" with depth := 18446744073709551615 }
    (s.parse 0 .expression).map (fun (answer, s') ↦ (answer, s'.depth)) =
        some (.ok (.const (.int32 1)), 0) ∧
      (0 : UInt64) < s.depth := by
  intro s
  exact ⟨by cbv, by decide⟩

end Lookahead

/-! ## Bounded recursion -/

/-- The nesting in use is what is under way has spent, and it is in the budget. -/
def Active.Spends (a : Active) (depth : Nat) : Prop :=
  depth = groupCost * a.groups + a.operands + a.operators ∧ depth ≤ maxDepth

/-- A limit on the expressions that are under way and on the operands. -/
def Active.atMost (groups operands : Nat) (a : Active) : Bool :=
  a.groups ≤ groups && a.operands ≤ operands

/-- Within the budget no cost of the parser wraps around. -/
theorem add_lt_size {depth cost : Nat} (h : depth ≤ maxDepth) (hcost : cost ≤ groupCost) :
    depth + cost < UInt64.size := by
  simp only [groupCost, maxDepth, UInt64.size] at *
  omega

/-- What is spent is an account of a parse, and inside of an expression that expression has been
paid for.  Any limit is kept that admits what can be paid for. -/
theorem Active.keeps_spends {limit : Active → Bool}
    (hlimit : ∀ a : Active, groupCost * a.groups ≤ maxDepth → a.operands + groupCost ≤ maxDepth →
      limit a = true) :
    Keeps limit Spends fun a depth ↦ a.Spends depth ∧ 0 < a.groups where
  visit_of_within h := h.1
  group := by
    rintro a depth ⟨hspent, hle⟩ hfits
    rw [toNat_spend_of_lt (add_lt_size hle le_rfl)] at hfits ⊢
    have hcost : groupCost * (a.groups + 1) = groupCost * a.groups + groupCost := Nat.mul_succ ..
    refine ⟨hlimit _ ?_ ?_, ⟨?_, hfits⟩, Nat.succ_pos _⟩ <;> simp only [group] <;> omega
  operand := by
    rintro a depth ⟨⟨hspent, hle⟩, hpos⟩ hfits
    rw [toNat_spend_of_lt (add_lt_size hle (by decide))] at hfits ⊢
    have hgroup : groupCost * 1 ≤ groupCost * a.groups := Nat.mul_le_mul_left _ hpos
    refine ⟨hlimit _ ?_ ?_, ⟨?_, hfits⟩, hpos⟩ <;> simp only [operand] <;> omega
  operator := by
    rintro a depth ⟨⟨hspent, hle⟩, hpos⟩ hfits
    rw [toNat_spend_of_lt (add_lt_size hle (by decide))] at hfits ⊢
    exact ⟨⟨by simp only [operator]; omega, hfits⟩, hpos⟩
  returns := by
    rintro a before after ⟨hspent, hpos⟩ hreturns
    rw [hreturns.eq (add_lt_size hspent.2 le_rfl)]
    exact ⟨hspent, hpos⟩

namespace Meter

/-- The parse of a whole source text under a limit that an account keeps. -/
theorem exists_parse {limit : Active → Bool} {visit within : Active → Nat → Prop}
    (k : Keeps limit visit within) (hstart : visit {} 0) (more : Nat) (source : String) :
    ∃ calls, parse limit (deeperFrames 0 + 1 + more) source =
        some ((Expr.parse source).mapError .refused, calls) ∧
      ∀ v ∈ calls, visit v.active v.depth := by
  have hstands : Stands visit { stream := .ofSource source, visits := [] }
      (.ofSource source) := ⟨rfl, by simp⟩
  have hframes : deeperFrames 0 + 1 ≤ deeperFrames 0 + 1 + more := Nat.le_add_right ..
  obtain ⟨m, hparsed, hm⟩ :=
    (mirroredAt k _).expression {} _ (.ofSource source) hframes hstart hstands
  rw [parse, hparsed, Expr.parse, TokenStream.parse]
  generalize (TokenStream.ofSource source).parseExpression.val = found at hm ⊢
  obtain ⟨e | e, s⟩ := found
  · exact ⟨m.visits, rfl, hm.visits⟩
  · obtain ⟨m', hask, hm'⟩ := hm.ask Lookahead.next_view
    simp only [Option.bind_eq_bind, Option.bind_some, Except.mapError, hask]
    rcases s.next with ⟨_ | _ | _, _⟩ <;> exact ⟨m'.visits, rfl, hm'.visits⟩

/-- A limit is looked at as soon as an expression has descended. -/
theorem parse_of_limit_eq_false {limit : Active → Bool}
    (hlimit : limit (Active.group {}) = false) (frames : Nat) (source : String) :
    parse limit (frames + 1) source =
      some (.error .exceeded, [{ routine := .expression, active := {}, depth := 0 }]) := by
  have hspent : (visit .expression {} { stream := .ofSource source, visits := [] }).ask
      (·.descend groupCost) =
        (.ok (), ⟨(Lookahead.ofSource source).spend groupCost, [⟨.expression, {}, 0⟩]⟩) := rfl
  simp only [parse, expression, hspent, hlimit]
  rfl

/-- Two groups, one in the other, are three expressions. -/
example :
    (parse (Active.atMost 2 0) 120 "((1))").map (·.1) = some (.error .exceeded) ∧
      (parse (Active.atMost 3 0) 120 "((1))").map (·.1) = some (.ok (.const (.int32 1))) := by
  constructor <;> cbv

/-- **The recursion is bounded independently of the text.**  At every call of a parse the nesting in
use is four for each expression that has descended, one for each operand of a prefix operator or a
cast that has, and one for each operator that an unfinished chain has descended for, and it is
within the budget.  Hence a parse that gives up when more than 64 expressions or more than 252
operands have descended never gives up, and comes to the same; and so does one with no more than
1793 frames. -/
theorem parse_atMost (more : Nat) (source : String) :
    (∃ calls, parse (fun _ ↦ true) (1793 + more) source =
        some ((Expr.parse source).mapError .refused, calls) ∧
      ∀ v ∈ calls,
        v.depth = 4 * v.active.groups + v.active.operands + v.active.operators ∧
          v.depth ≤ 256) ∧
    ∃ calls, parse (Active.atMost 64 252) (1793 + more) source =
      some ((Expr.parse source).mapError .refused, calls) := by
  have hstart : Active.Spends {} 0 := ⟨rfl, Nat.zero_le _⟩
  refine ⟨exists_parse (Active.keeps_spends fun _ _ _ ↦ rfl) hstart more source, ?_⟩
  have hadmits : ∀ a : Active, groupCost * a.groups ≤ maxDepth → a.operands + groupCost ≤ maxDepth →
      Active.atMost 64 252 a = true := by
    intro a hgroups hoperands
    simp only [groupCost, maxDepth] at hgroups hoperands
    simp only [Active.atMost, Bool.and_eq_true, decide_eq_true_eq]
    omega
  obtain ⟨calls, hparse, -⟩ := exists_parse (Active.keeps_spends hadmits) hstart more source
  exact ⟨calls, hparse⟩

end Meter

end Formula
