import Formula.Proofs.Stream.Calls
import Formula.Proofs.Token.Partition

/-!
# Streams that read as they go

A `TokenStream` has all items of its text from the beginning.  A `Lookahead` has a lexer, which it
calls when an item is asked for, and a place for what was looked at and not taken: a token, or the
fact that there is none any more.  There is never an error in that place, since the lexer is behind
an error as soon as it has reported it.

The two kinds of streams cannot be told apart by any calls, `Lookahead.isView`, where the items of
the one are the token in the place and what the lexer of the other has still to find.  Hence a
`Lookahead` gives its client the items of the text as they are, whatever is asked of it in whatever
order: `Lookahead.deliveries_append_pending`.
-/

set_option autoImplicit false

namespace Formula

open Lexer Call

/-! ## A lexer with a place for what was looked at -/

/-- A lexer and what was looked at: nothing, the end, or a token.  Past the end the lexer finds
nothing any more. -/
structure Lookahead where
  cursor : Cursor
  peeked : Option (Option PlacedToken)
  stop : Nat
  depth : UInt64
  cursor_at_end : peeked = some none → next? cursor = none

namespace Lookahead

/-- The stream of a whole source text. -/
def ofSource (source : String) : Lookahead where
  cursor := .ofSource source
  peeked := none
  stop := Text.byteLength source.toList
  depth := 0
  cursor_at_end := by rintro ⟨⟩

/-! ## Calls -/

/-- Looks at the next token.  After an error nothing has been looked at, and the lexer is behind
the error. -/
def peek (s : Lookahead) : Except ParseError (Option PlacedToken) × Lookahead :=
  match s.peeked with
  | some found => (.ok found, s)
  | none =>
    match h : next? s.cursor with
    | none => (.ok none, { s with peeked := some none, cursor_at_end := fun _ ↦ h })
    | some (.token t, cursor) =>
      (.ok (some t), { s with cursor, peeked := some (some t), cursor_at_end := by rintro ⟨⟩ })
    | some (.error e, cursor) =>
      (.error (.lexical e), { s with cursor, peeked := none, cursor_at_end := by rintro ⟨⟩ })

/-- Takes the next token: the one that was looked at, or else what the lexer finds. -/
def next (s : Lookahead) : Except ParseError (Option PlacedToken) × Lookahead :=
  match s.peeked with
  | some found => (.ok found, { s with peeked := none, cursor_at_end := by rintro ⟨⟩ })
  | none =>
    match next? s.cursor with
    | none => (.ok none, s)
    | some (.token t, cursor) =>
      (.ok (some t), { s with cursor, peeked := none, cursor_at_end := by rintro ⟨⟩ })
    | some (.error e, cursor) =>
      (.error (.lexical e), { s with cursor, peeked := none, cursor_at_end := by rintro ⟨⟩ })

/-- Takes the next token, of which there has to be one. -/
def nextRequired (s : Lookahead) : Except ParseError PlacedToken × Lookahead :=
  match s.next with
  | (.ok (some t), s) => (.ok t, s)
  | (.ok none, s) => (.error (.unexpectedEnd s.stop), s)
  | (.error e, s) => (.error e, s)

/-- Takes a symbol that has to come next. -/
def expectSymbol (symbol : String) (s : Lookahead) : Except ParseError Unit × Lookahead :=
  match s.nextRequired with
  | (.ok t, s) =>
    if t.token.isSymbol symbol then (.ok (), s)
    else (.error (.expectedToken symbol t.token.text t.position), s)
  | (.error e, s) => (.error e, s)

/-- Looks at the next token, and takes it if it is a binary operator that `accepts` holds of. -/
def nextOperatorIf (accepts : BinaryOp → Bool) (s : Lookahead) :
    Except ParseError (Option BinaryOp) × Lookahead :=
  match s.peek with
  | (.ok (some t), s) =>
    match t.token.operator?.filter accepts with
    | some op =>
      match s.next with
      | (.ok _, s) => (.ok (some op), s)
      | (.error e, s) => (.error e, s)
    | none => (.ok none, s)
  | (.ok none, s) => (.ok none, s)
  | (.error e, s) => (.error e, s)

/-- The stream with more nesting in use, a count that wraps around. -/
def spend (cost : Nat) (s : Lookahead) : Lookahead := { s with depth := s.depth + .ofNat cost }

/-- Spends nesting; fails at the next token if more than the budget is then in use. -/
def descend (cost : Nat) (s : Lookahead) : Except ParseError Unit × Lookahead :=
  if (s.spend cost).depth.toNat ≤ maxDepth then (.ok (), s.spend cost)
  else
    match (s.spend cost).peek with
    | (.ok (some t), s) => (.error (.nestingTooDeep t.position), s)
    | (.ok none, s) => (.error (.nestingTooDeep s.stop), s)
    | (.error e, s) => (.error e, s)

/-- Gives nesting back, as far as any is in use. -/
def ascend (cost : Nat) (s : Lookahead) : Lookahead :=
  { s with depth := .ofNat (s.depth.toNat - cost) }

/-- A call on a stream. -/
def perform : Call → Lookahead → Except ParseError Answer × Lookahead
  | .peek, s => s.peek.map (.map .token) id
  | .next, s => s.next.map (.map .token) id
  | .nextRequired, s => s.nextRequired.map (.map fun t ↦ .token (some t)) id
  | .nextOperatorIf accepts, s => (s.nextOperatorIf accepts).map (.map .operator) id
  | .expectSymbol symbol, s => (s.expectSymbol symbol).map (.map fun _ ↦ .done) id
  | .descend cost, s => (s.descend cost).map (.map fun _ ↦ .done) id
  | .ascend cost, s => (.ok .done, s.ascend cost)

/-! ## As a stream that holds its items -/

/-- The token that was looked at and not taken. -/
def buffered (s : Lookahead) : List Item :=
  match s.peeked with
  | some (some t) => [.token t]
  | _ => []

/-- What remains: the token that was looked at, and what the lexer has still to find. -/
def pending (s : Lookahead) : List Item := s.buffered ++ s.cursor.items

/-- The stream that holds what remains. -/
def view (s : Lookahead) : TokenStream := { items := s.pending, stop := s.stop, depth := s.depth }

theorem peek_view (s : Lookahead) : s.view.peek = (s.peek.1, s.peek.2.view) := by
  obtain ⟨cursor, peeked, stop, depth, hend⟩ := s
  match peeked with
  | some (some t) => rfl
  | some none =>
    simp only [peek, view, pending, buffered, Cursor.items_of_none (hend rfl)]
    rfl
  | none =>
    simp only [peek]
    split
    · rename_i hnone
      simp only [view, pending, buffered, Cursor.items_of_none hnone]
      rfl
    · rename_i t cursor' hsome
      simp only [view, pending, buffered, Cursor.items_of_some hsome]
      rfl
    · rename_i e cursor' hsome
      simp only [view, pending, buffered, Cursor.items_of_some hsome]
      rfl

theorem next_view (s : Lookahead) : s.view.next = (s.next.1, s.next.2.view) := by
  obtain ⟨cursor, peeked, stop, depth, hend⟩ := s
  match peeked with
  | some (some t) => rfl
  | some none =>
    simp only [next, view, pending, buffered, Cursor.items_of_none (hend rfl)]
    rfl
  | none =>
    simp only [next]
    split
    · rename_i hnone
      simp only [view, pending, buffered, Cursor.items_of_none hnone]
      rfl
    · rename_i t cursor' hsome
      simp only [view, pending, buffered, Cursor.items_of_some hsome]
      rfl
    · rename_i e cursor' hsome
      simp only [view, pending, buffered, Cursor.items_of_some hsome]
      rfl

theorem nextRequired_view (s : Lookahead) :
    s.view.nextRequired = (s.nextRequired.1, s.nextRequired.2.view) := by
  rw [TokenStream.nextRequired, next_view, nextRequired]
  rcases s.next with ⟨e | _ | t, s'⟩ <;> rfl

theorem expectSymbol_view (symbol : String) (s : Lookahead) :
    s.view.expectSymbol symbol = ((s.expectSymbol symbol).1, (s.expectSymbol symbol).2.view) := by
  rw [TokenStream.expectSymbol, nextRequired_view, expectSymbol]
  obtain ⟨reply, s'⟩ := s.nextRequired
  cases reply with
  | error e => rfl
  | ok t =>
    simp only
    split <;> rfl

theorem nextOperatorIf_view (accepts : BinaryOp → Bool) (s : Lookahead) :
    s.view.nextOperatorIf accepts =
      ((s.nextOperatorIf accepts).1, (s.nextOperatorIf accepts).2.view) := by
  rw [TokenStream.nextOperatorIf, peek_view, nextOperatorIf]
  rcases s.peek with ⟨e | _ | t, s'⟩
  · rfl
  · rfl
  · simp only
    cases t.token.operator?.filter accepts with
    | none => rfl
    | some op =>
      simp only [next_view]
      obtain ⟨reply, s''⟩ := s'.next
      cases reply <;> rfl

theorem descend_view (cost : Nat) (s : Lookahead) :
    s.view.descend cost = ((s.descend cost).1, (s.descend cost).2.view) := by
  have hpeek : (s.view.spend cost).peek =
      ((s.spend cost).peek.1, (s.spend cost).peek.2.view) := (s.spend cost).peek_view
  rw [TokenStream.descend, descend, hpeek]
  by_cases hfits : (s.spend cost).depth.toNat ≤ maxDepth
  · rw [if_pos hfits, if_pos (show (s.view.spend cost).depth.toNat ≤ maxDepth from hfits)]
    rfl
  · rw [if_neg hfits, if_neg (show ¬ (s.view.spend cost).depth.toNat ≤ maxDepth from hfits)]
    rcases (s.spend cost).peek with ⟨e | _ | t, s'⟩ <;> rfl

/-- **The two kinds of streams answer alike**, call by call. -/
theorem isView : IsView perform TokenStream.perform view := by
  intro call s
  cases call with
  | peek => simp only [TokenStream.perform, peek_view, perform, Prod.map, id]
  | next => simp only [TokenStream.perform, next_view, perform, Prod.map, id]
  | nextRequired => simp only [TokenStream.perform, nextRequired_view, perform, Prod.map, id]
  | nextOperatorIf => simp only [TokenStream.perform, nextOperatorIf_view, perform, Prod.map, id]
  | expectSymbol => simp only [TokenStream.perform, expectSymbol_view, perform, Prod.map, id]
  | descend => simp only [TokenStream.perform, descend_view, perform, Prod.map, id]
  | ascend => rfl

/-! ## Nothing is lost and nothing comes twice -/

/-- **A stream gives out the items of its text as they are.**  Behind any calls, what they have
delivered, then the token in the place and then what the lexer has still to find make up what a
lexer finds in the whole text; the answers are those of the stream that holds these items.  From
there, a token that is seen is what the next call that takes a token delivers, whatever is asked in
between, and an operator is answered exactly when a token is taken for it. -/
theorem deliveries_append_pending (source : String) (calls : List Call) :
    let s := after perform (ofSource source) calls
    deliveries perform (ofSource source) calls ++ s.buffered ++ s.cursor.items =
        Lexer.items source ∧
      (replies perform (ofSource source) calls =
          replies TokenStream.perform (.ofSource source) calls ∧
        s.view = after TokenStream.perform (.ofSource source) calls) ∧
      (∀ t, (s.perform .peek).1 = .ok (.token (some t)) → ∀ more call,
        Consumes perform call (after perform (s.perform .peek).2 more) →
          (deliveries perform (s.perform .peek).2 (more ++ [call])).head? = some (.token t)) ∧
      ∀ accepts,
        (∃ op, (s.perform (.nextOperatorIf accepts)).1 = .ok (.operator (some op))) ↔
          ∃ t, s.pending = .token t :: (s.perform (.nextOperatorIf accepts)).2.pending := by
  intro s
  have hstart : (ofSource source).view = .ofSource source := rfl
  have hs : s.view = after TokenStream.perform (.ofSource source) calls := by
    rw [← hstart, isView.after_view]
  refine ⟨?_, ⟨?_, hs⟩, ?_, ?_⟩
  · have hitems := TokenStream.deliveries_append_items (.ofSource source) calls
    rw [← hs, ← hstart, isView.deliveries_view] at hitems
    rw [List.append_assoc]
    exact hitems
  · rw [← hstart, isView.replies_view]
  · intro t hseen more call hconsumes
    have hview := isView .peek s
    obtain ⟨rest, hnext⟩ : ∃ rest, (s.perform .peek).2.view.items = .token t :: rest := by
      have h := TokenStream.exists_items_of_peek (s := s.view) (t := t) (by rw [hview]; exact hseen)
      rwa [hview] at h
    rw [← isView.consumes_view, ← isView.after_view] at hconsumes
    rw [← isView.deliveries_view]
    exact TokenStream.head?_deliveries more hnext hconsumes
  · intro accepts
    have h := TokenStream.nextOperatorIf_iff accepts s.view
    rw [isView] at h
    exact h

/-- A look fails at an unknown escape, and the next one shows the number behind it, which is then
taken. -/
theorem deliveries_append_pending_escape :
    let s := after perform (ofSource "\x22\\q 1 +") [.peek]
    let seen : PlacedToken := { token := { kind := .number, text := "1" }, position := 4 }
    (s.perform .peek).1 = .ok (.token (some seen)) ∧
      (deliveries perform (s.perform .peek).2 ([.descend 1] ++ [.nextRequired])).head? =
        some (.token seen) := by
  intro s seen
  obtain ⟨-, ⟨-, hview⟩, htaken, -⟩ := deliveries_append_pending "\x22\\q 1 +" [.peek]
  have hitems : Lexer.items "\x22\\q 1 +" = [.error (.unrecognizedEscape 'q' 1), .token seen,
      .token { token := { kind := .symbol, text := "+" }, position := 6 }] :=
    (calls_itemsFrom 0 _).unique (.item rfl (.item rfl (.item rfl (.finish rfl))))
  have hseen : (s.perform .peek).1 = .ok (.token (some seen)) := by
    rw [← congrArg Prod.fst (isView .peek s), hview, TokenStream.ofSource, hitems]
    rfl
  exact ⟨hseen, htaken seen hseen [.descend 1] .nextRequired trivial⟩

end Lookahead

end Formula
