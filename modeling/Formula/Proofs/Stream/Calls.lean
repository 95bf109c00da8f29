import Formula.Expr.Stream

/-!
# Calls on a stream

A `Call` is what can be asked of a stream of tokens.  Calls are made one after another, in any
order, and some of them take something from the stream: a token, or a lexical error that is reported
by failing.  `Call.deliveries` is all that a list of calls has taken.

Taking is read off the answers, so that it means the same for every kind of stream: everything up to
`TokenStream.perform` is about streams of which only the answers to calls are known.  For the
streams that hold their remaining items it is shown that nothing is lost and nothing comes twice:
what has been taken goes on with what remains, `TokenStream.deliveries_append_items`.  The step of
this is one call, `TokenStream.delivered_append_items`.
-/

set_option autoImplicit false

namespace Formula

/-- What can be asked of a stream. -/
inductive Call where
  | peek
  | next
  | nextRequired
  | nextOperatorIf (accepts : BinaryOp → Bool)
  | expectSymbol (symbol : String)
  | descend (cost : Nat)
  | ascend (cost : Nat)

/-- What a call answers, unless it fails. -/
inductive Answer where
  | token (t : Option PlacedToken)
  | operator (op : Option BinaryOp)
  | done
  deriving DecidableEq, Repr

namespace Call

/-! ## One call after another -/

section Runs

variable {σ : Type} (perform : Call → σ → Except ParseError Answer × σ)

/-- The stream behind some calls. -/
def after (s : σ) : List Call → σ
  | [] => s
  | call :: calls => after (perform call s).2 calls

/-- What some calls answer. -/
def replies (s : σ) : List Call → List (Except ParseError Answer)
  | [] => []
  | call :: calls => (perform call s).1 :: replies (perform call s).2 calls

/-- The token that would be seen next. -/
def shown (s : σ) : List Item :=
  match (perform .peek s).1 with
  | .ok (.token (some t)) => [.token t]
  | _ => []

/-- What one call takes from a stream.  A lexical error is taken by the call that fails with it.
Two calls answer with the token that they take.  An operator, and a symbol that was expected, is
the token that was seen next; if another token was expected, it is taken all the same. -/
def delivered (call : Call) (s : σ) : List Item :=
  match call, (perform call s).1 with
  | _, .error (.lexical e) => [.error e]
  | next, .ok (.token (some t)) | nextRequired, .ok (.token (some t)) => [.token t]
  | nextOperatorIf _, .ok (.operator (some _)) | expectSymbol _, .ok .done
  | expectSymbol _, .error (.expectedToken ..) => shown perform s
  | _, _ => []

/-- What some calls take from a stream, in this order. -/
def deliveries (s : σ) : List Call → List Item
  | [] => []
  | call :: calls => delivered perform call s ++ deliveries (perform call s).2 calls

/-- Whether a call takes a token, if there is one. -/
def Consumes (call : Call) (s : σ) : Prop :=
  match call with
  | next | nextRequired | expectSymbol _ => True
  | nextOperatorIf _ => ∃ op, (perform call s).1 = .ok (.operator (some op))
  | peek | descend _ | ascend _ => False

theorem deliveries_append (s : σ) (calls more : List Call) :
    deliveries perform s (calls ++ more) =
      deliveries perform s calls ++ deliveries perform (after perform s calls) more := by
  induction calls generalizing s with
  | nil => rfl
  | cons call calls ih =>
    rw [List.cons_append, deliveries, ih, deliveries, after, List.append_assoc]

end Runs

/-! ## Two kinds of streams -/

section Views

variable {σ τ : Type} {perform : Call → σ → Except ParseError Answer × σ}
  {perform' : Call → τ → Except ParseError Answer × τ} {view : σ → τ}

/-- A view of a stream as one of another kind: each call answers the same and leads to the same. -/
def IsView (perform : Call → σ → Except ParseError Answer × σ)
    (perform' : Call → τ → Except ParseError Answer × τ) (view : σ → τ) : Prop :=
  ∀ call s, perform' call (view s) = ((perform call s).1, view (perform call s).2)

namespace IsView

variable (h : IsView perform perform' view)

include h

theorem after_view (s : σ) (calls : List Call) :
    after perform' (view s) calls = view (after perform s calls) := by
  induction calls generalizing s with
  | nil => rfl
  | cons call calls ih => rw [after, h, ih, after]

theorem replies_view (s : σ) (calls : List Call) :
    replies perform' (view s) calls = replies perform s calls := by
  induction calls generalizing s with
  | nil => rfl
  | cons call calls ih => rw [replies, h, ih, replies]

theorem delivered_view (call : Call) (s : σ) :
    delivered perform' call (view s) = delivered perform call s := by
  simp only [delivered, shown, h _ s]

theorem deliveries_view (s : σ) (calls : List Call) :
    deliveries perform' (view s) calls = deliveries perform s calls := by
  induction calls generalizing s with
  | nil => rfl
  | cons call calls ih => rw [deliveries, h.delivered_view, h, ih, deliveries]

theorem consumes_view (call : Call) (s : σ) :
    Consumes perform' call (view s) ↔ Consumes perform call s := by
  cases call <;> simp only [Consumes, h _ s]

end IsView

end Views

end Call

/-! ## Streams that hold their items -/

namespace TokenStream

open Call

variable {s : TokenStream} {t : PlacedToken} {rest : List Item}

/-- A call on a stream. -/
def perform : Call → TokenStream → Except ParseError Answer × TokenStream
  | .peek, s => s.peek.map (.map .token) id
  | .next, s => s.next.map (.map .token) id
  | .nextRequired, s => s.nextRequired.map (.map fun t ↦ .token (some t)) id
  | .nextOperatorIf accepts, s => (s.nextOperatorIf accepts).map (.map .operator) id
  | .expectSymbol symbol, s => (s.expectSymbol symbol).map (.map fun _ ↦ .done) id
  | .descend cost, s => (s.descend cost).map (.map fun _ ↦ .done) id
  | .ascend cost, s => (.ok .done, s.ascend cost)

/-- **One call neither loses nor repeats an item.** -/
theorem delivered_append_items (call : Call) (s : TokenStream) :
    delivered perform call s ++ (s.perform call).2.items = s.items := by
  obtain ⟨items, stop, depth⟩ := s
  cases call with
  | peek | next | nextRequired => rcases items with _ | ⟨_ | _, _⟩ <;> rfl
  | nextOperatorIf accepts =>
    rcases items with _ | ⟨t | e, rest⟩
    · rfl
    · cases hop : t.token.operator?.filter accepts with
      | none | some op =>
        simp [delivered, perform, nextOperatorIf, next, hop, shown, peek, Except.map]
    · rfl
  | expectSymbol symbol =>
    rcases items with _ | ⟨t | e, rest⟩
    · rfl
    · by_cases hsymbol : t.token.isSymbol symbol = true <;>
        simp [delivered, perform, expectSymbol, nextRequired, next, hsymbol, shown, peek,
          Except.map]
    · rfl
  | descend cost =>
    simp only [delivered, perform]
    rw [descend]
    by_cases hfits : (spend cost { items, stop, depth }).depth.toNat ≤ maxDepth
    · rw [if_pos hfits]
      rfl
    · rw [if_neg hfits]
      rcases items with _ | ⟨_ | _, _⟩ <;> rfl
  | ascend cost => rfl

/-- **No calls lose or repeat an item**: what they have taken goes on with what remains. -/
theorem deliveries_append_items (s : TokenStream) (calls : List Call) :
    deliveries perform s calls ++ (after perform s calls).items = s.items := by
  induction calls generalizing s with
  | nil => rfl
  | cons call calls ih =>
    rw [deliveries, after, List.append_assoc, ih, delivered_append_items]

/-! ## Looking and taking -/

/-- What a look shows is the next item, which remains. -/
theorem exists_items_of_peek (h : (s.perform .peek).1 = .ok (.token (some t))) :
    ∃ rest, (s.perform .peek).2.items = .token t :: rest := by
  obtain ⟨items, stop, depth⟩ := s
  match items with
  | [] | .error _ :: _ => cases h
  | .token t :: rest =>
    cases h
    exact ⟨rest, rfl⟩

theorem delivered_of_consumes {call : Call} (hs : s.items = .token t :: rest)
    (h : Consumes perform call s) : delivered perform call s = [.token t] := by
  obtain ⟨items, stop, depth⟩ := s
  obtain rfl : items = .token t :: rest := hs
  cases call with
  | next | nextRequired => rfl
  | nextOperatorIf accepts =>
    obtain ⟨op, h⟩ := h
    simp only [delivered, h]
    rfl
  | expectSymbol symbol =>
    by_cases hsymbol : t.token.isSymbol symbol = true <;>
      simp [delivered, perform, expectSymbol, nextRequired, next, hsymbol, shown, peek,
        Except.map]
  | peek | descend | ascend => cases h

/-- A token that was seen is what the next call that takes a token delivers. -/
theorem head?_deliveries {call : Call} (more : List Call) (hs : s.items = .token t :: rest)
    (h : Consumes perform call (after perform s more)) :
    (deliveries perform s (more ++ [call])).head? = some (.token t) := by
  have hmore := deliveries_append_items s more
  rw [hs] at hmore
  rw [deliveries_append]
  cases htaken : deliveries perform s more with
  | nil =>
    rw [htaken] at hmore
    rw [deliveries, delivered_of_consumes hmore h]
    rfl
  | cons item taken =>
    rw [htaken] at hmore
    cases hmore
    rfl

/-- A token is taken for an operator exactly if the answer is an operator. -/
theorem nextOperatorIf_iff (accepts : BinaryOp → Bool) (s : TokenStream) :
    (∃ op, (s.perform (.nextOperatorIf accepts)).1 = .ok (.operator (some op))) ↔
      ∃ t, s.items = .token t :: (s.perform (.nextOperatorIf accepts)).2.items := by
  obtain ⟨items, stop, depth⟩ := s
  match items with
  | [] | .error _ :: _ => constructor <;> rintro ⟨_, ⟨⟩⟩
  | .token t :: rest =>
    cases hop : t.token.operator?.filter accepts with
    | none | some op =>
      simp [perform, nextOperatorIf, peek, next, hop, Except.map]

end TokenStream

end Formula
