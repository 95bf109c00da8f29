import Formula.Expr.Error
import Formula.Token.Lexer

/-!
# Streams of tokens

A `TokenStream` is what remains of the items of a source text, together with the nesting that is in
use.  Reading stops at an item: a token that is only looked at stays where it is, while a lexical
error is reported once and then passed.

Nesting is bounded: `TokenStream.descend` spends from a budget of `maxDepth` and fails when more is
in use, which it reports at the next token.  What a failed descent has spent stays spent.  The count
is a machine word.  Giving back stops at zero, but nothing keeps a descent from wrapping around.

No call leaves more items than there were, and one that takes a token leaves less, which is why a
parser comes to an end.
-/

set_option autoImplicit false

namespace Formula

/-- The most nesting that may be in use. -/
def maxDepth : Nat := 256

/-- The nesting that a group takes. -/
def groupCost : Nat := 4

/-- What remains of a source text: its items, the length of the whole text in bytes, and the nesting
in use. -/
structure TokenStream where
  items : List Item
  stop : Nat
  depth : UInt64
  deriving DecidableEq, Repr

namespace TokenStream

/-- The stream of a whole source text. -/
def ofSource (source : String) : TokenStream where
  items := Lexer.items source
  stop := Text.byteLength source.toList
  depth := 0

/-! ## Calls -/

/-- The next token, without taking it. -/
def peek (s : TokenStream) : Except ParseError (Option PlacedToken) × TokenStream :=
  match s.items with
  | [] => (.ok none, s)
  | .error e :: rest => (.error (.lexical e), { s with items := rest })
  | .token t :: _ => (.ok (some t), s)

/-- Takes the next token. -/
def next (s : TokenStream) : Except ParseError (Option PlacedToken) × TokenStream :=
  match s.items with
  | [] => (.ok none, s)
  | .error e :: rest => (.error (.lexical e), { s with items := rest })
  | .token t :: rest => (.ok (some t), { s with items := rest })

/-- The error for a token that is missing at the end. -/
def endOfInput (s : TokenStream) : ParseError := .unexpectedEnd s.stop

/-- Takes the next token, of which there has to be one. -/
def nextRequired (s : TokenStream) : Except ParseError PlacedToken × TokenStream :=
  match s.next with
  | (.ok (some t), s) => (.ok t, s)
  | (.ok none, s) => (.error s.endOfInput, s)
  | (.error e, s) => (.error e, s)

/-- Takes a symbol that has to come next. -/
def expectSymbol (symbol : String) (s : TokenStream) : Except ParseError Unit × TokenStream :=
  match s.nextRequired with
  | (.ok t, s) =>
    if t.token.isSymbol symbol then (.ok (), s)
    else (.error (.expectedToken symbol t.token.text t.position), s)
  | (.error e, s) => (.error e, s)

/-- Looks at the next token, and takes it if it is a binary operator that `accepts` holds of. -/
def nextOperatorIf (accepts : BinaryOp → Bool) (s : TokenStream) :
    Except ParseError (Option BinaryOp) × TokenStream :=
  match s.peek with
  | (.ok (some t), s) =>
    match t.token.operator?.filter accepts with
    | some op =>
      match s.next with
      | (.ok _, s) => (.ok (some op), s)
      | (.error e, s) => (.error e, s)
    | none => (.ok none, s)
  | (.ok none, s) => (.ok none, s)
  | (.error e, s) => (.error e, s)

/-- The stream with more nesting in use, a count that wraps around. -/
def spend (cost : Nat) (s : TokenStream) : TokenStream :=
  { s with depth := s.depth + .ofNat cost }

/-- Spends nesting; fails at the next token if more than the budget is then in use. -/
def descend (cost : Nat) (s : TokenStream) : Except ParseError Unit × TokenStream :=
  if (s.spend cost).depth.toNat ≤ maxDepth then (.ok (), s.spend cost)
  else
    match (s.spend cost).peek with
    | (.ok (some t), s) => (.error (.nestingTooDeep t.position), s)
    | (.ok none, s) => (.error (.nestingTooDeep s.stop), s)
    | (.error e, s) => (.error e, s)

/-- Gives nesting back, as far as any is in use. -/
def ascend (cost : Nat) (s : TokenStream) : TokenStream :=
  { s with depth := .ofNat (s.depth.toNat - cost) }

/-! ## How much remains -/

variable (s : TokenStream)

theorem length_peek : s.peek.2.items.length ≤ s.items.length := by
  obtain ⟨_ | ⟨_ | _, rest⟩, stop, depth⟩ := s <;> simp [peek]

theorem length_next : s.next.2.items.length ≤ s.items.length := by
  obtain ⟨_ | ⟨_ | _, rest⟩, stop, depth⟩ := s <;> simp [next]

theorem length_nextRequired : s.nextRequired.2.items.length ≤ s.items.length := by
  obtain ⟨_ | ⟨_ | _, rest⟩, stop, depth⟩ := s <;> simp [nextRequired, next]

theorem length_expectSymbol (symbol : String) :
    (s.expectSymbol symbol).2.items.length ≤ s.items.length := by
  have h := s.length_nextRequired
  rw [expectSymbol]
  generalize s.nextRequired = found at h ⊢
  obtain ⟨_ | t, s'⟩ := found
  · exact h
  · simp only
    split <;> exact h

theorem length_nextOperatorIf (accepts : BinaryOp → Bool) :
    (s.nextOperatorIf accepts).2.items.length ≤ s.items.length := by
  obtain ⟨_ | ⟨t | e, rest⟩, stop, depth⟩ := s
  · simp [nextOperatorIf, peek]
  · cases h : t.token.operator?.filter accepts <;> simp [nextOperatorIf, peek, next, h]
  · simp [nextOperatorIf, peek]

theorem length_descend (cost : Nat) : (s.descend cost).2.items.length ≤ s.items.length := by
  have h := (s.spend cost).length_peek
  rw [descend]
  split
  · exact Nat.le_refl _
  · generalize (s.spend cost).peek = found at h ⊢
    obtain ⟨_ | _ | _, s'⟩ := found <;> exact h

variable {s} {s' s'' : TokenStream} {t : PlacedToken}

/-- A token that was looked at is there to be taken. -/
theorem length_lt_of_peek {found : Option PlacedToken} (h : s.peek = (.ok (some t), s'))
    (h' : s'.next = (.ok found, s'')) : s''.items.length < s.items.length := by
  obtain ⟨_ | ⟨_ | _, rest⟩, stop, depth⟩ := s <;> cases h
  cases h'
  exact Nat.lt_succ_self _

theorem length_lt_of_nextRequired (h : s.nextRequired = (.ok t, s')) :
    s'.items.length < s.items.length := by
  obtain ⟨_ | ⟨_ | _, rest⟩, stop, depth⟩ := s <;> cases h
  exact Nat.lt_succ_self _

theorem length_lt_of_nextOperatorIf {accepts : BinaryOp → Bool} {op : BinaryOp}
    (h : s.nextOperatorIf accepts = (.ok (some op), s')) : s'.items.length < s.items.length := by
  obtain ⟨_ | ⟨t | e, rest⟩, stop, depth⟩ := s
  · cases h
  · cases hop : t.token.operator?.filter accepts with
    | none => simp [nextOperatorIf, peek, hop] at h
    | some op =>
      simp only [nextOperatorIf, peek, next, hop] at h
      cases h
      exact Nat.lt_succ_self _
  · cases h

end TokenStream

end Formula
