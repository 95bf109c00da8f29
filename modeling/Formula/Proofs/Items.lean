import Formula.Proofs.Grammar
import Formula.Proofs.Parser.Steps

/-!
# Tokens in front of a list of items

`Takes items tokens rest` says that the items begin with the given tokens and go on with `rest`;
where the tokens stand in the text is forgotten.  It is how a statement about a parser, which works
on items that have positions and may be errors, meets the grammar, which is about tokens alone.

The second part says what the steps over items do in these terms: `Items.operator?` and
`Items.expect` succeed exactly if the token they look for comes next.  The third says that a whole
list of items is tokens only exactly if no item is an error.
-/

set_option autoImplicit false

namespace Formula

/-- The items `items` are the tokens `tokens`, followed by the items `rest`. -/
inductive Takes : List Item → List Token → List Item → Prop
  | nil (items : List Item) : Takes items [] items
  | cons {items rest : List Item} {tokens : List Token} (t : PlacedToken)
      (h : Takes items tokens rest) : Takes (.token t :: items) (t.token :: tokens) rest

namespace Takes

variable {items mid rest : List Item} {front back tokens : List Token}

theorem single (t : PlacedToken) (rest : List Item) : Takes (.token t :: rest) [t.token] rest :=
  .cons t (.nil rest)

theorem eq_of_nil (h : Takes items [] rest) : items = rest := by
  cases h
  rfl

theorem exists_of_cons {first : Token} (h : Takes items (first :: tokens) rest) :
    ∃ position items', items = .token { token := first, position } :: items' ∧
      Takes items' tokens rest := by
  generalize hall : first :: tokens = all at h
  cases h with
  | nil => cases hall
  | cons t h =>
    cases hall
    exact ⟨t.position, _, rfl, h⟩

theorem uncons {first : Token} (h : Takes items (first :: tokens) rest) :
    ∃ mid, Takes items [first] mid ∧ Takes mid tokens rest := by
  obtain ⟨position, items', rfl, htail⟩ := h.exists_of_cons
  exact ⟨items', .single _ items', htail⟩

theorem trans (h : Takes items front mid) (h' : Takes mid back rest) :
    Takes items (front ++ back) rest := by
  induction h with
  | nil => exact h'
  | cons t _ ih => exact .cons t (ih h')

theorem exists_of_append (h : Takes items (front ++ back) rest) :
    ∃ mid, Takes items front mid ∧ Takes mid back rest := by
  induction front generalizing items with
  | nil => exact ⟨items, .nil items, h⟩
  | cons t front ih =>
    obtain ⟨position, items', rfl, htail⟩ := h.exists_of_cons
    obtain ⟨mid, hmid, hrest⟩ := ih htail
    exact ⟨mid, .cons _ hmid, hrest⟩

theorem exists_mem {t : Token} (h : Takes items tokens rest) (ht : t ∈ tokens) :
    ∃ placed : PlacedToken, .token placed ∈ items ∧ placed.token = t := by
  induction h with
  | nil => cases ht
  | cons placed _ ih =>
    rcases List.mem_cons.1 ht with rfl | ht
    · exact ⟨placed, List.mem_cons_self, rfl⟩
    · obtain ⟨placed, hplaced, heq⟩ := ih ht
      exact ⟨placed, List.mem_cons_of_mem _ hplaced, heq⟩

theorem of_placed (placed : List PlacedToken) (rest : List Item) :
    Takes (placed.map .token ++ rest) (placed.map (·.token)) rest := by
  induction placed with
  | nil => exact .nil rest
  | cons t placed ih => exact .cons t ih

/-- Tokens that are taken stand somewhere. -/
theorem exists_placed (h : Takes items tokens rest) :
    ∃ placed : List PlacedToken, items = placed.map .token ++ rest ∧
      placed.map (·.token) = tokens := by
  induction h with
  | nil items => exact ⟨[], rfl, rfl⟩
  | cons t _ ih =>
    obtain ⟨placed, rfl, rfl⟩ := ih
    exact ⟨t :: placed, rfl, rfl⟩

end Takes

/-! ## The steps over items -/

namespace Items

/-- An operator is taken exactly if its symbol comes next and it is one of those asked for. -/
theorem operator?_eq_some_iff {accepts : BinaryOp → Bool} {depth : Nat} {items rest : List Item}
    {op : BinaryOp} :
    operator? accepts depth items = .done (some op) rest ↔
      accepts op = true ∧ Takes items [.symbol op.symbol] rest := by
  constructor
  · intro h
    unfold operator? at h
    split at h
    · cases h
    · cases h
    · rename_i t tail
      split at h
      · rename_i found hfound
        cases h
        obtain ⟨hop, haccepts⟩ := Option.filter_eq_some_iff.1 hfound
        exact ⟨haccepts, Token.eq_symbol_of_operator? hop ▸ .single t rest⟩
      · cases h
  · rintro ⟨haccepts, h⟩
    obtain ⟨position, items', rfl, htail⟩ := h.exists_of_cons
    rw [htail.eq_of_nil, operator?, Token.operator?_symbol, Option.filter_some, if_pos haccepts]

/-- Where no operator is taken, nothing is. -/
theorem eq_of_operator?_eq_none {accepts : BinaryOp → Bool} {depth : Nat} {items rest : List Item}
    (h : operator? accepts depth items = .done none rest) : rest = items := by
  unfold operator? at h
  split at h
  · cases h
    rfl
  · cases h
  · split at h
    · cases h
    · cases h
      rfl

/-- A symbol is taken exactly if it comes next. -/
theorem expect_eq_done_iff {symbol : String} {bounds : Bounds} {depth : Nat}
    {items rest : List Item} {u : Unit} :
    expect symbol bounds depth items = .done u rest ↔ Takes items [.symbol symbol] rest := by
  constructor
  · intro h
    unfold expect at h
    split at h
    · cases h
    · cases h
    · rename_i t tail
      split at h
      · rename_i hsymbol
        cases h
        exact Token.eq_symbol_of_isSymbol hsymbol ▸ .single t rest
      · cases h
  · intro h
    obtain ⟨position, items', rfl, htail⟩ := h.exists_of_cons
    rw [htail.eq_of_nil, expect, Token.isSymbol_symbol, if_pos rfl]

end Items

/-! ## Items without an error -/

/-- There is no error among the items exactly if they are the tokens that are found. -/
theorem Lexer.tokens_eq_ok_iff {items : List Item} {placed : List PlacedToken} :
    Lexer.tokens items = .ok placed ↔ items = placed.map .token := by
  induction items generalizing placed with
  | nil => cases placed <;> simp [Lexer.tokens]
  | cons item items ih =>
    cases item with
    | error e => cases placed <;> simp [Lexer.tokens]
    | token t =>
      constructor
      · intro h
        rw [Lexer.tokens] at h
        split at h
        · rename_i tail htail
          cases h
          rw [ih.1 htail, List.map_cons]
        · cases h
      · intro h
        cases placed with
        | nil => cases h
        | cons t' tail =>
          obtain ⟨rfl, hitems⟩ : t = t' ∧ items = tail.map .token := by simpa using h
          rw [Lexer.tokens, ih.2 hitems]

/-- A list of items is the tokens that it holds exactly if there is no error in it. -/
theorem Lexer.takes_iff_tokens {items : List Item} {tokens : List Token} :
    Takes items tokens [] ↔
      ∃ placed, Lexer.tokens items = .ok placed ∧ placed.map (·.token) = tokens := by
  constructor
  · intro h
    obtain ⟨placed, hitems, htokens⟩ := h.exists_placed
    rw [List.append_nil] at hitems
    exact ⟨placed, tokens_eq_ok_iff.2 hitems, htokens⟩
  · rintro ⟨placed, hplaced, rfl⟩
    have htakes := Takes.of_placed placed []
    rwa [List.append_nil, ← tokens_eq_ok_iff.1 hplaced] at htakes

/-- A whole list of items is one list of tokens only. -/
theorem Takes.unique {items : List Item} {tokens tokens' : List Token} (h : Takes items tokens [])
    (h' : Takes items tokens' []) : tokens = tokens' := by
  obtain ⟨placed, hplaced, rfl⟩ := Lexer.takes_iff_tokens.1 h
  obtain ⟨placed', hplaced', rfl⟩ := Lexer.takes_iff_tokens.1 h'
  rw [hplaced] at hplaced'
  cases hplaced'
  rfl

end Formula
