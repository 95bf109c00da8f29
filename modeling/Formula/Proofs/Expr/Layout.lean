import Formula.Proofs.Parser.Relocation

/-!
# Layout is insignificant

What stands between the tokens of a text has no say in what the text means.  Two texts with the same
tokens are the same expression, or are none for the same reason and at the same token
(`parsesAlike_of_tokens_eq`); and blanks can be put between tokens without changing them
(`tokens_insert_blanks`).

Two texts with the same tokens need not have anything to do with each other's positions.  So each is
compared with a third list of items, `numbered`, where a token stands at its number.  The items of
the text are these, with positions moved by `placeAt`, and the parser comes to the same with that,
`Parser.parseAll_relocate`.
-/

set_option autoImplicit false

namespace Formula

open Lexer Text

/-! ## Numbers in place of positions -/

/-- The tokens, each at its own number. -/
def numbered (tokens : List Token) : List Item :=
  tokens.zipIdx.map fun (token, position) ↦ .token { token, position }

/-- Where the token with a number stands, or else the end. -/
def placeAt (placed : List PlacedToken) (stop number : Nat) : Nat :=
  placed[number]?.elim stop PlacedToken.position

theorem placeAt_length (placed : List PlacedToken) (stop : Nat) :
    placeAt placed stop placed.length = stop := by
  rw [placeAt, List.getElem?_eq_none (Nat.le_refl _), Option.elim_none]

theorem numbered_relocate (placed : List PlacedToken) (stop : Nat) :
    (numbered (placed.map (·.token))).map (Item.relocate (placeAt placed stop)) =
      placed.map Item.token := by
  refine List.ext_getElem? fun i ↦ ?_
  cases hi : placed[i]? with
  | none | some t =>
    simp [numbered, List.getElem?_zipIdx, hi, Item.relocate, PlacedToken.relocate, placeAt]

namespace Expr

/-- A text comes to what its numbered tokens do, with positions in place of numbers. -/
theorem parse_eq_numbered {source : String} {placed : List PlacedToken}
    (h : Lexer.tokens (Lexer.items source) = .ok placed) :
    Expr.parse source =
      (Parser.parseAll placed.length (numbered (placed.map (·.token)))).mapError
        (.relocate (placeAt placed (byteLength source.toList))) := by
  rw [← Parser.parseAll_relocate, placeAt_length, numbered_relocate, ← tokens_eq_ok_iff.1 h,
    Parser.parseAll_items]

/-! ## The same tokens -/

/-- Whether two texts with the given tokens are the same expression, or are none for the same
reason: the errors differ in their positions only, which are those of tokens with the same number,
or of the ends of the texts. -/
def ParsesAlike (source source' : String) (placed placed' : List PlacedToken) : Prop :=
  (∃ e, Expr.parse source = .ok e ∧ Expr.parse source' = .ok e) ∨
    ∃ error error', Expr.parse source = .error error ∧ Expr.parse source' = .error error' ∧
      error' = error.moveTo error'.position ∧
      ((∃ (i : Nat) (t t' : PlacedToken), placed[i]? = some t ∧ placed'[i]? = some t' ∧
          error.position = t.position ∧ error'.position = t'.position) ∨
        error.position = byteLength source.toList ∧ error'.position = byteLength source'.toList)

/-- Texts with the same tokens parse alike. -/
theorem parsesAlike_of_tokens_eq {source source' : String} {placed placed' : List PlacedToken}
    (h : Lexer.tokens (Lexer.items source) = .ok placed)
    (h' : Lexer.tokens (Lexer.items source') = .ok placed')
    (hsame : placed.map (·.token) = placed'.map (·.token)) :
    ParsesAlike source source' placed placed' := by
  have hlength : placed.length = placed'.length := by simpa using congrArg List.length hsame
  have hparse := parse_eq_numbered h
  have hparse' := parse_eq_numbered h'
  rw [← hsame, ← hlength] at hparse'
  cases hall : Parser.parseAll placed.length (numbered (placed.map (·.token))) with
  | ok e =>
    rw [hall] at hparse hparse'
    exact .inl ⟨e, hparse, hparse'⟩
  | error error =>
    rw [hall] at hparse hparse'
    refine .inr ⟨_, _, hparse, hparse', ?_, ?_⟩
    · simp only [ParseError.relocate, ParseError.position_moveTo, ParseError.moveTo_moveTo]
    · simp only [ParseError.relocate, ParseError.position_moveTo, placeAt]
      rcases Nat.lt_or_ge error.position placed.length with hlt | hge
      · rw [List.getElem?_eq_getElem hlt, List.getElem?_eq_getElem (hlength ▸ hlt)]
        exact .inl ⟨error.position, _, _, List.getElem?_eq_getElem hlt,
          List.getElem?_eq_getElem (hlength ▸ hlt), rfl, rfl⟩
      · rw [List.getElem?_eq_none hge, List.getElem?_eq_none (hlength ▸ hge)]
        exact .inr ⟨rfl, rfl⟩

/-! ## Other blanks -/

/-- Blanks between the tokens of a text leave the tokens as they are and move those behind. -/
theorem tokens_insert_blanks {front blanks back : String} {placed : List PlacedToken}
    (h : Lexer.tokens (Lexer.items (front ++ back)) = .ok placed)
    (hbetween : Between (.ofSource (front ++ back)) front.toList back.toList)
    (hblanks : ∀ c ∈ blanks.toList, isBlank c = true) :
    Lexer.tokens (Lexer.items (front ++ blanks ++ back)) = .ok (placed.map
      (.relocate (shiftFrom (byteLength front.toList) (byteLength blanks.toList)))) := by
  rw [tokens_eq_ok_iff] at h ⊢
  have hitems : (Cursor.ofSource (front ++ back)).items = placed.map .token := h
  have hinsert := hbetween.items_insert (by simp [hitems]) hblanks
  rw [hitems, show (Cursor.ofSource (front ++ back)).position = 0 from rfl, Nat.zero_add,
    ← String.toList_append, ← String.toList_append] at hinsert
  rw [Lexer.items, hinsert, List.map_map, List.map_map]
  rfl

/-- **Layout is insignificant.**  Two texts in which the same tokens stand in the same order, and no
errors, are the same expression, or are none for the same reason: at the token with the same number,
or at the end of both.  And where blanks are put between the tokens of a text without errors, the
tokens stay the same, and those behind the blanks move by their length in bytes. -/
theorem layout_insignificant :
    (∀ source source' placed placed', Lexer.tokens (Lexer.items source) = .ok placed →
      Lexer.tokens (Lexer.items source') = .ok placed' →
      placed.map (·.token) = placed'.map (·.token) →
      ParsesAlike source source' placed placed') ∧
    ∀ front blanks back placed, Lexer.tokens (Lexer.items (front ++ back)) = .ok placed →
      Between (.ofSource (front ++ back)) front.toList back.toList →
      (∀ c ∈ blanks.toList, isBlank c = true) →
      Lexer.tokens (Lexer.items (front ++ blanks ++ back)) = .ok (placed.map
        (.relocate (shiftFrom (byteLength front.toList) (byteLength blanks.toList)))) :=
  ⟨fun _ _ _ _ ↦ parsesAlike_of_tokens_eq, fun _ _ _ _ ↦ tokens_insert_blanks⟩

/-- A text that is no expression, with and without a blank behind its first token. -/
theorem layout_insignificant_paren :
    ∃ placed, Lexer.tokens (Lexer.items ("1" ++ "+)")) = .ok placed ∧
      Lexer.tokens (Lexer.items ("1" ++ " " ++ "+)")) = .ok (placed.map
        (.relocate (shiftFrom 1 1))) ∧
      ParsesAlike ("1" ++ "+)") ("1" ++ " " ++ "+)") placed
        (placed.map (.relocate (shiftFrom 1 1))) := by
  obtain ⟨halike, hinsert⟩ := layout_insignificant
  have hitems : Lexer.items ("1" ++ "+)") =
      [.token ⟨.number "1", 0⟩, .token ⟨.symbol "+", 1⟩, .token ⟨.symbol ")", 2⟩] :=
    (calls_itemsFrom 0 _).unique (.item rfl (.item rfl (.item rfl (.finish rfl))))
  have hplaced : Lexer.tokens (Lexer.items ("1" ++ "+)")) =
      .ok [⟨.number "1", 0⟩, ⟨.symbol "+", 1⟩, ⟨.symbol ")", 2⟩] := by
    rw [hitems]
    rfl
  have hnext : next? (.ofSource ("1" ++ "+)")) =
      some (.token ⟨.number "1", 0⟩, { position := 1, text := ['+', ')'] }) := by rfl
  have hhere : Between { position := 1, text := ['+', ')'] } [] ['+', ')'] := .gap rfl (by simp)
  have hbetween : Between (.ofSource ("1" ++ "+)")) ['1'] ['+', ')'] :=
    .behind hnext (show _ = ['1'] ++ ['+', ')'] from rfl) hhere
  have hblank : ∀ c ∈ " ".toList, isBlank c = true := by
    intro c hc
    obtain rfl : c = ' ' := by simpa using hc
    decide
  have hmoved := hinsert "1" " " "+)" _ hplaced hbetween hblank
  exact ⟨_, hplaced, hmoved, halike _ _ _ _ hplaced hmoved rfl⟩

end Expr

end Formula
