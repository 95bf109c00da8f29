import Formula.Proofs.Token.Partition

/-!
# What stands where an item is placed

Positions are put together from three numbers: where the lexer is, where in the piece an item is
placed, and for an unknown escape how long the string is in front of it.  All of them count bytes,
and the text they point into is one of characters.  Here the two are brought together.

* `Text.StandsAt` — some characters stand in a text where those in front of them take a number of
  bytes.
* `Item.written` — the characters that an item points at: the text of a token, the quote of a
  string, the backslash and the letter of an escape.
* `Item.Marks` — an item is placed where they stand, and an escape that it reports is none.

One scan marks its text (`marks_scan`), so does a call, and so do all calls one behind the other
(`Calls.marks`).
-/

set_option autoImplicit false

namespace Formula

open Text

/-! ## Places in a text -/

/-- The characters `piece` stand in a text behind `position` bytes. -/
def Text.StandsAt (text : List Char) (position : Nat) (piece : List Char) : Prop :=
  ∃ front back, text = front ++ piece ++ back ∧ byteLength front = position

namespace Text.StandsAt

variable {text piece : List Char} {position : Nat}

/-- What a text begins with. -/
theorem head (piece back : List Char) : StandsAt (piece ++ back) 0 piece := ⟨[], back, rfl, rfl⟩

theorem behind (front : List Char) (h : StandsAt text position piece) :
    StandsAt (front ++ text) (byteLength front + position) piece := by
  obtain ⟨before, after, rfl, rfl⟩ := h
  exact ⟨front ++ before, after, by simp, byteLength_append ..⟩

/-- A place in a text is not beyond its end. -/
theorem le (h : StandsAt text position piece) : position ≤ byteLength text := by
  obtain ⟨front, back, rfl, rfl⟩ := h
  simp only [byteLength_append]
  omega

/-- Something stands in a source only between characters. -/
theorem isValid {source : String} (h : StandsAt source.toList position piece) :
    (String.Pos.Raw.mk position).IsValid source := by
  obtain ⟨front, back, htext, rfl⟩ := h
  exact Lexer.isValid_byteLength (htext.trans (List.append_assoc ..))

end Text.StandsAt

/-! ## Escapes -/

/-- The letters that make an escape are eleven. -/
theorem Quoted.unescape?_eq_none_iff {letter : Char} : unescape? letter = none ↔
    letter ∉ ['\x27', '\x22', '\\', '0', 'a', 'b', 'f', 'n', 'r', 't', 'v'] := by
  unfold unescape?
  split <;> simp_all

/-- An escape at which a string ends makes no character. -/
theorem Quoted.unescape?_of_ending {input : List Char} {letter : Char}
    (h : (scan input).ending = .unknownEscape letter) : unescape? letter = none := by
  fun_induction scan input with
  | case1 | case2 | case3 => cases h
  | case4 escaped rest c hescape ih => exact ih h
  | case5 escaped rest hescape =>
    cases h
    exact hescape
  | case6 c rest _ _ _ ih => exact ih h

/-! ## What an item points at -/

/-- The characters that a token begins with: its text, or the quote before it. -/
def Token.written (t : Token) : List Char :=
  if t.kind = .string then ['\x22'] else t.text.toList

/-- The characters that an error names. -/
def LexError.written : LexError → List Char
  | unrecognizedEscape letter _ => ['\\', letter]
  | unterminatedString _ => ['\x22']
  | unrecognizedCharacter c _ => [c]

/-- The characters that an item points at. -/
def Item.written : Item → List Char
  | token t => t.token.written
  | error e => e.written

/-- An item points into a text that begins at `start`: it is placed where its characters stand, and
an escape that it reports is none. -/
structure Item.Marks (i : Item) (start : Nat) (text : List Char) : Prop where
  standsAt : ∃ offset, i.position = start + offset ∧ StandsAt text offset i.written
  unknown : ∀ letter p, i = .error (.unrecognizedEscape letter p) →
    Quoted.unescape? letter = none

namespace Item.Marks

variable {i : Item} {start : Nat} {text : List Char}

/-- An item that marks the end of a text marks all of it. -/
theorem behind (front : List Char) (h : i.Marks (start + byteLength front) text) :
    i.Marks start (front ++ text) := by
  obtain ⟨offset, hposition, hstands⟩ := h.standsAt
  exact ⟨⟨byteLength front + offset, hposition.trans (Nat.add_assoc ..), hstands.behind front⟩,
    h.unknown⟩

/-- A token marks the text that it begins. -/
theorem token {t : PlacedToken} (back : List Char) (hposition : t.position = start)
    (htext : text = t.token.written ++ back) : (Item.token t).Marks start text := by
  subst htext
  exact ⟨⟨0, hposition, .head _ back⟩, by rintro _ _ ⟨⟩⟩

end Item.Marks

namespace Lexer

/-! ## Scans and calls -/

theorem marks_scanRun {kind : TokenKind} (hkind : kind ≠ .string) (continues : Char → Bool)
    (position : Nat) (c : Char) (after : List Char) :
    (scanRun kind continues position c after).item.Marks position (c :: after) := by
  refine .token (after.dropWhile continues) rfl ?_
  simp [Token.written, hkind, List.takeWhile_append_dropWhile]

theorem marks_scanString (position : Nat) (after : List Char) :
    (scanString position after).item.Marks position ('\x22' :: after) := by
  rw [scanString]
  cases hending : (Quoted.scan after).ending with
  | closed => exact .token after rfl rfl
  | unterminated => exact ⟨⟨0, rfl, .head ['\x22'] after⟩, by rintro _ _ ⟨⟩⟩
  | unknownEscape letter =>
    -- in front of the backslash are the quote and what was read of the string
    have hafter : after =
        (Quoted.scan after).before ++ (['\\', letter] ++ (Quoted.scan after).rest) := by
      have h := Quoted.piece_append_rest after
      rw [Quoted.Body.piece, hending, List.append_assoc] at h
      exact h.symm
    have hstands : StandsAt ('\x22' :: after) (1 + byteLength (Quoted.scan after).before)
        ['\\', letter] := by
      have h := ((StandsAt.head ['\\', letter] (Quoted.scan after).rest).behind
        (Quoted.scan after).before).behind ['\x22']
      rwa [← hafter] at h
    refine ⟨⟨_, Nat.add_assoc .., hstands⟩, ?_⟩
    rintro _ _ ⟨⟩
    exact Quoted.unescape?_of_ending hending

/-- **A scan marks the text that it begins with.** -/
theorem marks_scan (position : Nat) (c : Char) (after : List Char) :
    (scan position c after).item.Marks position (c :: after) := by
  rw [scan]
  split
  · exact marks_scanRun (by decide) ..
  split
  · exact marks_scanRun (by decide) ..
  split
  · rename_i hquote
    rw [hquote]
    exact marks_scanString ..
  split
  · exact marks_scanRun (by decide) ..
  split
  · exact ⟨⟨0, rfl, .head [c] after⟩, by rintro _ _ ⟨⟩⟩
  · exact marks_scanRun (by decide) ..

theorem marks_next? {c c' : Cursor} {i : Item} (h : next? c = some (i, c')) :
    i.Marks c.position c.text := by
  rw [next?] at h
  split at h
  · cases h
  · rename_i first after hrest
    cases h
    have hmarks := marks_scan (c.position + byteLength (c.text.takeWhile isBlank)) first after
    have hbehind := hmarks.behind (c.text.takeWhile isBlank)
    rwa [← hrest, List.takeWhile_append_dropWhile] at hbehind

/-- All items of the calls mark what there is to read. -/
theorem Calls.marks {c : Cursor} {items : List Item} (h : Calls c items) :
    ∀ i ∈ items, i.Marks c.position c.text := by
  induction h with
  | finish => simp
  | @item c c' i items hsome hrest ih =>
    obtain ⟨s, -, htext, hposition, -⟩ := exists_sound_of_next? hsome
    rintro j (_ | ⟨_, hj⟩)
    · exact marks_next? hsome
    · have := ih j hj
      rw [hposition] at this
      exact htext ▸ this.behind s.text

/-- **Items stand where they are placed.** -/
theorem standsAt_of_mem_items {source : String} {i : Item} (h : i ∈ items source) :
    StandsAt source.toList i.position i.written := by
  obtain ⟨offset, hposition, hstands⟩ := ((calls_itemsFrom 0 source.toList).marks i h).standsAt
  rwa [hposition, Nat.zero_add]

theorem unescape?_of_mem_items {source : String} {letter : Char} {position : Nat}
    (h : .error (.unrecognizedEscape letter position) ∈ items source) :
    Quoted.unescape? letter = none :=
  ((calls_itemsFrom 0 source.toList).marks _ h).unknown letter position rfl

end Lexer

end Formula
