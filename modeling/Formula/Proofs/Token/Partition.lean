import Formula.Token.Lexer
import Mathlib.Data.List.TakeWhile

/-!
# Items partition a text

`Lexer.itemsFrom` finds all items of a text in one go.  Here the lexer is taken one call at a time:
`next?` is one call, and `Calls` says that the calls come to an end with the given items, which they
do for every text (`calls_itemsFrom`).

## What is here

* `Segment` — an item together with the text that it takes and the blanks in front.
* `Segment.Sound` — what a call promises about its segment: the gap is blank, the piece is not
  empty, the item is placed in its piece, and a token that is no string is its piece and could not
  be longer (`Maximal`).
* `exists_sound_of_next?` — one call keeps the promise.
* `exists_segments` — so the segments of all calls partition the source.
-/

set_option autoImplicit false

namespace Formula

/-- Where an item is: a token at its first character, an error where it says. -/
def Item.position : Item → Nat
  | token t => t.position
  | error e => e.position

namespace Lexer

open Text

/-! ## One call after another -/

/-- Where a lexer is: what it has still to read, and the position at which that begins. -/
structure Cursor where
  position : Nat
  text : List Char

/-- The cursor before a whole source text. -/
def Cursor.ofSource (source : String) : Cursor := { position := 0, text := source.toList }

/-- One call: the item that comes next, and where the lexer is behind it; none if only blanks are
left. -/
def next? (c : Cursor) : Option (Item × Cursor) :=
  match c.text.dropWhile isBlank with
  | [] => none
  | first :: after =>
    let start := c.position + byteLength (c.text.takeWhile isBlank)
    let found := scan start first after
    some (found.item, { position := start + byteLength found.piece, text := found.rest })

/-- Calling until there is no item any more, and after errors too, gives these items. -/
inductive Calls : Cursor → List Item → Prop
  | finish {c : Cursor} (h : next? c = none) : Calls c []
  | item {c c' : Cursor} {i : Item} {items : List Item} (h : next? c = some (i, c'))
      (hrest : Calls c' items) : Calls c (i :: items)

/-- A blank in front makes no difference to a call. -/
theorem next?_blank {first : Char} (h : isBlank first = true) (position : Nat)
    (after : List Char) :
    next? { position, text := first :: after } =
      next? { position := position + first.utf8Size, text := after } := by
  simp [next?, h, byteLength, Nat.add_assoc]

theorem Calls.blank {first : Char} {position : Nat} {after : List Char} {items : List Item}
    (hblank : isBlank first = true)
    (h : Calls { position := position + first.utf8Size, text := after } items) :
    Calls { position, text := first :: after } items := by
  cases h with
  | finish h => exact .finish (next?_blank hblank position after ▸ h)
  | item h hrest => exact .item (next?_blank hblank position after ▸ h) hrest

/-- **The calls come to an end**, with the items of the text. -/
theorem calls_itemsFrom (position : Nat) (text : List Char) :
    Calls { position, text } (itemsFrom position text) := by
  fun_induction itemsFrom position text with
  | case1 position => exact .finish rfl
  | case2 position first after hblank ih => exact ih.blank hblank
  | case3 position first after hblank found ih =>
    refine .item ?_ ih
    simp [next?, hblank, byteLength, found]

/-- What a lexer has still to find. -/
def Cursor.items (c : Cursor) : List Item := itemsFrom c.position c.text

/-- There is one way only in which the calls go on. -/
theorem Calls.unique {c : Cursor} {items items' : List Item} (h : Calls c items)
    (h' : Calls c items') : items = items' := by
  induction h generalizing items' with
  | finish hnone =>
    cases h' with
    | finish => rfl
    | item hsome => rw [hnone] at hsome; cases hsome
  | item hsome hrest ih =>
    cases h' with
    | finish hnone => rw [hnone] at hsome; cases hsome
    | item hsome' hrest' =>
      rw [hsome] at hsome'
      cases hsome'
      rw [ih hrest']

theorem Cursor.items_of_none {c : Cursor} (h : next? c = none) : c.items = [] :=
  (calls_itemsFrom c.position c.text).unique (.finish h)

theorem Cursor.items_of_some {c c' : Cursor} {i : Item} (h : next? c = some (i, c')) :
    c.items = i :: c'.items :=
  (calls_itemsFrom c.position c.text).unique (.item h (calls_itemsFrom c'.position c'.text))

/-! ## What one call takes -/

/-- Whether a token of a kind, with the text `piece`, could not be longer where it stands. -/
def Maximal (kind : TokenKind) (piece following : List Char) : Prop :=
  match kind with
  | .number => ∀ c, following.head? = some c →
    isLetter c = false ∧ isNumeral c = false ∧ c ≠ '.'
  | .word => ∀ c, following.head? = some c →
    isBlank c = true ∨ isPunctuation c = true ∨ isAsciiSymbol c = true
  | .symbol => (∃ c, piece = [c] ∧ isBracket c = true) ∨ ∀ c, following.head? = some c →
    isBlank c = true ∨ isLetter c = true ∨ isNumeral c = true ∨ isBracket c = true ∨ c = '\x22'
  | .string => True

/-- Where a run of characters ends, it does not go on. -/
theorem head?_dropWhile {continues : Char → Bool} {text : List Char} {c : Char}
    (h : (text.dropWhile continues).head? = some c) : continues c = false := by
  have := List.head?_dropWhile_not continues text
  rwa [h] at this

theorem maximal_number (piece after : List Char) :
    Maximal .number piece (after.dropWhile continuesNumber) := by
  intro c hc
  have := head?_dropWhile hc
  grind [continuesNumber]

theorem maximal_word (piece after : List Char) :
    Maximal .word piece (after.dropWhile continuesWord) := by
  intro c hc
  have := head?_dropWhile hc
  grind [continuesWord]

theorem maximal_symbol (piece after : List Char) :
    Maximal .symbol piece (after.dropWhile continuesSymbol) := by
  refine .inr fun c hc ↦ ?_
  have := head?_dropWhile hc
  grind [continuesSymbol]

theorem maximal_bracket {c : Char} (h : isBracket c = true) (following : List Char) :
    Maximal .symbol [c] following :=
  .inl ⟨c, rfl, h⟩

/-- What a scan that begins at `start` promises of its item and the text that it takes. -/
def Covers (start : Nat) (item : Item) (piece following : List Char) : Prop :=
  (start ≤ item.position ∧ item.position < start + byteLength piece) ∧
    ∀ t, item = .token t → t.position = start ∧
      (t.token.kind ≠ .string → t.token.text.toList = piece) ∧ Maximal t.token.kind piece following

theorem byteLength_pos {text : List Char} (h : text ≠ []) : 0 < byteLength text := by
  cases text with
  | nil => exact absurd rfl h
  | cons c text =>
    have := c.utf8Size_pos
    rw [byteLength]
    omega

theorem covers_scanRun {kind : TokenKind} {continues : Char → Bool} {c : Char} {after : List Char}
    (h : Maximal kind (c :: after.takeWhile continues) (after.dropWhile continues))
    (position : Nat) :
    Covers position (scanRun kind continues position c after).item
      (scanRun kind continues position c after).piece
      (scanRun kind continues position c after).rest := by
  refine ⟨⟨Nat.le_refl _, ?_⟩, ?_⟩
  · have hne : (scanRun kind continues position c after).piece ≠ [] := by simp [scanRun]
    exact Nat.lt_add_of_pos_right (byteLength_pos hne)
  · rintro t ⟨⟩
    exact ⟨rfl, fun _ ↦ String.toList_ofList, h⟩

theorem covers_scanString (position : Nat) (after : List Char) :
    Covers position (scanString position after).item (scanString position after).piece
      (scanString position after).rest := by
  rw [scanString]
  cases hending : (Quoted.scan after).ending with
  | closed =>
    refine ⟨⟨Nat.le_refl _, Nat.lt_add_of_pos_right (byteLength_pos (by simp))⟩, ?_⟩
    rintro t ⟨⟩
    exact ⟨rfl, fun h ↦ absurd rfl h, trivial⟩
  | unterminated =>
    refine ⟨⟨Nat.le_refl _, Nat.lt_add_of_pos_right (byteLength_pos (by simp))⟩, ?_⟩
    rintro t ⟨⟩
  | unknownEscape letter =>
    -- the error is at the backslash, behind the quote and what came before it
    have hquote : ('\x22').utf8Size = 1 := by decide
    have hslash : ('\\').utf8Size = 1 := by decide
    refine ⟨?_, by rintro t ⟨⟩⟩
    simp only [Item.position, LexError.position, Quoted.Body.piece, Quoted.Ending.piece, hending,
      byteLength, byteLength_append, hquote, hslash]
    omega

/-- **A scan keeps its promise.** -/
theorem covers_scan (position : Nat) (c : Char) (after : List Char) :
    Covers position (scan position c after).item (scan position c after).piece
      (scan position c after).rest := by
  rw [scan]
  split
  · exact covers_scanRun (maximal_number _ _) position
  split
  · exact covers_scanRun (maximal_word _ _) position
  split
  · exact covers_scanString position after
  split
  · rename_i hbracket
    have hrun : after.takeWhile (fun _ ↦ false) = [] := by cases after <;> rfl
    exact covers_scanRun (hrun ▸ maximal_bracket hbracket _) position
  split
  · exact ⟨⟨Nat.le_refl _, Nat.lt_add_of_pos_right (byteLength_pos (List.cons_ne_nil c []))⟩,
      by rintro t ⟨⟩⟩
  · exact covers_scanRun (maximal_symbol _ _) position

/-! ## Segments -/

/-- An item, the text that it takes, and the blanks between it and the item before. -/
structure Segment where
  gap : List Char
  piece : List Char
  item : Item

namespace Segment

/-- The text of a segment. -/
def text (s : Segment) : List Char := s.gap ++ s.piece

/-- The text of some segments, one behind the other. -/
def texts (segments : List Segment) : List Char := segments.flatMap text

@[simp] theorem texts_nil : texts [] = [] := rfl

@[simp] theorem texts_cons (s : Segment) (segments : List Segment) :
    texts (s :: segments) = s.text ++ texts segments := rfl

@[simp] theorem texts_append (front back : List Segment) :
    texts (front ++ back) = texts front ++ texts back :=
  List.flatMap_append

/-- A segment that begins at `start` and is followed by a text: its gap is blank, its piece is not
empty, and its item is what a scan promises. -/
structure Sound (s : Segment) (start : Nat) (following : List Char) : Prop where
  gap : ∀ c ∈ s.gap, isBlank c = true
  piece : s.piece ≠ []
  covers : Covers (start + byteLength s.gap) s.item s.piece following

/-- The item of a segment lies within it. -/
theorem Sound.position_mem {s : Segment} {start : Nat} {following : List Char}
    (h : s.Sound start following) :
    start ≤ s.item.position ∧ s.item.position < start + byteLength s.text := by
  have := h.covers.1
  rw [text, byteLength_append]
  omega

end Segment

/-- **One call takes one segment**, and goes on behind it. -/
theorem exists_sound_of_next? {c c' : Cursor} {i : Item} (h : next? c = some (i, c')) :
    ∃ s : Segment, s.item = i ∧ c.text = s.text ++ c'.text ∧
      c'.position = c.position + byteLength s.text ∧ s.Sound c.position c'.text := by
  rw [next?] at h
  split at h
  · cases h
  · rename_i first after hrest
    cases h
    refine ⟨⟨c.text.takeWhile isBlank,
      (scan (c.position + byteLength (c.text.takeWhile isBlank)) first after).piece, _⟩,
      rfl, ?_, ?_, ?_⟩
    · rw [Segment.text, List.append_assoc, piece_append_rest, ← hrest,
        List.takeWhile_append_dropWhile]
    · simp only [Segment.text, byteLength_append, Nat.add_assoc]
    · exact ⟨fun c hc ↦ List.mem_takeWhile_imp hc, piece_ne_nil _ _ _, covers_scan ..⟩

theorem isBlank_of_next?_eq_none {c : Cursor} (h : next? c = none) :
    ∀ d ∈ c.text, isBlank d = true := by
  rw [next?] at h
  split at h
  · rename_i hrest
    exact List.dropWhile_eq_nil_iff.1 hrest
  · cases h

/-- The segments of the calls partition what there is to read. -/
theorem Calls.exists_segments {c : Cursor} {items : List Item} (h : Calls c items) :
    ∃ segments final, items = segments.map Segment.item ∧
      c.text = Segment.texts segments ++ final ∧ (∀ d ∈ final, isBlank d = true) ∧
      ∀ front s back, segments = front ++ s :: back →
        s.Sound (c.position + byteLength (Segment.texts front)) (Segment.texts back ++ final) := by
  induction h with
  | @finish c hnone =>
    refine ⟨[], c.text, rfl, rfl, isBlank_of_next?_eq_none hnone, fun front s back hsplit ↦ ?_⟩
    simp at hsplit
  | @item c c' i items hsome hrest ih =>
    obtain ⟨segments, final, rfl, htext, hfinal, hsound⟩ := ih
    obtain ⟨s, rfl, hc, hposition, hs⟩ := exists_sound_of_next? hsome
    refine ⟨s :: segments, final, rfl, by simp [hc, htext], hfinal, fun front s' back hsplit ↦ ?_⟩
    rcases List.cons_eq_append_iff.1 hsplit with ⟨rfl, hhead⟩ | ⟨front', rfl, htail⟩
    · cases hhead
      exact htext ▸ hs
    · have := hsound front' s' back htail
      rwa [hposition, Nat.add_assoc, ← byteLength_append] at this

/-- The items of the calls are placed one behind the other. -/
theorem Calls.pairwise_position {c : Cursor} {items : List Item} (h : Calls c items) :
    (∀ i ∈ items, c.position ≤ i.position) ∧
      items.Pairwise fun i j ↦ i.position < j.position := by
  induction h with
  | finish => exact ⟨by simp, .nil⟩
  | @item c c' i items hsome hrest ih =>
    obtain ⟨s, rfl, -, hposition, hs⟩ := exists_sound_of_next? hsome
    have hmem := hs.position_mem
    refine ⟨?_, List.pairwise_cons.2 ⟨fun j hj ↦ ?_, ih.2⟩⟩
    · rintro j (_ | ⟨_, hj⟩)
      · exact hmem.1
      · have := ih.1 j hj
        omega
    · have := ih.1 j hj
      omega

/-- The items of the calls are placed within what there is to read. -/
theorem Calls.position_lt {c : Cursor} {items : List Item} (h : Calls c items) :
    ∀ i ∈ items, i.position < c.position + byteLength c.text := by
  induction h with
  | finish => simp
  | @item c c' i items hsome hrest ih =>
    obtain ⟨s, rfl, htext, hposition, hs⟩ := exists_sound_of_next? hsome
    have hlength : byteLength c.text = byteLength s.text + byteLength c'.text := by
      rw [htext, byteLength_append]
    rintro j (_ | ⟨_, hj⟩)
    · have := hs.position_mem.2
      omega
    · have := ih j hj
      omega

/-! ## Whole texts -/

theorem position_lt_of_mem_items {source : String} {i : Item} (h : i ∈ items source) :
    i.position < byteLength source.toList := by
  have := (calls_itemsFrom 0 source.toList).position_lt i h
  rwa [Nat.zero_add] at this

/-- The items of a source text are placed one behind the other. -/
theorem pairwise_position_items (source : String) :
    (items source).Pairwise fun i j ↦ i.position < j.position :=
  (calls_itemsFrom 0 source.toList).pairwise_position.2

theorem utf8ByteSize_ofList (text : List Char) :
    (String.ofList text).utf8ByteSize = byteLength text := by
  induction text with
  | nil => rfl
  | cons c text ih =>
    rw [← List.singleton_append, String.ofList_append, String.utf8ByteSize_append, ih,
      byteLength_append, ← String.singleton_eq_ofList, String.utf8ByteSize_singleton]
    rfl

theorem utf8ByteSize_eq_byteLength (source : String) :
    source.utf8ByteSize = byteLength source.toList := by
  rw [← utf8ByteSize_ofList, String.ofList_toList]

/-- Where a part of a text ends, a character ends. -/
theorem isValid_byteLength {source : String} {front back : List Char}
    (h : source.toList = front ++ back) :
    (String.Pos.Raw.mk (byteLength front)).IsValid source := by
  refine String.Pos.Raw.isValid_iff_exists_append.2
    ⟨String.ofList front, String.ofList back, ?_, ?_⟩
  · rw [← String.ofList_append, ← h, String.ofList_toList]
  · rw [← utf8ByteSize_ofList]
    rfl

/-- **Items partition a source text.**  Reading it item by item, after errors too, comes to an end.
The text is then a sequence of segments, each with blanks in front of the piece that its item takes,
and blanks at the end; no piece is empty, a token is placed at the start of its piece, and one that
is not a string is its piece, which could not be longer.  All items are placed one behind the other,
and the tokens between characters. -/
theorem exists_segments_items (source : String) :
    Calls (.ofSource source) (items source) ∧
      ∃ segments final, items source = segments.map Segment.item ∧
        source.toList = Segment.texts segments ++ final ∧ (∀ c ∈ final, isBlank c = true) ∧
        (∀ front s back, segments = front ++ s :: back →
          s.Sound (byteLength (Segment.texts front)) (Segment.texts back ++ final)) ∧
        ((items source).Pairwise fun i j ↦ i.position < j.position) ∧
        ∀ t, .token t ∈ items source → (String.Pos.Raw.mk t.position).IsValid source := by
  have hcalls : Calls (.ofSource source) (items source) := calls_itemsFrom 0 source.toList
  obtain ⟨segments, final, hitems, htext, hfinal, hsound⟩ := hcalls.exists_segments
  have hsoundAt : ∀ front s back, segments = front ++ s :: back →
      s.Sound (byteLength (Segment.texts front)) (Segment.texts back ++ final) := by
    intro front s back hsplit
    have := hsound front s back hsplit
    rwa [show (Cursor.ofSource source).position = 0 from rfl, Nat.zero_add] at this
  refine ⟨hcalls, segments, final, hitems, htext, hfinal, hsoundAt, pairwise_position_items source,
    fun t ht ↦ ?_⟩
  rw [hitems] at ht
  obtain ⟨s, hs, hitem⟩ := List.mem_map.1 ht
  obtain ⟨front, back, rfl⟩ := List.append_of_mem hs
  obtain ⟨hposition, -⟩ := (hsoundAt front s back rfl).covers.2 t hitem
  have hsource : source.toList =
      (Segment.texts front ++ s.gap) ++ (s.piece ++ Segment.texts back ++ final) := by
    rw [show source.toList = _ from htext, Segment.texts_append, Segment.texts_cons, Segment.text]
    simp only [List.append_assoc]
  rw [hposition, ← byteLength_append]
  exact isValid_byteLength hsource

end Lexer

end Formula
