import Formula.Proofs.Token.Places

/-!
# String literals

What a string literal is, told without the scanner.  Behind the opening quote stand characters that
mean themselves and escapes, up to a quote that is neither: `Quoted.Spells` says what such a list of
characters spells, and `Quoted.escapes` which escapes there are.

The scanner goes over such a list, whatever stands behind it (`Quoted.scan_append_of_spells`), and
where it finds an ending it has gone over one (`Quoted.spells_scan`).  So the two ways in which a
body can end, `Quoted.Closes` and `Quoted.Breaks`, are found exactly where they are.  If there is
neither, nothing ends the body but the text, of which the last character can be a backslash.  This
is the one case in which what the scanner has gone over spells nothing.

All lengths are in bytes, as positions are.
-/

set_option autoImplicit false

namespace Formula

open Text

namespace Quoted

/-! ## Bodies -/

/-- The escapes: the letter behind the backslash, and the character that the two stand for. -/
def escapes : List (Char × Char) :=
  [('\x27', '\x27'), ('\x22', '\x22'), ('\\', '\\'), ('0', '\x00'), ('a', '\x07'), ('b', '\x08'),
   ('f', '\x0c'), ('n', '\n'), ('r', '\r'), ('t', '\t'), ('v', '\x0b')]

/-- Characters behind an opening quote, of which none closes it, spell some contents. -/
inductive Spells : List Char → List Char → Prop
  | nil : Spells [] []
  | plain {c : Char} {written contents : List Char} (hquote : c ≠ '\x22') (hslash : c ≠ '\\')
      (h : Spells written contents) : Spells (c :: written) (c :: contents)
  | escape {letter c : Char} {written contents : List Char} (hescape : (letter, c) ∈ escapes)
      (h : Spells written contents) : Spells ('\\' :: letter :: written) (c :: contents)

/-- A text begins with a body and the quote that closes it, which take `consumed` bytes. -/
def Closes (text contents : List Char) (consumed : Nat) : Prop :=
  ∃ written rest, text = written ++ '\x22' :: rest ∧ Spells written contents ∧
    consumed = byteLength (written ++ ['\x22'])

/-- A text begins with what could be a body, up to a backslash and a letter that make no escape.
The bytes up to the backslash, with the opening quote, are `offset`, and those up to the end of the
letter, without it, are `consumed`. -/
def Breaks (text : List Char) (letter : Char) (offset consumed : Nat) : Prop :=
  ∃ written contents rest, text = written ++ '\\' :: letter :: rest ∧ Spells written contents ∧
    letter ∉ escapes.map Prod.fst ∧ offset = 1 + byteLength written ∧
    consumed = byteLength (written ++ ['\\', letter])

/-! ## The scanner -/

theorem unescape?_eq_some_iff {letter c : Char} :
    unescape? letter = some c ↔ (letter, c) ∈ escapes := by
  unfold unescape?
  split <;> simp_all [escapes, eq_comm]

variable {text written contents : List Char}

/-- The scanner goes over what spells some contents, and then on. -/
theorem scan_append_of_spells (h : Spells written contents) (rest : List Char) :
    scan (written ++ rest) =
      { scan rest with
        contents := contents ++ (scan rest).contents
        before := written ++ (scan rest).before } := by
  induction h with
  | nil => rfl
  | @plain c written contents hquote hslash h ih =>
    rw [List.cons_append, scan]
    · rw [ih]
      rfl
    all_goals simp_all
  | escape hescape h ih =>
    rw [List.cons_append, List.cons_append, scan, unescape?_eq_some_iff.2 hescape, ih]
    rfl

/-- Where the scanner finds an ending, what is in front of it spells the contents. -/
theorem spells_scan (h : (scan text).ending ≠ .unterminated) :
    Spells (scan text).before (scan text).contents := by
  fun_induction scan text with
  | case1 | case3 => exact absurd rfl h
  | case2 | case5 => exact .nil
  | case4 letter rest c hescape ih => exact .escape (unescape?_eq_some_iff.1 hescape) (ih h)
  | case6 c rest hquote hlast hescape ih =>
    have hslash : c ≠ '\\' := by
      rintro rfl
      cases rest with
      | nil => exact hlast rfl rfl
      | cons letter rest => exact hescape letter rest rfl rfl
    exact .plain hquote hslash (ih h)

/-- A text is what is in front of the ending, the ending and what follows. -/
theorem eq_append_of_ending {ending : Ending} (h : (scan text).ending = ending) :
    text = (scan text).before ++ (ending.piece ++ (scan text).rest) := by
  rw [← h, ← List.append_assoc]
  exact (piece_append_rest text).symm

/-- A body that nothing ends is the whole text. -/
theorem piece_of_unterminated (h : (scan text).ending = .unterminated) :
    (scan text).piece = text := by
  have hrest : (scan text).rest = [] := by
    fun_induction scan text with
    | case1 | case3 => rfl
    | case2 | case5 => cases h
    | case4 _ _ _ _ ih => exact ih h
    | case6 _ _ _ _ _ ih => exact ih h
  have hpiece := piece_append_rest text
  rwa [hrest, List.append_nil] at hpiece

/-- **The scanner ends at a quote exactly if the text begins with a body that it closes.** -/
theorem closes_iff {consumed : Nat} : Closes text contents consumed ↔
    (scan text).ending = .closed ∧ (scan text).contents = contents ∧
      byteLength (scan text).piece = consumed := by
  constructor
  · rintro ⟨written, rest, rfl, hspells, rfl⟩
    rw [scan_append_of_spells hspells, scan]
    simp [Body.piece, Ending.piece]
  · rintro ⟨hending, rfl, rfl⟩
    refine ⟨(scan text).before, (scan text).rest, eq_append_of_ending hending,
      spells_scan (by simp [hending]), ?_⟩
    rw [Body.piece, hending, Ending.piece]

/-- **The scanner ends at an unknown escape exactly if the text breaks there.** -/
theorem breaks_iff {letter : Char} {offset consumed : Nat} : Breaks text letter offset consumed ↔
    (scan text).ending = .unknownEscape letter ∧ 1 + byteLength (scan text).before = offset ∧
      byteLength (scan text).piece = consumed := by
  constructor
  · rintro ⟨written, contents, rest, rfl, hspells, hunknown, rfl, rfl⟩
    rw [scan_append_of_spells hspells, scan, unescape?_eq_none_iff.2 hunknown]
    simp [Body.piece, Ending.piece]
  · rintro ⟨hending, rfl, rfl⟩
    refine ⟨(scan text).before, (scan text).contents, (scan text).rest,
      eq_append_of_ending hending, spells_scan (by simp [hending]),
      unescape?_eq_none_iff.1 (unescape?_of_ending hending), rfl, ?_⟩
    rw [Body.piece, hending, Ending.piece]

end Quoted

/-! ## The string at a quote -/

namespace Lexer

variable {position : Nat} {after : List Char}

theorem item_scanString_eq_token_iff {v : String} :
    (scanString position after).item =
        .token { token := { kind := .string, text := v }, position } ↔
      (Quoted.scan after).ending = .closed ∧ (Quoted.scan after).contents = v.toList := by
  rw [scanString]
  cases (Quoted.scan after).ending with
  | closed => simp [← String.toList_inj]
  | unknownEscape | unterminated => simp

theorem item_scanString_eq_escape_iff {letter : Char} {offset : Nat} :
    (scanString position after).item = .error (.unrecognizedEscape letter (position + offset)) ↔
      (Quoted.scan after).ending = .unknownEscape letter ∧
        1 + byteLength (Quoted.scan after).before = offset := by
  rw [scanString]
  cases (Quoted.scan after).ending with
  | unknownEscape => simp [Nat.add_assoc]
  | closed | unterminated => simp

theorem item_scanString_eq_unterminated_iff :
    (scanString position after).item = .error (.unterminatedString position) ↔
      (Quoted.scan after).ending = .unterminated := by
  rw [scanString]
  cases (Quoted.scan after).ending <;> simp

/-- **The scanner accepts exactly the string literals.**  Behind an opening quote it finds a string,
and takes so many bytes, exactly if the text there begins with a body for it that a quote closes
after so many bytes.  It reports an escape, at its distance from the opening quote, and takes so
many bytes, exactly if the text breaks at it.  Where the text does neither, the string is
unterminated, and all of the text is taken.  What is taken is the text up to where it goes on: not
more than there is, and no part of a character. -/
theorem scanString_iff_literal (position : Nat) (body : String) :
    let found := scanString position body.toList
    let consumed := byteLength found.piece.tail
    (∀ v n, found.item = .token { token := { kind := .string, text := v }, position } ∧
        consumed = n ↔ Quoted.Closes body.toList v.toList n) ∧
      (∀ letter offset n,
        found.item = .error (.unrecognizedEscape letter (position + offset)) ∧ consumed = n ↔
          Quoted.Breaks body.toList letter offset n) ∧
      ((∃ v n, Quoted.Closes body.toList v n) ∨
        (∃ letter offset n, Quoted.Breaks body.toList letter offset n) ∨
        found.item = .error (.unterminatedString position) ∧ consumed = body.utf8ByteSize) ∧
      body.toList = found.piece.tail ++ found.rest ∧ consumed ≤ body.utf8ByteSize ∧
      (String.Pos.Raw.mk consumed).IsValid body := by
  intro found consumed
  have hpieces : body.toList = found.piece.tail ++ found.rest :=
    (Quoted.piece_append_rest body.toList).symm
  have hvalid := isValid_byteLength hpieces
  refine ⟨fun v n ↦ ?_, fun letter offset n ↦ ?_, ?_, hpieces, hvalid.le_rawEndPos, hvalid⟩
  · rw [item_scanString_eq_token_iff, Quoted.closes_iff, and_assoc]
    rfl
  · rw [item_scanString_eq_escape_iff, Quoted.breaks_iff, and_assoc]
    rfl
  · cases hending : (Quoted.scan body.toList).ending with
    | closed => exact .inl ⟨_, _, Quoted.closes_iff.2 ⟨hending, rfl, rfl⟩⟩
    | unknownEscape letter =>
      exact .inr (.inl ⟨letter, _, _, Quoted.breaks_iff.2 ⟨hending, rfl, rfl⟩⟩)
    | unterminated =>
      refine .inr (.inr ⟨item_scanString_eq_unterminated_iff.2 hending, ?_⟩)
      rw [utf8ByteSize_eq_byteLength]
      exact congrArg byteLength (Quoted.piece_of_unterminated hending)

/-- The distance of an escape and the bytes that are taken count characters of two bytes as two. -/
example :
    (scanString 0 ['é', '\\', 'é', '\x22']).item = .error (.unrecognizedEscape 'é' 3) ∧
      byteLength (scanString 0 ['é', '\\', 'é', '\x22']).piece.tail = 5 := by
  decide

end Lexer

end Formula
