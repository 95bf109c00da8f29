import Formula.Proofs.Items
import Formula.Proofs.Token.Layout

/-!
# Blanks at the end of a text

`Text.trimEnd` takes nothing from a text that has no lexical errors: the tokens are the same, at the
same places, `tokens_trimEnd_iff`.  In one direction that is a case of putting blanks between
tokens, as the end of a text is behind its last token.  In the other direction it rests on how a
token ends, which is never with a blank: a run of characters goes on over none, and a string ends
with its quote.  So none of the blanks at the end of the text belongs to a token.

The errors of a text may be others than those of the trimmed text.  A backslash and a blank at the
end of a text without its closing quote are an unknown escape, and without the blank the text is
unterminated.
-/

set_option autoImplicit false

namespace Formula

namespace Text

/-- What `trimEnd` takes away is blank. -/
theorem exists_blanks_trimEnd (text : String) :
    ∃ blanks, text.toList = (trimEnd text).toList ++ blanks ∧ ∀ d ∈ blanks, isBlank d = true := by
  refine ⟨(text.toList.reverse.takeWhile isBlank).reverse, ?_, fun d hd ↦ ?_⟩
  · rw [trimEnd, String.toList_ofList, ← List.reverse_append, List.takeWhile_append_dropWhile,
      List.reverse_reverse]
  · exact List.mem_takeWhile_imp (List.mem_reverse.1 hd)

end Text

/-- An item stays where it is if its position does. -/
theorem Item.relocate_eq_self {f : Nat → Nat} {i : Item} (h : f i.position = i.position) :
    i.relocate f = i := by
  match i with
  | token t => exact congrArg (fun p ↦ token { t with position := p }) h
  | error (.unrecognizedEscape letter _) =>
    exact congrArg (fun p ↦ error (.unrecognizedEscape letter p)) h
  | error (.unterminatedString _) => exact congrArg (fun p ↦ error (.unterminatedString p)) h
  | error (.unrecognizedCharacter c _) =>
    exact congrArg (fun p ↦ error (.unrecognizedCharacter c p)) h

namespace Lexer

open Text

/-! ## How a token ends -/

theorem isBlank_of_mem_scanRun {continues : Char → Bool} {kind : TokenKind} {position : Nat}
    {c d : Char} {after : List Char}
    (hblank : ∀ {d}, isBlank d = true → continues d = false) (hc : isBlank c = false)
    (hd : d ∈ (scanRun kind continues position c after).piece) : isBlank d = false := by
  rcases List.mem_cons.1 hd with rfl | hd
  · exact hc
  · refine Bool.eq_false_iff.2 fun hdblank ↦ ?_
    have hcontinues : continues d = true := List.mem_takeWhile_imp hd
    rw [hblank hdblank] at hcontinues
    cases hcontinues

/-- A string ends with its quote. -/
theorem getLast?_scanString {position : Nat} {after : List Char} {t : PlacedToken}
    (h : (scanString position after).item = .token t) :
    (scanString position after).piece.getLast? = some '\x22' := by
  have hclosed : (Quoted.scan after).ending = .closed := by
    simp only [scanString] at h
    split at h
    · assumption
    · cases h
    · cases h
  simp only [scanString, Quoted.Body.piece, Quoted.Ending.piece, hclosed]
  rw [← List.cons_append, List.getLast?_concat]

/-- **No token ends with a blank.** -/
theorem isBlank_getLast?_piece {position : Nat} {c d : Char} {after : List Char} {t : PlacedToken}
    (hc : isBlank c = false) (htoken : (scan position c after).item = .token t)
    (hd : (scan position c after).piece.getLast? = some d) : isBlank d = false := by
  have hmem := List.mem_of_getLast? hd
  rw [scan] at htoken hd hmem
  split at hmem
  · exact isBlank_of_mem_scanRun continuesNumber_eq_false_of_isBlank hc hmem
  split at hmem
  · exact isBlank_of_mem_scanRun continuesWord_eq_false_of_isBlank hc hmem
  split at hmem
  · rename_i hnumber hletter hquote
    rw [if_neg hnumber, if_neg hletter, if_pos hquote] at htoken hd
    rw [getLast?_scanString htoken] at hd
    cases hd
    decide
  split at hmem
  · exact isBlank_of_mem_scanRun (fun _ ↦ rfl) hc hmem
  split at hmem
  · rw [List.mem_singleton.1 hmem]
    exact hc
  · exact isBlank_of_mem_scanRun continuesSymbol_eq_false_of_isBlank hc hmem

/-- The next token lies in front of the blanks at the end. -/
theorem exists_front_of_next? {c c' : Cursor} {t : PlacedToken} {front blanks : List Char}
    (h : next? c = some (.token t, c')) (htext : c.text = front ++ blanks)
    (hblanks : ∀ d ∈ blanks, isBlank d = true) :
    ∃ taken front', front = taken ++ front' ∧ c.text = taken ++ c'.text ∧
      c'.text = front' ++ blanks := by
  obtain ⟨gap, first, after, hc, -, hfirst, htoken, rfl⟩ := next?_eq_some_iff.1 h
  have hlast := fun d ↦ isBlank_getLast?_piece (d := d) hfirst htoken
  have hpiece := piece_append_rest (c.position + byteLength gap) first after
  have hne := piece_ne_nil (c.position + byteLength gap) first after
  generalize scan (c.position + byteLength gap) first after = found at *
  have htaken : c.text = (gap ++ found.piece) ++ found.rest := by
    rw [hc, ← hpiece, List.append_assoc]
  rcases List.append_eq_append_iff.1 (htaken.symm.trans htext) with
    ⟨front', hfront, hrest⟩ | ⟨tail, hpast, hrest⟩
  · exact ⟨_, front', hfront, htaken, hrest⟩
  by_cases htail : tail = []
  · refine ⟨_, [], ?_, htaken, ?_⟩
    · rw [hpast, htail, List.append_nil, List.append_nil]
    · rw [hrest, htail, List.nil_append, List.nil_append]
  · -- a token that went on into the blanks would end with one of them
    have hend : found.piece.getLast? = some (tail.getLast htail) := by
      have := congrArg List.getLast? hpast
      rwa [List.getLast?_append, List.getLast?_append, List.getLast?_eq_some_getLast htail,
        List.getLast?_eq_some_getLast hne, Option.some_or, Option.some_or,
        ← List.getLast?_eq_some_getLast hne] at this
    have hblank : isBlank (tail.getLast htail) = true :=
      hblanks _ (hrest ▸ List.mem_append_left _ (List.getLast_mem htail))
    rw [hlast _ hend] at hblank
    cases hblank

/-! ## Without the blanks, and with them -/

/-- Without the blanks at the end the tokens are the same. -/
theorem Calls.items_front {c : Cursor} {items : List Item} (h : Calls c items)
    (hclean : ∀ e, .error e ∉ items) {front blanks : List Char} (htext : c.text = front ++ blanks)
    (hblanks : ∀ d ∈ blanks, isBlank d = true) : itemsFrom c.position front = items := by
  induction h generalizing front with
  | @finish c hnone =>
    have hfront : ∀ d ∈ front, isBlank d = true := fun d hd ↦
      isBlank_of_next?_eq_none hnone d (htext ▸ List.mem_append_left blanks hd)
    rw [← List.append_nil front, itemsFrom_blanks_append hfront, itemsFrom]
  | @item c c' i items hsome hrest ih =>
    cases i with
    | error e => exact absurd List.mem_cons_self (hclean e)
    | token t =>
      obtain ⟨taken, front', rfl, htaken, htext'⟩ := exists_front_of_next? hsome htext hblanks
      have hstands : StandsFor front' c'.text := by
        intro d hd
        rw [htext', List.head?_append, hd]
        exact .inr rfl
      have hfound := Cursor.items_of_some (next?_append hsome htaken hstands)
      have hlater := ih (fun e he ↦ hclean e (List.mem_cons_of_mem _ he)) htext'
      rw [← hlater]
      exact hfound

/-- The end of a text is between its items. -/
theorem Calls.between_end {c : Cursor} {items : List Item} (h : Calls c items) :
    Between c c.text [] := by
  induction h with
  | @finish c hnone => exact .gap (List.append_nil _).symm (isBlank_of_next?_eq_none hnone)
  | @item c c' i items hsome hrest ih =>
    obtain ⟨s, -, htext, -, -⟩ := exists_sound_of_next? hsome
    rw [htext]
    exact .behind hsome htext ih

theorem Cursor.items_ofSource (source : String) :
    (Cursor.ofSource source).items = Lexer.items source := rfl

theorem Cursor.text_ofSource (source : String) : (Cursor.ofSource source).text = source.toList :=
  rfl

/-- **The blanks at the end of a text mean nothing**: what is without errors and which tokens it
has, and where, is the same with them and without. -/
theorem tokens_trimEnd_iff {source : String} {placed : List PlacedToken} :
    tokens (items (trimEnd source)) = .ok placed ↔ tokens (items source) = .ok placed := by
  obtain ⟨blanks, hsource, hblanks⟩ := exists_blanks_trimEnd source
  rw [tokens_eq_ok_iff, tokens_eq_ok_iff]
  constructor
  · intro h
    have hcalls : Calls (.ofSource (trimEnd source)) (placed.map .token) :=
      h ▸ calls_itemsFrom 0 (trimEnd source).toList
    have hitems := (Cursor.items_ofSource (trimEnd source)).trans h
    have hinsert := hcalls.between_end.items_insert (by simp [hitems]) hblanks
    rw [hitems, List.append_nil, Cursor.text_ofSource, ← hsource] at hinsert
    refine hinsert.trans ((List.map_congr_left fun i hi ↦ ?_).trans (List.map_id _))
    have hlt := hcalls.position_lt i hi
    rw [Cursor.text_ofSource] at hlt
    exact Item.relocate_eq_self (if_neg (Nat.not_le.2 hlt))
  · intro h
    have hclean : ∀ e, .error e ∉ items source := by simp [h]
    rw [← h]
    exact (calls_itemsFrom 0 source.toList).items_front hclean hsource hblanks

end Lexer

end Formula
