import Formula.Proofs.Lexer
import Formula.Proofs.Token.Partition

/-!
# Blanks between tokens

Blanks that are put between the tokens of a text change nothing but the positions of what stands
behind them.  There are two reasons.  The lexer finds the same at every position, `itemsFrom_add`.
And where a token ends depends on nothing but the character behind it; no token goes on over a
blank, so a token in front of the blanks ends where it ended, `next?_append`.

`Between` says which places of a text are between its tokens, and `Between.items_insert` that blanks
can be put there; every other place is inside an item, `Calls.between_or_inside`.  For a text with
lexical errors the result would be wrong: a quote that is not closed takes the blanks up to the end
of the text, and an unknown escape may be one of a blank.
-/

set_option autoImplicit false

namespace Formula

/-! ## Items at other positions -/

/-- The same error at a position. -/
def LexError.moveTo (position : Nat) : LexError → LexError
  | unrecognizedEscape letter _ => unrecognizedEscape letter position
  | unterminatedString _ => unterminatedString position
  | unrecognizedCharacter character _ => unrecognizedCharacter character position

/-- The same token where its position is moved. -/
def PlacedToken.relocate (f : Nat → Nat) (t : PlacedToken) : PlacedToken :=
  { t with position := f t.position }

/-- The same item where its position is moved. -/
def Item.relocate (f : Nat → Nat) : Item → Item
  | token t => token (t.relocate f)
  | error e => error (e.moveTo (f e.position))

theorem Item.relocate_congr {f g : Nat → Nat} {i : Item} (h : f i.position = g i.position) :
    i.relocate f = i.relocate g := by
  cases i with
  | token t => simp only [relocate, PlacedToken.relocate, show f t.position = g t.position from h]
  | error e => simp only [relocate, show f e.position = g e.position from h]

/-! ## Blanks are of no other class -/

namespace Text

theorem exists_range_of_inRanges {table : List (Nat × Nat)} {n : Nat}
    (h : inRanges table n = true) : ∃ r ∈ table, r.1 ≤ n ∧ n ≤ r.2 := by
  fun_induction inRanges table n with
  | case1 | case2 => cases h
  | case3 n low high rest hlow hhigh =>
    exact ⟨_, List.mem_cons_self, Nat.not_lt.1 hlow, hhigh⟩
  | case4 n low high rest hlow hhigh ih =>
    obtain ⟨r, hr, hn⟩ := ih h
    exact ⟨r, List.mem_cons_of_mem _ hr, hn⟩

/-- A code point of one table is not in another one whose ranges keep apart from its own. -/
theorem inRanges_eq_false_of_disjoint {table table' : List (Nat × Nat)} {n : Nat}
    (hdisjoint : ∀ r ∈ table, ∀ s ∈ table', r.2 < s.1 ∨ s.2 < r.1) (h : inRanges table n = true) :
    inRanges table' n = false := by
  refine Bool.eq_false_iff.2 fun h' ↦ ?_
  obtain ⟨r, hr, hrn⟩ := exists_range_of_inRanges h
  obtain ⟨s, hs, hsn⟩ := exists_range_of_inRanges h'
  have := hdisjoint r hr s hs
  omega

theorem isLetter_eq_false_of_isBlank {c : Char} (h : isBlank c = true) : isLetter c = false :=
  inRanges_eq_false_of_disjoint (by decide +kernel) h

theorem isNumeral_eq_false_of_isBlank {c : Char} (h : isBlank c = true) : isNumeral c = false :=
  inRanges_eq_false_of_disjoint (by decide +kernel) h

end Text

/-! ## Quoted text in front of another -/

namespace Quoted

theorem Body.piece_cons (c : Char) (written : List Char) (b : Body) :
    (b.cons c written).piece = written ++ b.piece :=
  List.append_assoc ..

/-- Behind a closing quote anything may stand. -/
theorem scan_append {after : List Char} (h : (scan after).ending = .closed) (rest : List Char) :
    scan ((scan after).piece ++ rest) = { scan after with rest } := by
  fun_induction scan after with
  | case1 | case3 | case5 => cases h
  | case2 => rfl
  | case4 letter after c hletter ih =>
    simp only [Body.piece_cons, List.cons_append, List.nil_append, scan, hletter, ih h]
    rfl
  | case6 c after hquote hend hslash ih =>
    have hc : c ≠ '\\' := by
      rintro rfl
      cases after with
      | nil => exact hend rfl rfl
      | cons letter after => exact hslash letter after rfl rfl
    rw [Body.piece_cons, List.append_assoc, List.singleton_append, scan, ih h]
    · rfl
    · exact hquote
    · exact fun h ↦ absurd h hc
    · exact fun _ _ h ↦ absurd h hc

end Quoted

namespace Lexer

open Text

/-- Moves everything from a position on by `size`, and nothing in front of it. -/
def shiftFrom (start size position : Nat) : Nat :=
  if start ≤ position then position + size else position

/-! ## The lexer at other positions -/

theorem scanString_add (position k : Nat) (after : List Char) :
    scanString (position + k) after = { scanString position after with
      item := (scanString position after).item.relocate (· + k) } := by
  simp only [scanString]
  split
  · rfl
  · rename_i letter hending
    have hback : position + k + 1 + byteLength (Quoted.scan after).before =
        position + 1 + byteLength (Quoted.scan after).before + k := by omega
    rw [hback]
    rfl
  · rfl

theorem scan_add (position k : Nat) (c : Char) (after : List Char) :
    scan (position + k) c after = { scan position c after with
      item := (scan position c after).item.relocate (· + k) } := by
  simp only [scan]
  split
  · rfl
  split
  · rfl
  split
  · exact scanString_add position k after
  split
  · rfl
  split
  · rfl
  · rfl

/-- **The lexer finds the same at every position.** -/
theorem itemsFrom_add (position k : Nat) (text : List Char) :
    itemsFrom (position + k) text = (itemsFrom position text).map (.relocate (· + k)) := by
  fun_induction itemsFrom position text with
  | case1 => rw [itemsFrom, List.map_nil]
  | case2 position c after hblank ih => rw [itemsFrom, if_pos hblank, ← ih, Nat.add_right_comm]
  | case3 position c after hblank found ih =>
    rw [itemsFrom, if_neg hblank, List.map_cons, ← ih, scan_add, Nat.add_right_comm]

/-- Blanks in front of a text move its items. -/
theorem itemsFrom_blanks_append {blanks : List Char} (h : ∀ d ∈ blanks, isBlank d = true)
    (position : Nat) (text : List Char) :
    itemsFrom position (blanks ++ text) = itemsFrom (position + byteLength blanks) text := by
  induction blanks generalizing position with
  | nil => rfl
  | cons d blanks ih =>
    rw [List.cons_append, itemsFrom, if_pos (h d List.mem_cons_self),
      ih fun e he ↦ h e (List.mem_cons_of_mem d he), byteLength, Nat.add_assoc]

/-! ## No token goes on over a blank -/

theorem continuesNumber_eq_false_of_isBlank {c : Char} (h : isBlank c = true) :
    continuesNumber c = false := by
  have hpoint : c ≠ '.' := by rintro rfl; cases h
  simp [continuesNumber, isLetter_eq_false_of_isBlank h, isNumeral_eq_false_of_isBlank h, hpoint]

theorem continuesWord_eq_false_of_isBlank {c : Char} (h : isBlank c = true) :
    continuesWord c = false := by
  simp [continuesWord, h]

theorem continuesSymbol_eq_false_of_isBlank {c : Char} (h : isBlank c = true) :
    continuesSymbol c = false := by
  simp [continuesSymbol, h]

/-! ## What is behind a token -/

/-- Whether a text may stand in place of another one behind a token: it begins with a blank, or as
that one does. -/
def StandsFor (text' text : List Char) : Prop :=
  ∀ d, text'.head? = some d → isBlank d = true ∨ text.head? = some d

theorem standsFor_insert {blanks : List Char} (h : ∀ d ∈ blanks, isBlank d = true)
    (front back : List Char) : StandsFor (front ++ blanks ++ back) (front ++ back) := by
  intro d hd
  match front, blanks with
  | _ :: _, _ | [], [] => exact .inr hd
  | [], _ :: _ =>
    cases hd
    exact .inl (h d List.mem_cons_self)

theorem StandsFor.ends {continues : Char → Bool} {text text' : List Char}
    (hblank : ∀ {d}, isBlank d = true → continues d = false)
    (h : StandsFor text' (text.dropWhile continues)) : Ends continues text' := by
  cases text' with
  | nil => trivial
  | cons d text' =>
    rcases h d rfl with hd | hd
    · exact hblank hd
    · exact head?_dropWhile hd

theorem scanRun_append {continues : Char → Bool} {after rest : List Char}
    (h : Ends continues rest) (kind : TokenKind) (position : Nat) (c : Char) :
    scanRun kind continues position c (after.takeWhile continues ++ rest) =
      { scanRun kind continues position c after with rest } := by
  have htake : (after.takeWhile continues ++ rest).takeWhile continues =
      after.takeWhile continues := by
    rw [List.takeWhile_append_of_pos fun d hd ↦ List.mem_takeWhile_imp hd, h.takeWhile_eq_nil,
      List.append_nil]
  have hdrop : (after.takeWhile continues ++ rest).dropWhile continues = rest := by
    rw [List.dropWhile_append_of_pos fun d hd ↦ List.mem_takeWhile_imp hd, h.dropWhile_eq_self]
  simp only [scanRun, htake, hdrop]

theorem scanString_append {position : Nat} {after rest : List Char}
    (h : (Quoted.scan after).ending = .closed) :
    scanString position ((Quoted.scan after).piece ++ rest) =
      { scanString position after with rest } := by
  rw [scanString, Quoted.scan_append h]
  rfl

/-- **A token depends on what is behind it by one character only**, and is found in front of any
text that may stand there. -/
theorem scan_append {position : Nat} {c : Char} {after rest : List Char} {t : PlacedToken}
    (htoken : (scan position c after).item = .token t)
    (hrest : StandsFor rest (scan position c after).rest) :
    scan position c ((scan position c after).piece.tail ++ rest) =
      { scan position c after with rest } := by
  by_cases hnumber : startsNumber c = true
  · simp only [scan, if_pos hnumber] at hrest ⊢
    exact scanRun_append (hrest.ends continuesNumber_eq_false_of_isBlank) ..
  by_cases hletter : isLetter c = true
  · simp only [scan, if_neg hnumber, if_pos hletter] at hrest ⊢
    exact scanRun_append (hrest.ends continuesWord_eq_false_of_isBlank) ..
  by_cases hquote : c = '\x22'
  · simp only [scan, if_neg hnumber, if_neg hletter, if_pos hquote] at htoken ⊢
    refine scanString_append ?_
    rw [scanString] at htoken
    cases hending : (Quoted.scan after).ending with
    | closed => rfl
    | unknownEscape | unterminated => simp [hending] at htoken
  by_cases hbracket : isBracket c = true
  · simp only [scan, if_neg hnumber, if_neg hletter, if_neg hquote, if_pos hbracket] at hrest ⊢
    exact scanRun_append (by cases rest <;> trivial) ..
  by_cases hnumeral : isNumeral c = true
  · simp [scan, hnumber, hletter, hquote, hbracket, hnumeral] at htoken
  · simp only [scan, if_neg hnumber, if_neg hletter, if_neg hquote, if_neg hbracket,
      if_neg hnumeral] at hrest ⊢
    exact scanRun_append (hrest.ends continuesSymbol_eq_false_of_isBlank) ..

/-- What a call finds: some blanks, and behind them what a scan finds. -/
theorem next?_eq_some_iff {c c' : Cursor} {i : Item} :
    next? c = some (i, c') ↔ ∃ gap first after, c.text = gap ++ first :: after ∧
      (∀ d ∈ gap, isBlank d = true) ∧ isBlank first = false ∧
      (scan (c.position + byteLength gap) first after).item = i ∧
      { position := c.position + byteLength gap +
          byteLength (scan (c.position + byteLength gap) first after).piece
        text := (scan (c.position + byteLength gap) first after).rest } = c' := by
  constructor
  · intro h
    rw [next?] at h
    split at h
    · cases h
    · rename_i first after hafter
      cases h
      have hhead : (c.text.dropWhile isBlank).head? = some first := by rw [hafter, List.head?_cons]
      refine ⟨c.text.takeWhile isBlank, first, after, ?_, fun d hd ↦ List.mem_takeWhile_imp hd,
        head?_dropWhile hhead, rfl, rfl⟩
      rw [← hafter, List.takeWhile_append_dropWhile]
  · rintro ⟨gap, first, after, htext, hgap, hfirst, rfl, rfl⟩
    have hends : Ends isBlank (first :: after) := hfirst
    rw [next?, htext, List.dropWhile_append_of_pos hgap, hends.dropWhile_eq_self,
      List.takeWhile_append_of_pos hgap, hends.takeWhile_eq_nil, List.append_nil]

/-- The next token is found in front of any text that may stand behind it. -/
theorem next?_append {c c' : Cursor} {t : PlacedToken} {taken rest : List Char}
    (h : next? c = some (.token t, c')) (htext : c.text = taken ++ c'.text)
    (hrest : StandsFor rest c'.text) :
    next? { c with text := taken ++ rest } = some (.token t, { c' with text := rest }) := by
  obtain ⟨gap, first, after, hc, hgap, hfirst, htoken, rfl⟩ := next?_eq_some_iff.1 h
  have hsame := scan_append htoken hrest
  have hpiece := piece_append_rest (c.position + byteLength gap) first after
  have hne := piece_ne_nil (c.position + byteLength gap) first after
  generalize scan (c.position + byteLength gap) first after = found at *
  obtain ⟨tail, htail⟩ : ∃ tail, found.piece = first :: tail := by
    rcases List.append_eq_cons_iff.1 hpiece with ⟨hnil, -⟩ | ⟨tail, htail, -⟩
    · exact absurd hnil hne
    · exact ⟨tail, htail⟩
  obtain rfl : gap ++ found.piece = taken := by
    rw [hc, ← hpiece, ← List.append_assoc] at htext
    exact List.append_cancel_right htext
  rw [htail, List.tail_cons] at hsame
  refine next?_eq_some_iff.2 ⟨gap, first, tail ++ rest, ?_, hgap, hfirst, ?_, ?_⟩
  · simp [htail]
  · rw [hsame]
    exact htoken
  · rw [hsame]

/-! ## Between tokens -/

/-- Whether the place between the texts `front` and `back`, which a lexer has to read one behind the
other, is between tokens: only blanks are in front of it, or it is such a place behind the next
token. -/
inductive Between : Cursor → List Char → List Char → Prop
  | gap {c : Cursor} {front back : List Char} (htext : c.text = front ++ back)
      (hblank : ∀ d ∈ front, isBlank d = true) : Between c front back
  | behind {c c' : Cursor} {i : Item} {taken front back : List Char} (h : next? c = some (i, c'))
      (htext : c.text = taken ++ c'.text) (hrest : Between c' front back) :
      Between c (taken ++ front) back

theorem Between.text_eq {c : Cursor} {front back : List Char} (h : Between c front back) :
    c.text = front ++ back := by
  induction h with
  | gap htext => exact htext
  | behind _ htext _ ih => rw [htext, ih, List.append_assoc]

/-- Whether the place is inside an item: the next item begins in front of it and ends behind it, or
it is such a place behind the next item. -/
inductive Inside : Cursor → List Char → List Char → Prop
  | within {c c' : Cursor} {i : Item} {front tail : List Char} (h : next? c = some (i, c'))
      (htext : c.text = front ++ (tail ++ c'.text)) (hfront : ∃ d ∈ front, isBlank d = false)
      (htail : tail ≠ []) : Inside c front (tail ++ c'.text)
  | behind {c c' : Cursor} {i : Item} {taken front back : List Char} (h : next? c = some (i, c'))
      (htext : c.text = taken ++ c'.text) (hrest : Inside c' front back) :
      Inside c (taken ++ front) back

/-- Every place of a text is between items or inside one. -/
theorem Calls.between_or_inside {c : Cursor} {items : List Item} (h : Calls c items)
    {front back : List Char} (htext : c.text = front ++ back) :
    Between c front back ∨ Inside c front back := by
  induction h generalizing front with
  | @finish c hnone =>
    refine .inl (.gap htext fun d hd ↦ isBlank_of_next?_eq_none hnone d ?_)
    rw [htext]
    exact List.mem_append_left back hd
  | @item c c' i items hsome hrest ih =>
    obtain ⟨s, -, htaken, -, -⟩ := exists_sound_of_next? hsome
    rcases List.append_eq_append_iff.1 (htaken.symm.trans htext) with
      ⟨front', rfl, hrestText⟩ | ⟨tail, hpiece, rfl⟩
    · exact (ih hrestText).imp (.behind hsome htaken) (.behind hsome htaken)
    · by_cases hblank : ∀ d ∈ front, isBlank d = true
      · exact .inl (.gap htext hblank)
      by_cases htail : tail = []
      · subst htail
        have hends : Between c (front ++ []) c'.text :=
          .behind hsome htext (.gap rfl fun d hd ↦ absurd hd List.not_mem_nil)
        rw [List.append_nil] at hends
        exact .inl hends
      · exact .inr (.within hsome htext (by simpa using hblank) htail)

/-- **Blanks between tokens change nothing but positions**: of the items from there on. -/
theorem Between.items_insert {c : Cursor} {front back blanks : List Char}
    (h : Between c front back) (hclean : ∀ e, .error e ∉ c.items)
    (hblanks : ∀ d ∈ blanks, isBlank d = true) :
    itemsFrom c.position (front ++ blanks ++ back) = c.items.map
      (.relocate (shiftFrom (c.position + byteLength front) (byteLength blanks))) := by
  induction h with
  | @gap c front back htext hfront =>
    have hitems : c.items = itemsFrom (c.position + byteLength front) back := by
      rw [Cursor.items, htext, itemsFrom_blanks_append hfront]
    rw [List.append_assoc, itemsFrom_blanks_append hfront, itemsFrom_blanks_append hblanks,
      itemsFrom_add, hitems]
    refine List.map_congr_left fun i hi ↦ Item.relocate_congr ?_
    have hposition := (calls_itemsFrom _ back).pairwise_position.1 i hi
    exact (if_pos hposition).symm
  | @behind c c' i taken front back hnext htext hrest ih =>
    have hitems := Cursor.items_of_some hnext
    cases i with
    | error e => exact absurd (by simp [hitems]) (hclean e)
    | token t =>
      obtain ⟨s, hs, hsegment, hposition, hsound⟩ := exists_sound_of_next? hnext
      obtain rfl : s.text = taken := List.append_cancel_right (hsegment.symm.trans htext)
      have hstands : StandsFor (front ++ blanks ++ back) c'.text := by
        rw [hrest.text_eq]
        exact standsFor_insert hblanks front back
      have hfound := Cursor.items_of_some (next?_append hnext htext hstands)
      have hlater := ih fun e he ↦ hclean e (by rw [hitems]; exact List.mem_cons_of_mem _ he)
      have hstart : c'.position + byteLength front = c.position + byteLength (s.text ++ front) := by
        rw [hposition, byteLength_append, Nat.add_assoc]
      have hstays : ¬ c.position + byteLength (s.text ++ front) ≤ t.position := by
        have hbefore : t.position < c.position + byteLength s.text := by
          have hmem := hsound.position_mem.2
          rwa [hs] at hmem
        rw [byteLength_append]
        omega
      rw [hitems, List.map_cons, ← hstart, ← hlater, hstart, Item.relocate, PlacedToken.relocate,
        shiftFrom, if_neg hstays, List.append_assoc, List.append_assoc, ← List.append_assoc front]
      exact hfound

end Lexer

end Formula
