import Formula.Proofs.Ascii
import Formula.Proofs.Items

/-!
# Texts that are read token by token

`Reads text tokens rest` says that the lexer, at any position, finds the given tokens in a text and
goes on with what follows it.  Whether it does depends on `rest`: a number, a word or a symbol ends
only where the next character does not continue it, which is `Ends`.

There is one lemma for each kind of token, and `Reads.append` puts texts together.  The characters
of a text are known in all uses, or known to be digits, so that the classes of characters are only
ever asked about ASCII.
-/

set_option autoImplicit false

namespace Formula.Lexer

open Text

/-- What a digit is to the lexer. -/
theorem classes_of_isDigit {c : Char} (h : c.isDigit = true) :
    isBlank c = false ∧ startsNumber c = true ∧ continuesNumber c = true ∧
      continuesSymbol c = false :=
  forall_isDigit (p := fun c ↦ isBlank c = false ∧ startsNumber c = true ∧
    continuesNumber c = true ∧ continuesSymbol c = false) (by decide) h

/-! ## Reading a text in front of another -/

/-- Whether a token that goes on over the characters of a class ends before a text. -/
def Ends (continues : Char → Bool) : List Char → Prop
  | [] => True
  | c :: _ => continues c = false

theorem Ends.takeWhile_eq_nil {continues : Char → Bool} {rest : List Char}
    (h : Ends continues rest) : rest.takeWhile continues = [] := by
  cases rest with
  | nil => rfl
  | cons c rest => rw [List.takeWhile_cons, show continues c = false from h]; rfl

theorem Ends.dropWhile_eq_self {continues : Char → Bool} {rest : List Char}
    (h : Ends continues rest) : rest.dropWhile continues = rest := by
  cases rest with
  | nil => rfl
  | cons c rest => rw [List.dropWhile_cons, show continues c = false from h]; rfl

/-- The lexer finds the tokens `tokens` in `text` and goes on with `rest`. -/
def Reads (text : List Char) (tokens : List Token) (rest : List Char) : Prop :=
  ∀ position, Takes (itemsFrom position (text ++ rest)) tokens
    (itemsFrom (position + byteLength text) rest)

namespace Reads

variable {text text' rest : List Char} {tokens tokens' : List Token}

theorem nil (rest : List Char) : Reads [] [] rest := fun _ ↦ .nil _

theorem append (h : Reads text tokens (text' ++ rest)) (h' : Reads text' tokens' rest) :
    Reads (text ++ text') (tokens ++ tokens') rest := by
  intro position
  rw [List.append_assoc, byteLength_append, ← Nat.add_assoc]
  exact (h position).trans (h' _)

/-- The other way round, where the text is put together from its end. -/
theorem after (h' : Reads text' tokens' rest) (h : Reads text tokens (text' ++ rest)) :
    Reads (text ++ text') (tokens ++ tokens') rest := h.append h'

/-- A blank leaves no token. -/
theorem blank {c : Char} (h : isBlank c = true) (rest : List Char) : Reads [c] [] rest := by
  intro position
  rw [List.cons_append, List.nil_append, itemsFrom, if_pos h]
  exact .nil _

/-- A text that is one token. -/
theorem of_scan {c : Char} {t : Token} (hblank : isBlank c = false)
    (hscan : ∀ position, ∃ found, scan position c (text ++ rest) = found ∧
      found.item = .token { token := t, position } ∧ found.piece = c :: text ∧ found.rest = rest) :
    Reads (c :: text) [t] rest := by
  intro position
  obtain ⟨found, hfound, hitem, hpiece, hrest⟩ := hscan position
  rw [List.cons_append, itemsFrom, if_neg (by simp [hblank])]
  simp only [hfound, hitem, hpiece, hrest]
  exact .single _ _

/-- A text that is one run of characters. -/
theorem of_scanRun {c : Char} {kind : TokenKind} {continues : Char → Bool}
    (hblank : isBlank c = false)
    (hscan : ∀ position after,
      scan position c after = scanRun kind continues position c after)
    (htext : ∀ d ∈ text, continues d = true) (hends : Ends continues rest) :
    Reads (c :: text) [{ kind, text := String.ofList (c :: text) }] rest := by
  refine of_scan hblank fun position ↦ ⟨_, hscan position _, ?_⟩
  have htake : (text ++ rest).takeWhile continues = text := by
    rw [List.takeWhile_append_of_pos htext, hends.takeWhile_eq_nil, List.append_nil]
  have hdrop : (text ++ rest).dropWhile continues = rest := by
    rw [List.dropWhile_append_of_pos htext, hends.dropWhile_eq_self]
  simp only [scanRun, htake, hdrop, and_self]

/-! ## One lemma for each kind of token -/

/-- A bracket is a symbol of its own. -/
theorem bracket {c : Char} (h : isBracket c = true) (rest : List Char) :
    Reads [c] [.symbol (String.singleton c)] rest := by
  have hcases : c = '(' ∨ c = ')' ∨ c = '\x7b' ∨ c = '\x7d' := by
    simpa [isBracket, or_assoc] using h
  have hblank : isBlank c = false := by
    rcases hcases with rfl | rfl | rfl | rfl <;> decide
  have hends : Ends (fun _ ↦ false) rest := by cases rest <;> trivial
  refine of_scanRun hblank (fun position after ↦ ?_) (by simp) hends
  rcases hcases with rfl | rfl | rfl | rfl <;> rfl

theorem openParen (rest : List Char) : Reads ['('] [.symbol "("] rest := bracket (by decide) rest

theorem closeParen (rest : List Char) : Reads [')'] [.symbol ")"] rest := bracket (by decide) rest

theorem space (rest : List Char) : Reads [' '] [] rest := blank (by decide) rest

/-- A number that begins with a digit. -/
theorem number {c : Char} (hc : c.isDigit = true)
    (htext : ∀ d ∈ text, continuesNumber d = true) (hends : Ends continuesNumber rest) :
    Reads (c :: text) [.number (String.ofList (c :: text))] rest := by
  obtain ⟨hblank, hstarts, -, -⟩ := classes_of_isDigit hc
  refine of_scanRun hblank (fun position after ↦ ?_) htext hends
  rw [scan, if_pos hstarts]

/-- A word. -/
theorem word {c : Char} (hblank : isBlank c = false) (hnumber : startsNumber c = false)
    (hc : isLetter c = true) (htext : ∀ d ∈ text, continuesWord d = true)
    (hends : Ends continuesWord rest) :
    Reads (c :: text) [.word (String.ofList (c :: text))] rest := by
  refine of_scanRun hblank (fun position after ↦ ?_) htext hends
  rw [scan, if_neg (by simp [hnumber]), if_pos hc]

/-- A symbol of one or more characters. -/
theorem symbol {c : Char} (hnumber : startsNumber c = false) (hc : continuesSymbol c = true)
    (htext : ∀ d ∈ text, continuesSymbol d = true) (hends : Ends continuesSymbol rest) :
    Reads (c :: text) [.symbol (String.ofList (c :: text))] rest := by
  simp only [continuesSymbol, Bool.and_eq_true, Bool.not_eq_true', bne_iff_ne] at hc
  obtain ⟨⟨⟨⟨hblank, hletter⟩, hnumeral⟩, hbracket⟩, hquote⟩ := hc
  refine of_scanRun hblank (fun position after ↦ ?_) htext hends
  rw [scan, if_neg (by simp [hnumber]), if_neg (by simp [hletter]), if_neg hquote,
    if_neg (by simp [hbracket]), if_neg (by simp [hnumeral])]

/-- A quoted text. -/
theorem quoted (contents : String) (rest : List Char) :
    Reads (Quoted.write contents).toList [.string contents] rest := by
  rw [Quoted.write, String.toList_ofList]
  refine of_scan (by decide) fun position ↦ ⟨scanString position _, rfl, ?_⟩
  rw [List.append_assoc, List.singleton_append, scanString, Quoted.scan_encode]
  refine ⟨?_, rfl, rfl⟩
  simp only [String.ofList_toList]
  rfl

/-! ## Words, operators and spaced tokens -/

/-- A word whose characters are letters. -/
theorem letters {word : String} (hne : word.toList ≠ [])
    (hchars : word.toList.all (fun c ↦ !isBlank c && !startsNumber c && isLetter c &&
      continuesWord c) = true)
    (hends : Ends continuesWord rest) : Reads word.toList [.word word] rest := by
  have hword := String.ofList_toList (s := word)
  simp only [List.all_eq_true, Bool.and_eq_true, Bool.not_eq_true'] at hchars
  cases hall : word.toList with
  | nil => exact absurd hall hne
  | cons c text =>
    rw [hall] at hword hchars
    rw [← hword]
    obtain ⟨⟨⟨hblank, hnumber⟩, hletter⟩, -⟩ := hchars c (by simp)
    exact .word hblank hnumber hletter (fun d hd ↦ (hchars d (by simp [hd])).2) hends

theorem castName (t : ValueType) (hends : Ends continuesWord rest) :
    Reads t.castName.toList [.word t.castName] rest :=
  letters (by cases t <;> decide) (by cases t <;> decide) hends

theorem operatorSymbol {symbol : String} (hne : symbol.toList ≠ [])
    (hchars : symbol.toList.all (fun c ↦ !startsNumber c && continuesSymbol c) = true)
    (hends : Ends continuesSymbol rest) : Reads symbol.toList [.symbol symbol] rest := by
  have hsymbol := String.ofList_toList (s := symbol)
  simp only [List.all_eq_true, Bool.and_eq_true, Bool.not_eq_true'] at hchars
  cases hall : symbol.toList with
  | nil => exact absurd hall hne
  | cons c text =>
    rw [hall] at hsymbol hchars
    rw [← hsymbol]
    exact .symbol (hchars c (by simp)).1 (hchars c (by simp)).2
      (fun d hd ↦ (hchars d (by simp [hd])).2) hends

theorem binaryOp (op : BinaryOp) (hends : Ends continuesSymbol rest) :
    Reads op.symbol.toList [.symbol op.symbol] rest :=
  operatorSymbol (by cases op <;> decide) (by cases op <;> decide) hends

theorem unaryOp (op : UnaryOp) (hends : Ends continuesSymbol rest) :
    Reads op.symbol.toList [.symbol op.symbol] rest :=
  operatorSymbol (by cases op <;> decide) (by cases op <;> decide) hends

/-- Tokens that are read back in front of a blank, each with a blank behind it. -/
theorem spaced (h : ∀ t ∈ tokens, ∀ rest, Reads t.text.toList [t] (' ' :: rest))
    (rest : List Char) : Reads (tokens.flatMap fun t ↦ t.text.toList ++ [' ']) tokens rest := by
  induction tokens with
  | nil => exact .nil rest
  | cons t tokens ih =>
    have htail := ih fun t' ht' ↦ h t' (List.mem_cons_of_mem t ht')
    have hhead := (h t List.mem_cons_self _).append
      (blank (by decide) (tokens.flatMap (fun t ↦ t.text.toList ++ [' ']) ++ rest))
    exact hhead.append htail

/-- A whole text that is read as tokens. -/
theorem takes {source : String} (h : Reads source.toList tokens []) :
    Takes (items source) tokens [] := by
  have := h 0
  rwa [List.append_nil, itemsFrom] at this

end Reads

/-! ## Number tokens -/

theorem head_of_scan {position : Nat} {c : Char} {after : List Char} {t : PlacedToken}
    (h : (scan position c after).item = .token t) (hkind : t.token.kind = .number) :
    ∃ c rest, t.token.text.toList = c :: rest ∧ startsNumber c = true := by
  rw [scan] at h
  split at h
  · rename_i hstarts
    cases h
    exact ⟨c, _, String.toList_ofList, hstarts⟩
  split at h
  · cases h
    cases hkind
  split at h
  · simp only [scanString] at h
    split at h <;> cases h
    cases hkind
  split at h
  · cases h
    cases hkind
  split at h <;> cases h
  cases hkind

/-- The text of a number token begins like a number. -/
theorem head_of_mem_itemsFrom {position : Nat} {text : List Char} {t : PlacedToken}
    (h : .token t ∈ itemsFrom position text) (hkind : t.token.kind = .number) :
    ∃ c rest, t.token.text.toList = c :: rest ∧ startsNumber c = true := by
  fun_induction itemsFrom position text with
  | case1 => cases h
  | case2 position c after hblank ih => exact ih h
  | case3 position c after hblank found ih =>
    rcases List.mem_cons.1 h with heq | h
    · exact head_of_scan heq.symm hkind
    · exact ih h

end Formula.Lexer
