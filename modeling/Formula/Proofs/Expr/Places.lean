import Formula.Proofs.Parser.FirstOffence
import Formula.Proofs.Token.Places

/-!
# Errors point at what they name

The position of an error counts the bytes in front of what the error is about.  What that is depends
on the error, and `ParseError.PointsInto` says it for each of them: a token that the lexer finds in
the source, the backslash of an escape that is none, a quote, a character, or the end.

An error is about an item of the source, or about its end, `exists_of_parse_eq_error`; and an item
stands where it is placed, `Lexer.standsAt_of_mem_items`.  So nothing is left to be said about the
parser here.
-/

set_option autoImplicit false

namespace Formula

open Text

/-- At a position a token begins that the lexer finds there. -/
def Lexer.TokenAt (source : String) (position : Nat) (t : Token) : Prop :=
  .token { token := t, position } ∈ Lexer.items source ∧ StandsAt source.toList position t.written

theorem Lexer.tokenAt_of_mem_items {source : String} {t : PlacedToken}
    (h : .token t ∈ Lexer.items source) : Lexer.TokenAt source t.position t.token :=
  ⟨h, Lexer.standsAt_of_mem_items h⟩

/-- What stands in a source at the position of an error. -/
def ParseError.PointsInto (source : String) : ParseError → Prop
  | lexical (.unrecognizedEscape letter p) => StandsAt source.toList p ['\\', letter] ∧
    letter ∉ ['\x27', '\x22', '\\', '0', 'a', 'b', 'f', 'n', 'r', 't', 'v']
  | lexical (.unterminatedString p) => StandsAt source.toList p ['\x22']
  | lexical (.unrecognizedCharacter c p) => StandsAt source.toList p [c]
  | unexpectedEnd p => p = source.utf8ByteSize ∧
    ((TokenStream.ofSource source).parse .expression).2.items = []
  | nestingTooDeep p => p = source.utf8ByteSize ∨ ∃ t, Lexer.TokenAt source p t
  | expectedToken _ found p | expectedExpression found p | unknownCastType found p
  | invalidNumber found p | invalidVariableIndex found p | unexpectedInput found p =>
    ∃ t, Lexer.TokenAt source p t ∧ t.text = found

/-- An error about a token points at one with the text that it names. -/
theorem ParseError.pointsInto_of_found? {source text : String} {error : ParseError} {t : Token}
    (hfound : error.found? = some text) (ht : Lexer.TokenAt source error.position t)
    (htext : t.text = text) : error.PointsInto source := by
  cases error with
  | lexical | unexpectedEnd | nestingTooDeep => cases hfound
  | expectedToken | expectedExpression | unknownCastType | invalidNumber | invalidVariableIndex
  | unexpectedInput =>
    cases hfound
    exact ⟨t, ht, htext⟩

theorem ParseError.pointsInto_lexical {source : String} {cause : LexError}
    (h : .error cause ∈ Lexer.items source) : (ParseError.lexical cause).PointsInto source := by
  have hstands := Lexer.standsAt_of_mem_items h
  cases cause with
  | unrecognizedEscape letter p =>
    exact ⟨hstands, Quoted.unescape?_eq_none_iff.1 (Lexer.unescape?_of_mem_items h)⟩
  | unterminatedString p => exact hstands
  | unrecognizedCharacter c p => exact hstands

namespace Expr

variable {source : String} {error : ParseError}

/-- Where the end is not expected, nothing remains. -/
theorem items_of_parse_eq_unexpectedEnd {p : Nat}
    (h : Expr.parse source = .error (.unexpectedEnd p)) :
    p = source.utf8ByteSize ∧ ((TokenStream.ofSource source).parse .expression).2.items = [] := by
  have hlocated := (Parser.located (.ofSource source) 0).2.2 (Lexer.items source)
  rw [parse_eq] at h
  rw [TokenStream.parse_ofSource]
  split at h
  · rename_i hfailed
    cases h
    rw [hfailed] at hlocated ⊢
    obtain ⟨_, _, _, hblames, _⟩ := hlocated
    cases hblames with
    | unexpectedEnd => exact ⟨(Lexer.utf8ByteSize_eq_byteLength source).symm, rfl⟩
    | token _ hfound => cases hfound
  all_goals cases h

theorem pointsInto_of_parse (h : Expr.parse source = .error error) : error.PointsInto source := by
  obtain ⟨tokens, culprit, rest, htakes, hblames, -, -, -⟩ := exists_of_parse_eq_error h
  have hmem : ∀ i ∈ culprit, i ∈ Lexer.items source := by
    obtain ⟨before, hitems, -⟩ := htakes.exists_placed
    intro i hi
    rw [hitems]
    exact List.mem_append_right _ hi
  cases hblames with
  | lexical cause => exact ParseError.pointsInto_lexical (hmem _ List.mem_cons_self)
  | unexpectedEnd => exact items_of_parse_eq_unexpectedEnd h
  | tooDeepAtEnd => exact .inl (Lexer.utf8ByteSize_eq_byteLength source).symm
  | tooDeep t =>
    exact .inr ⟨t.token, Lexer.tokenAt_of_mem_items (hmem _ List.mem_cons_self)⟩
  | @token _ t _ hfound hposition =>
    refine ParseError.pointsInto_of_found? hfound ?_ rfl
    rw [hposition]
    exact Lexer.tokenAt_of_mem_items (hmem _ List.mem_cons_self)

end Expr

/-- What an error points at lies in the source, between characters. -/
theorem ParseError.PointsInto.isValid {source : String} {error : ParseError}
    (h : error.PointsInto source) :
    error.position ≤ source.utf8ByteSize ∧
      (String.Pos.Raw.mk error.position).IsValid source := by
  have hend : source.utf8ByteSize ≤ source.utf8ByteSize ∧
      (String.Pos.Raw.mk source.utf8ByteSize).IsValid source := by
    refine ⟨Nat.le_refl _, ?_⟩
    rw [Lexer.utf8ByteSize_eq_byteLength]
    exact Lexer.isValid_byteLength (List.append_nil _).symm
  have hplace {p : Nat} {piece : List Char} (h : StandsAt source.toList p piece) :
      p ≤ source.utf8ByteSize ∧ (String.Pos.Raw.mk p).IsValid source :=
    ⟨Lexer.utf8ByteSize_eq_byteLength source ▸ h.le, h.isValid⟩
  match error, h with
  | .lexical (.unrecognizedEscape ..), h => exact hplace h.1
  | .lexical (.unterminatedString _), h => exact hplace h
  | .lexical (.unrecognizedCharacter ..), h => exact hplace h
  | .unexpectedEnd _, h => exact h.1 ▸ hend
  | .nestingTooDeep _, .inl h => exact h ▸ hend
  | .nestingTooDeep _, .inr ⟨_, h⟩ => exact hplace h.2
  | .expectedToken .., ⟨_, h, _⟩ | .expectedExpression .., ⟨_, h, _⟩
  | .unknownCastType .., ⟨_, h, _⟩ | .invalidNumber .., ⟨_, h, _⟩
  | .invalidVariableIndex .., ⟨_, h, _⟩ | .unexpectedInput .., ⟨_, h, _⟩ => exact hplace h.2

namespace Expr

/-- **Errors point at what they name.**  The position of an error lies in the source or at its end,
and between two characters.  There stands what the error is about: a token of the source with
the text that the error names, the backslash in front of a letter that makes no escape, the quote of
a string that does not end, a character that begins no token.  Where the end is not expected, the
position is the end, and nothing remains. -/
theorem error_pointsInto (source : String) (error : ParseError)
    (h : Expr.parse source = .error error) :
    error.position ≤ source.utf8ByteSize ∧
      (String.Pos.Raw.mk error.position).IsValid source ∧ error.PointsInto source := by
  have hpoints := pointsInto_of_parse h
  exact ⟨hpoints.isValid.1, hpoints.isValid.2, hpoints⟩

/-- In front of the escape stands a character of two bytes. -/
theorem error_pointsInto_escape :
    Expr.parse "\x22ü\\q\x22" = .error (.lexical (.unrecognizedEscape 'q' 3)) ∧
      StandsAt "\x22ü\\q\x22".toList 3 ['\\', 'q'] := by
  have hparse : Expr.parse "\x22ü\\q\x22" = .error (.lexical (.unrecognizedEscape 'q' 3)) := by cbv
  obtain ⟨-, -, hstands, -⟩ := error_pointsInto _ _ hparse
  exact ⟨hparse, hstands⟩

end Expr

end Formula
