import Formula.Proofs.Parser.Budget
import Formula.Proofs.Parser.Locality
import Formula.Proofs.Parser.Viability
import Formula.Proofs.Token.Partition
import Mathlib

/-!
# Errors are at the first token that cannot be

An error is reported where the text first cannot be an expression any more.  The tokens in front of
what the error is about could be the beginning of an expression; with the token that it is about
they could not.

The first half is `Parser.located`.  The second half needs no further induction over the grammar.
Suppose some more tokens behind the reported one made an expression.  The parser would take these
tokens whole or refuse them for their nesting, `Parser.parseLevel_of_derives`.  But the parser does
not see them, `Parser.local_parseLevel`, and fails at the reported token with the error that it has.

Lexical errors and nesting that is too deep are no matter of the grammar.  For them there is the
first half only.
-/

set_option autoImplicit false

namespace Formula

namespace Parser

variable {bounds : Bounds} {depth : Nat} {items rest : List Item} {tokens : List Token}
  {error : ParseError}

/-- The beginning of a phrase of a level can be continued so that the parser takes everything, or
fails because of its nesting. -/
theorem exists_continuation (level : Level) (bounds : Bounds) (depth : Nat)
    (placed : List PlacedToken) (h : Viable level.phrase (placed.map (·.token))) :
    ∃ later, (∃ e, parseLevel level bounds depth (placed.map .token ++ later) = .done e []) ∨
      (parseLevel level bounds depth (placed.map .token ++ later)).IsTooDeep := by
  obtain ⟨more, e, need, h⟩ := h
  have hmore : (more.map fun t ↦ ({ token := t, position := 0 } : PlacedToken)).map (·.token) =
      more := by
    simp [Function.comp_def]
  have htakes := (Takes.of_placed placed _).trans
    (Takes.of_placed (more.map fun t ↦ { token := t, position := 0 }) [])
  rw [hmore] at htakes
  rcases parseLevel_of_derives level bounds depth htakes h with ⟨hdone, -⟩ | ⟨hdeep, -⟩
  · exact ⟨_, .inl ⟨e, hdone⟩⟩
  · exact ⟨_, .inr hdeep⟩

/-- A token at which a level fails is not part of any phrase of the level that begins like this. -/
theorem not_viable_of_failed (level : Level) {spent : Nat} {t : PlacedToken}
    (hfailed : parseLevel level bounds spent items = .failed error rest depth)
    (hfound : error.found?.isSome = true) (htakes : Takes items tokens (.token t :: rest)) :
    ¬ Viable level.phrase (tokens ++ [t.token]) := by
  intro hviable
  obtain ⟨before, rfl, rfl⟩ := htakes.exists_placed
  obtain ⟨used, -, hitems, hsame⟩ := (local_parseLevel level bounds spent _).failed hfailed hfound
  obtain rfl : (before ++ [t]).map Item.token = used := by
    refine (List.append_left_inj rest).1 ?_
    simpa using hitems
  obtain ⟨later, ⟨e, hdone⟩ | ⟨position, rest', depth', hdeep⟩⟩ :=
    exists_continuation level bounds spent (before ++ [t]) (by simpa using hviable)
  · rw [hsame later] at hdone
    cases hdone
  · rw [hsame later] at hdeep
    cases hdeep
    cases hfound

/-- A token at which a level is done is not part of any phrase of the level that begins like
this. -/
theorem not_viable_of_done (level : Level) {t : PlacedToken} {e : Expr}
    (hdone : parseLevel level bounds depth items = .done e (.token t :: rest))
    (htakes : Takes items tokens (.token t :: rest)) :
    ¬ Viable level.phrase (tokens ++ [t.token]) := by
  intro hviable
  obtain ⟨before, rfl, rfl⟩ := htakes.exists_placed
  obtain ⟨used, hitems, hsame⟩ := (local_parseLevel level bounds depth _).done hdone
  obtain rfl : before.map Item.token = used := List.append_cancel_right hitems
  obtain ⟨later, h⟩ :=
    exists_continuation level bounds depth (before ++ [t]) (by simpa using hviable)
  have hlater := hsame (.token t :: later) rfl
  simp only [List.map_append, List.map_cons, List.map_nil, List.append_assoc,
    List.singleton_append, hlater] at h
  rcases h with ⟨e', ⟨⟩⟩ | hdeep
  exact Outcome.not_isTooDeep_done _ _ hdeep

/-- If the parser fails at the end of the items, they are no expression. -/
theorem not_derives_of_failed {e : Expr} {position need : Nat}
    (hfailed : parseExpression bounds 0 items = .failed (.unexpectedEnd position) rest depth)
    (htakes : Takes items tokens []) : ¬ Derives .expression tokens e need := by
  intro h
  rcases parseLevel_of_derives .expression bounds 0 htakes h with
    ⟨hdone, -⟩ | ⟨⟨_, _, _, hdeep⟩, -⟩
  · rw [parseLevel, hfailed] at hdone
    cases hdone
  · rw [parseLevel, hfailed] at hdeep
    cases hdeep

end Parser

/-! ## Errors of a source text -/

/-- What an error is about stands at the position that it names. -/
theorem Blames.position_eq {stop : Nat} {error : ParseError} {culprit rest : List Item}
    (h : Blames stop error culprit rest) :
    error.position = culprit.head?.elim stop Item.position := by
  cases h with
  | lexical | unexpectedEnd | tooDeepAtEnd | tooDeep => rfl
  | token rest hfound hposition => exact hposition

namespace Expr

/-- Why a text is no expression, from what the parser makes of its items. -/
theorem exists_of_parse_eq_error {source : String} {error : ParseError}
    (h : Expr.parse source = .error error) :
    ∃ tokens culprit rest, Takes (Lexer.items source) tokens culprit ∧
      Blames (Text.byteLength source.toList) error culprit rest ∧ Viable .expression tokens ∧
      (∀ p, error = .unexpectedEnd p → ¬ ∃ e need, Derives .expression tokens e need) ∧
      ∀ text, error.found? = some text → ∃ t, culprit = .token t :: rest ∧ t.token.text = text ∧
        ¬ Viable .expression (tokens ++ [t.token]) := by
  have hlocated := (Parser.located (.ofSource source) 0).2.2 (Lexer.items source)
  have hsound := (Parser.sound (.ofSource source) 0).2.2 (Lexer.items source)
  rw [Expr.parse_eq] at h
  split at h
  · rename_i hfailed
    cases h
    rw [hfailed] at hlocated
    obtain ⟨tokens, culprit, htakes, hblames, hviable⟩ := hlocated
    refine ⟨tokens, culprit, _, htakes, hblames, hviable, ?_, fun text htext ↦ ?_⟩
    · rintro p rfl ⟨e, need, hderives⟩
      cases hblames with
      | unexpectedEnd => exact Parser.not_derives_of_failed hfailed htakes hderives
      | token _ hfound => cases hfound
    · cases hblames with
      | lexical | unexpectedEnd | tooDeepAtEnd | tooDeep => cases htext
      | @token _ t rest hfound hposition =>
        have htext : t.token.text = text := by simpa [hfound] using htext
        exact ⟨t, rfl, htext,
          Parser.not_viable_of_failed .expression hfailed (by simp [hfound]) htakes⟩
  · cases h
  · rename_i e cause rest hdone
    cases h
    rw [hdone] at hsound
    obtain ⟨tokens, need, htakes, hderives, -⟩ := hsound
    refine ⟨tokens, _, rest, htakes, .lexical cause rest, .of_derives hderives, ?_, ?_⟩
    · rintro p ⟨⟩
    · rintro text ⟨⟩
  · rename_i e t rest hdone
    cases h
    rw [hdone] at hsound
    obtain ⟨tokens, need, htakes, hderives, -⟩ := hsound
    refine ⟨tokens, _, rest, htakes, .token rest rfl rfl, .of_derives hderives, ?_, ?_⟩
    · rintro p ⟨⟩
    · rintro text ⟨⟩
      exact ⟨t, rfl, rfl, Parser.not_viable_of_done .expression hdone htakes⟩

/-- **Errors are reported at the first offending token.**  The tokens in front of the item that an
error is about are those placed before the position that it names, and could be the beginning of an
expression, whatever nesting it needs.  If the error is that the text ends, they are no expression;
and if it is about a token, no expression begins with them and this token. -/
theorem error_at_first_offence (source : String) (error : ParseError)
    (h : Expr.parse source = .error error) :
    ∃ (before : List PlacedToken) (culprit rest : List Item),
      Lexer.items source = before.map .token ++ culprit ∧
      Blames (Text.byteLength source.toList) error culprit rest ∧
      (∀ t ∈ before, t.position < error.position) ∧
      (∀ i ∈ culprit, error.position ≤ i.position) ∧
      Viable .expression (before.map (·.token)) ∧
      (∀ p, error = .unexpectedEnd p →
        ¬ ∃ e need, Derives .expression (before.map (·.token)) e need) ∧
      ∀ text, error.found? = some text → ∃ t, culprit = .token t :: rest ∧ t.token.text = text ∧
        ¬ Viable .expression (before.map (·.token) ++ [t.token]) := by
  obtain ⟨tokens, culprit, rest, htakes, hblames, hviable, hend, hfound⟩ :=
    exists_of_parse_eq_error h
  obtain ⟨before, hitems, rfl⟩ := htakes.exists_placed
  have hpairwise := Lexer.pairwise_position_items source
  rw [hitems] at hpairwise
  obtain ⟨-, hculprit, hbetween⟩ := List.pairwise_append.1 hpairwise
  refine ⟨before, culprit, rest, hitems, hblames, fun t ht ↦ ?_, fun i hi ↦ ?_, hviable, hend,
    hfound⟩
  · rw [hblames.position_eq]
    have hmem : Item.token t ∈ before.map Item.token := List.mem_map_of_mem ht
    cases culprit with
    | nil =>
      refine Lexer.position_lt_of_mem_items (i := .token t) ?_
      rw [hitems]
      exact List.mem_append_left _ hmem
    | cons item culprit => exact hbetween _ hmem item List.mem_cons_self
  · rw [hblames.position_eq]
    cases culprit with
    | nil => cases hi
    | cons item culprit =>
      rcases List.mem_cons.1 hi with rfl | hi
      · exact Nat.le_refl _
      · exact Nat.le_of_lt ((List.pairwise_cons.1 hculprit).1 i hi)

/-- An operand is missing in front of a closing parenthesis. -/
theorem error_at_first_offence_paren :
    Expr.parse "(1 + )" = .error (.expectedExpression ")" 5) ∧
      ∃ (before : List PlacedToken) (t : PlacedToken) (rest : List Item),
        Lexer.items "(1 + )" = before.map .token ++ .token t :: rest ∧ t.token.text = ")" ∧
        Viable .expression (before.map (·.token)) ∧
        ¬ Viable .expression (before.map (·.token) ++ [t.token]) := by
  have hparse : Expr.parse "(1 + )" = .error (.expectedExpression ")" 5) := by cbv
  obtain ⟨before, culprit, rest, hitems, -, -, -, hviable, -, hfound⟩ :=
    error_at_first_offence _ _ hparse
  obtain ⟨t, rfl, htext, hnot⟩ := hfound ")" rfl
  exact ⟨hparse, before, t, rest, hitems, htext, hviable, hnot⟩

end Expr

end Formula
