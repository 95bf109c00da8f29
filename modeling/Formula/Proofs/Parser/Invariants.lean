import Formula.Proofs.Grammar
import Mathlib.Data.List.Chain

/-!
# What the tokens of a phrase have in common

Two things can be seen in the tokens of a phrase without parsing them: they are from the vocabulary
of the grammar, `Derives.all_inVocabulary`, and a word stands behind an opening parenthesis only as
the type of a cast, `Derives.isChain_follows`.  Tokens of which one of these fails are no phrase.
-/

set_option autoImplicit false

namespace Formula

/-! ## The vocabulary -/

namespace Token

/-- The symbols of the grammar. -/
def symbols : List String :=
  ["(", ")", "\x7b", "\x7d", "+"] ++ UnaryOp.all.map (·.symbol) ++ BinaryOp.all.map (·.symbol)

/-- Whether a token occurs in any phrase.  A word does as a value or as the type of a cast, and a
number if it is well formed. -/
def inVocabulary (t : Token) : Bool :=
  match t.kind with
  | .symbol => symbols.contains t.text
  | .word => ["true", "false", "null"].contains t.text || (ValueType.ofCastName? t.text).isSome
  | .number => (NumberLiteral.read? t.text.toList).isSome
  | .string => true

theorem inVocabulary_number (text : String) :
    (number text).inVocabulary = (NumberLiteral.read? text.toList).isSome := rfl

theorem inVocabulary_word (text : String) :
    (word text).inVocabulary =
      (["true", "false", "null"].contains text || (ValueType.ofCastName? text).isSome) := rfl

theorem inVocabulary_unaryOp (op : UnaryOp) : (symbol op.symbol).inVocabulary = true := by
  cases op <;> decide

theorem inVocabulary_binaryOp (op : BinaryOp) : (symbol op.symbol).inVocabulary = true := by
  cases op <;> decide

end Token

/-- The tokens of a phrase are from the vocabulary. -/
theorem Derives.all_inVocabulary {phrase : Phrase} {tokens : List Token} {e : Expr} {need : Nat}
    (h : Derives phrase tokens e need) : tokens.all Token.inVocabulary = true := by
  have hparens : (Token.symbol "(").inVocabulary = true ∧
      (Token.symbol ")").inVocabulary = true := by decide
  have hcurly : (Token.symbol "\x7b").inVocabulary = true ∧
      (Token.symbol "\x7d").inVocabulary = true := by decide
  induction h with
  | expression h ih | chain htier h ih | alone h ih | operand htier h ih | unary h ih
  | base h ih => exact ih
  | more hop hl hr ihl ihr | comparison htier hop hl hr ihl ihr =>
    simp [Token.inVocabulary_binaryOp, ihl, ihr]
  | operator h ih => simp [Token.inVocabulary_unaryOp, ih]
  | plus h ih =>
    have hplus : (Token.symbol "+").inVocabulary = true := by decide
    simp [hplus, ih]
  | truth b => cases b <;> decide
  | number hread => simp [Token.inVocabulary_number, hread]
  | string => rfl
  | null => decide
  | cast hname h ih => simp [Token.inVocabulary_word, hparens, hname, ih]
  | group hword h ih => simp [hparens, ih]
  | var hread => simp [Token.inVocabulary_number, hcurly, hread]

/-! ## Words behind parentheses -/

/-- Whether a token may follow another one in a phrase, as far as this is about words behind an
opening parenthesis. -/
def Follows (t next : Token) : Prop :=
  t = .symbol "(" → ∀ name, next = .word name → (ValueType.ofCastName? name).isSome = true

namespace Follows

variable {text : String} {t : Token} {front back tokens : List Token}

theorem of_ne (h : t ≠ .symbol "(") (next : Token) : Follows t next := fun ht ↦ absurd ht h

theorem symbol (t : Token) (text : String) : Follows t (.symbol text) := by
  rintro - name ⟨⟩

/-- Anything may follow a symbol that is no opening parenthesis. -/
theorem isChain_cons_symbol (htext : text ≠ "(") (h : tokens.IsChain Follows) :
    (Token.symbol text :: tokens).IsChain Follows :=
  h.cons fun next _ ↦ .of_ne (by simpa [Token.symbol] using htext) next

/-- A symbol may follow anything. -/
theorem isChain_append_symbol (hfront : front.IsChain Follows)
    (hback : (Token.symbol text :: back).IsChain Follows) :
    (front ++ Token.symbol text :: back).IsChain Follows := by
  refine hfront.append hback fun t _ next hnext ↦ ?_
  cases hnext
  exact .symbol t text

end Follows

/-- A word behind an opening parenthesis of a phrase is the type of a cast. -/
theorem Derives.isChain_follows {phrase : Phrase} {tokens : List Token} {e : Expr} {need : Nat}
    (h : Derives phrase tokens e need) : tokens.IsChain Follows := by
  induction h with
  | expression h ih | chain htier h ih | alone h ih | operand htier h ih | unary h ih
  | base h ih => exact ih
  | @more lower count op left right l r n m hop hl hr ihl ihr
  | @comparison lower op left right l r n m htier hop hl hr ihl ihr =>
    have hne : op.symbol ≠ "(" := by cases op <;> decide
    exact Follows.isChain_append_symbol ihl (Follows.isChain_cons_symbol hne ihr)
  | @operator op tokens e need h ih =>
    exact Follows.isChain_cons_symbol (by cases op <;> decide) ih
  | plus h ih => exact Follows.isChain_cons_symbol (by decide) ih
  | truth | number | string | null => exact .singleton _
  | @cast name type tokens e need hname h ih =>
    have hclose : (Token.symbol ")" :: tokens).IsChain Follows :=
      Follows.isChain_cons_symbol (by decide) ih
    refine (hclose.cons_cons (.symbol _ _)).cons_cons ?_
    rintro - name ⟨⟩
    rw [hname]
    rfl
  | @group tokens e need hword h ih =>
    refine (Follows.isChain_append_symbol ih (.singleton _)).cons fun next hnext ↦ ?_
    rintro - name rfl
    cases tokens with
    | nil => cases hnext
    | cons t tokens =>
      cases hnext
      exact absurd ⟨name, tokens, rfl⟩ hword
  | var =>
    exact Follows.isChain_cons_symbol (by decide)
      (Follows.isChain_append_symbol (.singleton _) (.singleton _))

end Formula
