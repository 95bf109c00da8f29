import Formula.Proofs.Lexer
import Formula.Proofs.Value.ReadBack

/-!
# The tokens of a rendered expression

`Expr.render` writes an expression as a text, and `Expr.tokens` are the tokens that the lexer finds
in that text: `Expr.reads_render`.  They are the ones that the text suggests, with one exception.
Where a literal begins with a minus sign and a prefix operator stands in front of it, the lexer
takes the operator and the sign for one symbol.

Nothing is assumed of the expression: there are tokens for its text whether or not they can be
parsed.  The text may be followed by what a rendered expression is followed by in another one: a
blank, a closing parenthesis, or nothing, which is a `Boundary`.
-/

set_option autoImplicit false

namespace Formula

/-! ## Boundaries -/

namespace Lexer

/-- What may follow a rendered expression. -/
def Boundary : List Char → Prop
  | [] => True
  | c :: _ => c = ' ' ∨ c = ')'

namespace Boundary

variable {rest : List Char}

/-- No token goes on over a boundary. -/
theorem ends {continues : Char → Bool} (h : Boundary rest) (hblank : continues ' ' = false)
    (hparen : continues ')' = false) : Ends continues rest := by
  cases rest with
  | nil => trivial
  | cons c rest =>
    rcases h with rfl | rfl
    · exact hblank
    · exact hparen

theorem space (rest : List Char) : Boundary ([' '] ++ rest) := Or.inl rfl

theorem paren (rest : List Char) : Boundary ([')'] ++ rest) := Or.inr rfl

theorem number (h : Boundary rest) : Ends continuesNumber rest :=
  h.ends (by decide) (by decide)

theorem word (h : Boundary rest) : Ends continuesWord rest :=
  h.ends (by decide) (by decide)

end Boundary

end Lexer

open Lexer

/-! ## Values -/

namespace Value

/-- The bodies that are words. -/
def words : List String := ["null", "true", "false", "NaNf", "inff", "NaNd", "infd"]

/-- What follows the digits of a number. -/
def suffixes : List (List Char) := [[], ['L'], ['f'], ['d'], ['m']]

/-- The three forms that the body of a literal has, and the token that each is. -/
inductive Body : List Char → Token → Prop
  | word {text : String} (h : text ∈ words) : Body text.toList (.word text)
  | quoted (text : String) : Body (Quoted.write text).toList (.string text)
  | number {digits suffix : List Char} (hdigits : Digits.Plain digits)
      (hsuffix : suffix ∈ suffixes) :
      Body (digits ++ suffix) (.number (String.ofList (digits ++ suffix)))

/-- The token of a body.  Where a binary number is not finite, it is the name that is written for
it. -/
def leaf (v : Value) : Token :=
  match v with
  | string text => .string text
  | null | boolean _ | single .nan | double .nan | single (.infinity _) | double (.infinity _) =>
    .word (String.ofList v.body)
  | _ => .number (String.ofList v.body)

/-- The body of a literal has one of the three forms. -/
theorem body_leaf (v : Value) : Body v.body v.leaf := by
  have hword : ∀ text ∈ words, Body text.toList (.word (String.ofList text.toList)) := by
    intro text htext
    rw [String.ofList_toList]
    exact .word htext
  have hdigits : ∀ n, Body (Digits.write n) (.number (String.ofList (Digits.write n))) := by
    intro n
    simpa using Body.number (Digits.plain_write n) (show [] ∈ suffixes by decide)
  cases v with
  | null => exact hword "null" (by decide)
  | boolean b => exact hword (truthText b) (by cases b <;> decide)
  | string text => exact .quoted text
  | byte | int16 | int32 => exact hdigits _
  | int64 n => exact .number (Digits.plain_write n.toInt.natAbs) (by decide)
  | single x =>
    cases x with
    | nan => exact hword "NaNf" (by decide)
    | infinity negative =>
      have htext : (single (.infinity negative)).body = "inff".toList := by decide +revert
      rw [leaf, htext]
      exact hword "inff" (by decide)
    | finite negative units fits =>
      exact .number (Floating.text_eq units fits ▸ Floating.plain_digits units fits) (by decide)
  | double x =>
    cases x with
    | nan => exact hword "NaNd" (by decide)
    | infinity negative =>
      have htext : (double (.infinity negative)).body = "infd".toList := by decide +revert
      rw [leaf, htext]
      exact hword "infd" (by decide)
    | finite negative units fits =>
      exact .number (Floating.text_eq units fits ▸ Floating.plain_digits units fits) (by decide)
  | decimal d =>
    exact .number (d.toList_text_withSign ▸ Digits.plain_fixed d.mantissa d.scale) (by decide)

namespace Body

variable {text rest : List Char} {t : Token}

/-- The body of a literal is one token. -/
theorem reads (h : Body text t) (hrest : Boundary rest) : Reads text [t] rest := by
  cases h with
  | @word text hword =>
    have hchars : ∀ text ∈ words, text.toList ≠ [] ∧ text.toList.all (fun c ↦
        !Text.isBlank c && !startsNumber c && Text.isLetter c && continuesWord c) = true := by
      decide
    exact .letters (hchars text hword).1 (hchars text hword).2 hrest.word
  | quoted text => exact .quoted text rest
  | @number digits suffix hdigits hsuffix =>
    have hsuffixes : ∀ suffix ∈ suffixes, suffix.all continuesNumber = true := by decide
    have hcontinues : ∀ c ∈ digits ++ suffix, continuesNumber c = true := by
      intro c hc
      rcases List.mem_append.1 hc with hc | hc
      · rcases hdigits.mem hc with hc | rfl
        · exact (classes_of_isDigit hc).2.2.1
        · decide
      · exact List.all_eq_true.1 (hsuffixes suffix hsuffix) c hc
    cases digits with
    | nil => exact hdigits.elim
    | cons c digits =>
      exact .number hdigits.1 (fun d hd ↦ hcontinues d (List.mem_cons_of_mem c hd)) hrest.number

/-- A symbol ends before the body of a literal. -/
theorem ends (h : Body text t) (rest : List Char) : Ends continuesSymbol (text ++ rest) := by
  cases h with
  | @word text hword =>
    have hhead : ∀ text ∈ words, text.toList.head?.any (fun c ↦ !continuesSymbol c) = true := by
      decide
    have := hhead text hword
    cases hall : text.toList with
    | nil => simp [hall] at this
    | cons c text =>
      rw [List.cons_append, Ends]
      simpa [hall] using this
  | quoted text =>
    rw [Quoted.write, String.toList_ofList]
    exact (by decide : continuesSymbol '\x22' = false)
  | @number digits suffix hdigits hsuffix =>
    cases digits with
    | nil => exact hdigits.elim
    | cons c digits => exact (classes_of_isDigit hdigits.1).2.2.2

end Body

/-- The tokens of the cast that a literal begins with. -/
def castTokens (v : Value) : List Token :=
  match v.narrow? with
  | some t => [.symbol "(", .word t.castName, .symbol ")"]
  | none => []

/-- The token of the sign of a literal. -/
def signTokens (v : Value) : List Token := if v.isSigned then [.symbol "-"] else []

/-- The tokens of a literal. -/
def tokens (v : Value) : List Token := v.castTokens ++ (v.signTokens ++ [v.leaf])

/-- The cast to a type, with the blank behind it. -/
theorem reads_cast (t : ValueType) (rest : List Char) :
    Reads (['('] ++ (t.castName.toList ++ ([')'] ++ [' '])))
      [.symbol "(", .word t.castName, .symbol ")"] rest := by
  have hclose := (Reads.space rest).after (.closeParen _)
  have hname := hclose.after (.castName t (by decide : continuesWord ')' = false))
  exact hname.after (.openParen _)

/-- The sign of a literal and its body. -/
theorem reads_signed (v : Value) {rest : List Char} (hrest : Boundary rest) :
    Reads (v.signText ++ v.body) (v.signTokens ++ [v.leaf]) rest := by
  have hbody : Reads v.body [v.leaf] rest := v.body_leaf.reads hrest
  rw [signText, signTokens]
  split
  · exact (Reads.unaryOp .negate (v.body_leaf.ends rest)).append hbody
  · exact hbody

theorem reads_literal (v : Value) {rest : List Char} (hrest : Boundary rest) :
    Reads v.literal.toList v.tokens rest := by
  have hsigned : Reads (v.signText ++ v.body) (v.signTokens ++ [v.leaf]) rest :=
    v.reads_signed hrest
  rw [toList_literal, castText, tokens, castTokens]
  cases v.narrow? with
  | some t => exact (reads_cast t _).append hsigned
  | none => exact hsigned

end Value

/-! ## Expressions -/

namespace Expr

/-- Whether the text of an expression begins with a minus sign. -/
def isMinus : Expr → Bool
  | const v => v.narrow?.isNone && v.isSigned
  | _ => false

/-- The tokens of a rendered expression. -/
def tokens : Expr → List Token
  | const v => v.tokens
  | var i => [.symbol "\x7b", .number (String.ofList (Digits.write i)), .symbol "\x7d"]
  | unary op e =>
    .symbol "(" ::
      ((if e.isMinus then .symbol (op.symbol ++ "-") :: e.tokens.tail
        else .symbol op.symbol :: e.tokens) ++ [.symbol ")"])
  | binary op l r => .symbol "(" :: (l.tokens ++ .symbol op.symbol :: (r.tokens ++ [.symbol ")"]))
  | cast t e =>
    .symbol "(" :: .symbol "(" :: .word t.castName :: .symbol ")" :: (e.tokens ++ [.symbol ")"])

variable {e : Expr} {rest : List Char}

/-- Only a constant with a sign and without a cast begins with a minus sign. -/
theorem exists_of_isMinus (h : e.isMinus = true) :
    ∃ v, e = const v ∧ v.narrow? = none ∧ v.isSigned = true := by
  cases e with
  | const v => exact ⟨v, rfl, by simpa [isMinus] using h⟩
  | var | unary | binary | cast => cases h

/-! ## The text of each kind of expression -/

theorem toList_render_var (i : Nat) :
    (var i).render.toList = ['\x7b'] ++ (Digits.write i ++ ['\x7d']) := by
  simp [render, String.toList_append]

theorem toList_render_unary (op : UnaryOp) (e : Expr) :
    (unary op e).render.toList = ['('] ++ ((op.symbol.toList ++ e.render.toList) ++ [')']) := by
  simp [render, String.toList_append]

theorem toList_render_binary (op : BinaryOp) (l r : Expr) :
    (binary op l r).render.toList =
      ['('] ++ (l.render.toList ++ ([' '] ++ (op.symbol.toList ++
        ([' '] ++ (r.render.toList ++ [')']))))) := by
  simp [render, String.toList_append]

theorem toList_render_cast (t : ValueType) (e : Expr) :
    (cast t e).render.toList =
      ['('] ++ ((['('] ++ (t.castName.toList ++ ([')'] ++ [' ']))) ++
        (e.render.toList ++ [')'])) := by
  simp [render, String.toList_append]

/-- A symbol ends before a rendered expression, unless that begins with a minus sign. -/
theorem ends_render (hminus : e.isMinus = false) (rest : List Char) :
    Ends continuesSymbol (e.render.toList ++ rest) := by
  cases e with
  | const v =>
    rw [render, Value.toList_literal, Value.castText, List.append_assoc]
    split
    · exact (by decide : continuesSymbol '(' = false)
    · rename_i hnarrow
      have hsign : v.isSigned = false := by simpa [isMinus, hnarrow] using hminus
      rw [Value.signText, hsign]
      exact v.body_leaf.ends rest
  | var i =>
    rw [toList_render_var]
    exact (by decide : continuesSymbol '\x7b' = false)
  | unary op e =>
    rw [toList_render_unary]
    exact (by decide : continuesSymbol '(' = false)
  | binary op l r =>
    rw [toList_render_binary]
    exact (by decide : continuesSymbol '(' = false)
  | cast t e =>
    rw [toList_render_cast]
    exact (by decide : continuesSymbol '(' = false)

/-- A literal with a sign behind a prefix operator: the operator and the sign are one symbol. -/
theorem reads_unary_minus {v : Value} (op : UnaryOp) (hnarrow : v.narrow? = none)
    (hsign : v.isSigned = true) (hrest : Boundary rest) :
    Reads (op.symbol.toList ++ v.literal.toList)
      (.symbol (op.symbol ++ "-") :: v.tokens.tail) rest := by
  have hsymbol : Reads (op.symbol ++ "-").toList [.symbol (op.symbol ++ "-")] (v.body ++ rest) := by
    refine .operatorSymbol ?_ ?_ (v.body_leaf.ends rest)
    · simp [String.toList_append]
    · rw [String.toList_append]
      cases op <;> decide
  have hliteral : v.literal.toList = "-".toList ++ v.body := by
    rw [Value.toList_literal, Value.castText, hnarrow, Value.signText, if_pos hsign]
    rfl
  have htokens : v.tokens.tail = [v.leaf] := by
    rw [Value.tokens, Value.castTokens, hnarrow, Value.signTokens, if_pos hsign]
    rfl
  rw [hliteral, htokens, ← List.append_assoc, ← String.toList_append]
  exact hsymbol.append (v.body_leaf.reads hrest)

/-- A number between curly brackets. -/
theorem reads_digits (n : Nat) {rest : List Char} (hrest : Ends continuesNumber rest) :
    Reads (Digits.write n) [.number (String.ofList (Digits.write n))] rest := by
  have hdigits : ∀ c ∈ Digits.write n, c.isDigit = true := fun c ↦ Digits.isDigit_of_mem_write
  cases hall : Digits.write n with
  | nil => exact absurd hall (Digits.write_ne_nil n)
  | cons c digits =>
    rw [hall] at hdigits
    exact .number (hdigits c List.mem_cons_self)
      (fun d hd ↦ (classes_of_isDigit (hdigits d (List.mem_cons_of_mem c hd))).2.2.1) hrest

/-- **The tokens of a rendered expression.** -/
theorem reads_render (e : Expr) (hrest : Boundary rest) :
    Reads e.render.toList e.tokens rest := by
  induction e generalizing rest with
  | const v => exact v.reads_literal hrest
  | var i =>
    rw [toList_render_var]
    have hdigits : Reads (Digits.write i) [.number (String.ofList (Digits.write i))]
        (['\x7d'] ++ rest) :=
      reads_digits i (by decide : continuesNumber '\x7d' = false)
    exact (Reads.bracket (by decide) _).append (hdigits.append (Reads.bracket (by decide) rest))
  | unary op e ih =>
    rw [toList_render_unary]
    refine (Reads.openParen _).append (Reads.append ?_ (Reads.closeParen rest))
    split
    · rename_i hminus
      obtain ⟨v, rfl, hnarrow, hsign⟩ := exists_of_isMinus hminus
      exact reads_unary_minus op hnarrow hsign (.paren rest)
    · rename_i hminus
      exact (Reads.unaryOp op (ends_render (by simpa using hminus) _)).append (ih (.paren rest))
  | binary op l r ihl ihr =>
    rw [toList_render_binary]
    have hright := (Reads.closeParen rest).after (ihr (.paren rest))
    have hoperator := (hright.after (.space _)).after
      (.binaryOp op (by decide : continuesSymbol ' ' = false))
    exact ((hoperator.after (.space _)).after (ihl (.space _))).after (.openParen _)
  | cast t e ih =>
    rw [toList_render_cast]
    have hoperand := (Reads.closeParen rest).after (ih (.paren rest))
    exact (hoperand.after (Value.reads_cast t _)).after (.openParen _)

/-- The items of a rendered expression are its tokens. -/
theorem takes_render (e : Expr) : Takes (Lexer.items e.render) e.tokens [] :=
  (reads_render e (show Boundary [] from trivial)).takes

end Expr

end Formula
