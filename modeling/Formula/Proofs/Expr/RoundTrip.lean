import Formula.Proofs.Expr.Spelling
import Mathlib

/-!
# Rendering and parsing again

The text that an expression is rendered as is read as that expression again, with three exceptions:
a truth value or `null` as the left operand of a binary operator, which stands behind an opening
parenthesis and is taken for the type of a cast there; a negative integer, whose sign is taken for
an operator; and a text that needs more nesting than the budget has.

What a rendered text is read as is known for every expression, `Expr.parse_render_eq_ok_iff`.  Here
it is about the expressions that a source text is read as, which are `Expr.Readable`: the constants
of such an expression are spelled as they are, but for the negative integers.

`Expr.exists_parse_render_iff` says all this of the expressions that a source text is read as.
-/

set_option autoImplicit false

namespace Formula

/-! ## What parsing leaves -/

/-- The trees that a source text can stand for. -/
def Expr.Readable : Expr → Prop
  | const v => v.Readable
  | var i => i < 2147483648
  | unary _ e => e.Readable
  | binary _ l r => l.Readable ∧ r.Readable
  | cast t e => t ≠ .null ∧ e.Readable

/-- The number tokens have no sign. -/
def Signless (tokens : List Token) : Prop :=
  ∀ text, .number text ∈ tokens → text.toList.head? ≠ some '-'

theorem Lexer.signless_of_takes {source : String} {tokens : List Token}
    (h : Takes (Lexer.items source) tokens []) : Signless tokens := by
  intro text htext
  obtain ⟨placed, hplaced, heq⟩ := h.exists_mem htext
  obtain ⟨c, rest, hlist, hstarts⟩ := Lexer.head_of_mem_itemsFrom hplaced (by rw [heq]; rfl)
  rw [heq] at hlist
  rw [show (Token.number text).text = text from rfl] at hlist
  rw [hlist]
  rintro ⟨⟩
  exact absurd hstarts (by decide)

/-- A phrase stands for a readable expression. -/
theorem Derives.readable {phrase : Phrase} {tokens : List Token} {e : Expr} {need : Nat}
    (h : Derives phrase tokens e need) (hsign : Signless tokens) : e.Readable := by
  induction h with
  | expression h ih | chain htier h ih | alone h ih | operand htier h ih | unary h ih
  | base h ih => exact ih hsign
  | more hop hl hr ihl ihr | comparison htier hop hl hr ihl ihr =>
    exact ⟨ihl fun text ht ↦ hsign text (by simp [ht]), ihr fun text ht ↦ hsign text (by simp [ht])⟩
  | operator h ih | plus h ih | group hword h ih =>
    exact ih fun text ht ↦ hsign text (by simp [ht])
  | truth | string | null => trivial
  | number hread => exact Value.readable_of_read? (hsign _ (by simp)) hread
  | cast hname h ih =>
    exact ⟨ValueType.ne_null_of_ofCastName? hname, ih fun text ht ↦ hsign text (by simp [ht])⟩
  | @var text i hread hi =>
    have := i.toInt_lt
    rw [Expr.Readable]
    omega

theorem Expr.readable_of_parse {source : String} {e : Expr} (h : Expr.parse source = .ok e) :
    e.Readable := by
  obtain ⟨tokens, need, htakes, hderives, -⟩ := Expr.parse_eq_ok_iff_derives.1 h
  exact hderives.readable (Lexer.signless_of_takes htakes)

/-! ## Agreement -/

theorem Floating.compare?_self {f : Format} (negative : Bool) (units : Nat) (fits : f.Fits units) :
    (finite negative units fits).compare? (finite negative units fits) = some .eq := by
  simp [compare?, position?]

theorem Value.agrees_self {v : Value} (h : v.Readable) : v.agrees v = true := by
  cases v with
  | single x | double x =>
    obtain ⟨units, fits, rfl⟩ := h
    simp [agrees, Floating.compare?_self]
  | decimal d => simp [agrees, Decimal.compare]
  | null | boolean | string | byte | int16 | int32 | int64 => simp [agrees]

/-- A readable expression agrees with itself, since no constant of it is not a number. -/
theorem Expr.agrees_self {e : Expr} (h : e.Readable) : e.agrees e = true := by
  induction e with
  | const v => exact Value.agrees_self h
  | var i => simp [agrees]
  | unary op e ih => simp [agrees, ih h]
  | binary op l r ihl ihr => simp [agrees, ihl h.1, ihr h.2]
  | cast t e ih => simp [agrees, ih h.2]

/-! ## Negative integers -/

/-- The negative integers in an expression. -/
def Expr.negatives : Expr → Nat
  | const v => if v.isNegative then 1 else 0
  | var _ => 0
  | unary _ e | cast _ e => e.negatives
  | binary _ l r => l.negatives + r.negatives

/-- Among the readable values the negative integers are those with a sign. -/
theorem Value.isSigned_eq_isNegative {v : Value} (hv : v.Readable) : v.isSigned = v.isNegative := by
  cases v with
  | null | boolean | string | int32 | int64 => rfl
  | byte | int16 => exact hv.elim
  | single x | double x =>
    obtain ⟨units, fits, rfl⟩ := hv
    rfl
  | decimal d => exact hv

theorem Value.narrow?_of_readable {v : Value} (hv : v.Readable) : v.narrow? = none := by
  cases v with
  | byte | int16 => exact hv.elim
  | null | boolean | string | int32 | int64 | single | double | decimal => rfl

/-- A readable value without a sign is its magnitude. -/
theorem Value.magnitude_of_readable {v : Value} (hv : v.Readable) (hsign : v.isNegative = false) :
    v.magnitude = v := by
  have hspelled : v.spelled.eval .empty = .ok v := v.eval_spelled .empty
  rw [spelled, narrow?_of_readable hv, signed, isSigned_eq_isNegative hv, hsign] at hspelled
  simpa [Expr.eval] using hspelled

/-- A readable value without a sign can be read. -/
theorem Value.spellable_of_readable {v : Value} (hv : v.Readable) (hsign : v.isNegative = false) :
    v.Spellable := by
  cases v with
  | null | boolean | string | byte | int16 | decimal => trivial
  | int32 n =>
    have hpositive : 0 ≤ n.toInt := by simpa [isNegative] using hsign
    have := n.toInt_lt
    exact IntegerType.holds_signedOf_iff.2 (by omega)
  | int64 n =>
    have hpositive : 0 ≤ n.toInt := by simpa [isNegative] using hsign
    have := n.toInt_lt
    exact IntegerType.holds_signedOf_iff.2 (by omega)
  | single x | double x =>
    obtain ⟨units, fits, rfl⟩ := hv
    rfl

/-- A readable value without a sign is spelled as it is. -/
theorem Value.spelled_of_readable {v : Value} (hv : v.Readable) (hsign : v.isNegative = false) :
    v.spelled = .const v := by
  rw [spelled, narrow?_of_readable hv, signed, isSigned_eq_isNegative hv, hsign]
  exact congrArg Expr.const (magnitude_of_readable hv hsign)

namespace Expr

/-- An expression without negative integers is spelled as it is. -/
theorem spelled_of_readable {e : Expr} (he : e.Readable) (h : e.negatives = 0) : e.spelled = e := by
  induction e with
  | const v => exact Value.spelled_of_readable he (by simpa [negatives] using h)
  | var i => rfl
  | unary op e ih => rw [spelled, ih he h]
  | cast t e ih => rw [spelled, ih he.2 h]
  | binary op l r ihl ihr =>
    obtain ⟨hl, hr⟩ := Nat.add_eq_zero_iff.1 h
    rw [spelled, ihl he.1 hl, ihr he.2 hr]

/-- An expression that agrees with what it spells has no negative integers. -/
theorem negatives_of_agrees {e : Expr} (h : e.spelled.agrees e = true) : e.negatives = 0 := by
  induction e with
  | const v =>
    refine if_neg fun hnegative ↦ ?_
    cases v with
    | null | boolean | string | byte | int16 | single | double | decimal => cases hnegative
    | int32 n | int64 n =>
      simp only [Value.isNegative] at hnegative
      simp [spelled, Value.spelled, Value.narrow?, Value.signed, Value.isSigned, hnegative,
        agrees] at h
  | var i => rfl
  | unary op e ih => exact ih (by simpa [spelled, agrees] using h)
  | cast t e ih => exact ih (by simpa [spelled, agrees] using h)
  | binary op l r ihl ihr =>
    obtain ⟨hl, hr⟩ : l.spelled.agrees l = true ∧ r.spelled.agrees r = true := by
      simpa [spelled, agrees] using h
    exact Nat.add_eq_zero_iff.2 ⟨ihl hl, ihr hr⟩

/-! ## Words as left operands -/

/-- No binary operator has a word as its left operand. -/
def Guarded : Expr → Prop
  | const _ | var _ => True
  | unary _ e | cast _ e => e.Guarded
  | binary _ l r => l.isWord = false ∧ l.Guarded ∧ r.Guarded

theorem guarded_of_legible {e : Expr} (he : e.Legible) : e.Guarded := by
  induction e with
  | const | var => trivial
  | unary op e ih | cast t e ih => exact ih he.2
  | binary op l r ihl ihr => exact ⟨he.1, ihl he.2.1, ihr he.2.2⟩

theorem legible_of_guarded {e : Expr} (he : e.Readable) (hguarded : e.Guarded)
    (h : e.negatives = 0) : e.Legible := by
  induction e with
  | const v => exact Value.spellable_of_readable he (by simpa [negatives] using h)
  | var i => exact he
  | unary op e ih =>
    refine ⟨Bool.eq_false_iff.2 fun hminus ↦ ?_, ih he hguarded h⟩
    obtain ⟨v, rfl, -, hsign⟩ := exists_of_isMinus hminus
    rw [Value.isSigned_eq_isNegative he] at hsign
    simp [negatives, hsign] at h
  | cast t e ih => exact ⟨he.1, ih he.2 hguarded h⟩
  | binary op l r ihl ihr =>
    obtain ⟨hl, hr⟩ := Nat.add_eq_zero_iff.1 h
    exact ⟨hguarded.1, ihl he.1 hguarded.2.1 hl, ihr he.2 hguarded.2.2 hr⟩

/-! ## Both directions -/

/-- The nesting that reading a rendered expression takes, in the parentheses of which it is. -/
def renderCost : Expr → Nat
  | const _ | var _ => 0
  | unary _ e | cast _ e => 5 + e.renderCost
  | binary op l r =>
    if op ∈ [.less, .lessEqual, .greater, .greaterEqual] then 4 + max l.renderCost r.renderCost
    else 4 + max l.renderCost (1 + r.renderCost)

/-- Only a cast or a sign makes a literal cost nesting. -/
theorem spellCost_of_readable {e : Expr} (he : e.Readable) (h : e.negatives = 0) :
    e.spellCost = e.renderCost := by
  induction e with
  | const v =>
    have hsign : v.isSigned = false := by
      rw [Value.isSigned_eq_isNegative he]
      simpa [negatives] using h
    simp [spellCost, Value.spellCost, renderCost, Value.narrow?_of_readable he, hsign]
  | var i => rfl
  | unary op e ih => rw [spellCost, renderCost, ih he h]
  | cast t e ih => rw [spellCost, renderCost, ih he.2 h]
  | binary op l r ihl ihr =>
    obtain ⟨hl, hr⟩ := Nat.add_eq_zero_iff.1 h
    rw [spellCost, renderCost, ihl he.1 hl, ihr he.2 hr]

/-- What is read from a rendered expression agrees with it only if it is the same, and this is the
case exactly where nothing stands in the way. -/
theorem parse_render_iff {e e' : Expr} (he : e.Readable) :
    Expr.parse e.render = .ok e' ∧ e'.agrees e = true ↔
      e = e' ∧ e.Guarded ∧ e.negatives = 0 ∧ groupCost + e.renderCost ≤ maxDepth := by
  rw [parse_render_eq_ok_iff]
  constructor
  · rintro ⟨⟨hlegible, rfl, hneed⟩, hagrees⟩
    have h : e.negatives = 0 := negatives_of_agrees hagrees
    rw [spellCost_of_readable he h] at hneed
    exact ⟨(spelled_of_readable he h).symm, guarded_of_legible hlegible, h, hneed⟩
  · rintro ⟨rfl, hguarded, h, hneed⟩
    rw [← spellCost_of_readable he h] at hneed
    exact ⟨⟨legible_of_guarded he hguarded h, spelled_of_readable he h, hneed⟩, agrees_self he⟩

/-- The nodes of an expression: itself, and those of its operands. -/
def nodes : Expr → List Expr
  | const v => [const v]
  | var i => [var i]
  | unary op e => unary op e :: e.nodes
  | binary op l r => binary op l r :: (l.nodes ++ r.nodes)
  | cast t e => cast t e :: e.nodes

theorem isWord_eq_false_iff {e : Expr} :
    e.isWord = false ↔ e ≠ const .null ∧ ∀ b, e ≠ const (.boolean b) := by
  unfold isWord
  split <;> simp_all

theorem guarded_iff {e : Expr} :
    e.Guarded ↔ ∀ op l r, binary op l r ∈ e.nodes →
      l ≠ const .null ∧ ∀ b, l ≠ const (.boolean b) := by
  simp only [← isWord_eq_false_iff]
  induction e with
  | const | var => simp [Guarded, nodes]
  | unary _ e ih | cast _ e ih => simp [Guarded, nodes, ih]
  | binary op l r ihl ihr =>
    simp only [Guarded, nodes, ihl, ihr, List.mem_cons, List.mem_append]
    constructor
    · rintro ⟨hword, hl, hr⟩ op' l' r' (⟨⟨⟩⟩ | hmem | hmem)
      · exact hword
      · exact hl op' l' r' hmem
      · exact hr op' l' r' hmem
    · intro h
      exact ⟨h op l r (.inl rfl), fun op' l' r' hmem ↦ h op' l' r' (.inr (.inl hmem)),
        fun op' l' r' hmem ↦ h op' l' r' (.inr (.inr hmem))⟩

theorem negatives_eq_zero_iff {e : Expr} :
    e.negatives = 0 ↔ (∀ n, const (.int32 n) ∈ e.nodes → 0 ≤ n.toInt) ∧
      ∀ n, const (.int64 n) ∈ e.nodes → 0 ≤ n.toInt := by
  induction e with
  | const v => cases v <;> simp [negatives, nodes, Value.isNegative]
  | var => simp [negatives, nodes]
  | unary _ e ih | cast _ e ih => simp [negatives, nodes, ih]
  | binary _ l r ihl ihr =>
    simp only [negatives, nodes, Nat.add_eq_zero_iff, ihl, ihr, List.mem_cons, List.mem_append]
    grind

/-- **Rendering and parsing again.**  An expression that was read from a source text comes back from
its rendered text as a tree that agrees with it, exactly if no left operand of a binary operator is
`null` or a truth value, no integer in it is negative, and the parentheses that rendering adds are
within the budget. -/
theorem exists_parse_render_iff (source : String) (e : Expr) (h : Expr.parse source = .ok e) :
    (∃ e', Expr.parse e.render = .ok e' ∧ e'.agrees e = true) ↔
      (∀ op l r, binary op l r ∈ e.nodes → l ≠ const .null ∧ ∀ b, l ≠ const (.boolean b)) ∧
      ((∀ n, const (.int32 n) ∈ e.nodes → 0 ≤ n.toInt) ∧
        ∀ n, const (.int64 n) ∈ e.nodes → 0 ≤ n.toInt) ∧
      4 + e.renderCost ≤ 256 := by
  have he : e.Readable := readable_of_parse h
  rw [← guarded_iff, ← negatives_eq_zero_iff]
  simp only [parse_render_iff he, groupCost, maxDepth]
  constructor
  · rintro ⟨e', rfl, hrest⟩
    exact hrest
  · intro hrest
    exact ⟨e, rfl, hrest⟩

/-- A comparison with `null` comes back if `null` is on the right of it, and not if it is on the
left. -/
theorem exists_parse_render_null :
    (∃ e, Expr.parse "1 == null" = .ok e ∧
      ∃ e', Expr.parse e.render = .ok e' ∧ e'.agrees e = true) ∧
    ∃ e, Expr.parse "null == 1" = .ok e ∧
      ¬ ∃ e', Expr.parse e.render = .ok e' ∧ e'.agrees e = true := by
  obtain ⟨hright, hleft⟩ :
      Expr.parse "1 == null" = .ok (binary .equal (const (.int32 1)) (const .null)) ∧
        Expr.parse "null == 1" = .ok (binary .equal (const .null) (const (.int32 1))) :=
    ⟨by cbv, by cbv⟩
  refine ⟨⟨_, hright, (exists_parse_render_iff _ _ hright).2 ⟨?_, ?_, ?_⟩⟩, _, hleft, fun h ↦ ?_⟩
  · exact guarded_iff.1 ⟨rfl, trivial, trivial⟩
  · exact negatives_eq_zero_iff.1 rfl
  · simp [renderCost]
  · have := (exists_parse_render_iff _ _ hleft).1 h
    exact (this.1 .equal (const .null) _ List.mem_cons_self).1 rfl

end Expr

end Formula
