import Formula.Proofs.Expr.RoundTrip

/-!
# What a source text can be read as

Not every tree is read from some text.  A text has no signs of its own for numbers and no literals
for the narrow integers: these are made by operators and casts.  `Expr.Readable` is what follows for
the constants of a tree, its variables and its casts.

The one way in which a negative constant gets into a tree is a hexadecimal number, which gives the
bits of an integer.  To say so, the number tokens of the text are matched with the leaves that they
are read as.  Both stand in the same order, and none is left over on either side:
`Derives.denotes`.
-/

set_option autoImplicit false

namespace Formula

/-! ## Number literals -/

namespace NumberLiteral

/-- Whether a text is marked as hexadecimal. -/
def IsHex (text : List Char) : Prop := ['0', 'x'] <+: text ∨ ['0', 'X'] <+: text

theorem isNumeric_of_readHex? {text : List Char} {v : Value} (h : readHex? text = some v) :
    v.type.isNumeric = true := by
  simp only [readHex?] at h
  split at h
  · cases h
  split at h
  · split at h <;> cases h
    rfl
  · split at h <;> cases h
    rfl

/-- Decimal digits are no negative integer. -/
theorem isNumeric_of_readInteger? {text : List Char} {v : Value} (h : readInteger? text = some v) :
    v.type.isNumeric = true ∧ v.isNegative = false := by
  simp only [readInteger?] at h
  split at h
  · cases h
  split at h
  · split at h
    · rename_i hholds
      cases h
      have := Int64.toInt_ofNat_of_lt (IntegerType.holds_signedOf_iff.1 hholds)
      exact ⟨rfl, by simp [Value.isNegative, this]⟩
    · cases h
  · split at h
    · rename_i hholds
      cases h
      have := Int32.toInt_ofNat_of_lt (IntegerType.holds_signedOf_iff.1 hholds)
      exact ⟨rfl, by simp [Value.isNegative, this]⟩
    · cases h

/-- A real number is no integer. -/
theorem isNumeric_of_readReal? {text : List Char} {v : Value} (h : readReal? text = some v) :
    v.type.isNumeric = true ∧ v.isNegative = false := by
  simp only [readReal?] at h
  split at h <;> obtain ⟨x, -, rfl⟩ := Option.map_eq_some_iff.1 h <;> exact ⟨rfl, rfl⟩

/-- A number literal stands for a number, and for a negative integer in hexadecimal only. -/
theorem isNumeric_of_read? {text : List Char} {v : Value} (h : read? text = some v) :
    v.type.isNumeric = true ∧ (v.isNegative = true → IsHex text) := by
  rw [read?.eq_def] at h
  split at h
  · exact ⟨isNumeric_of_readHex? h, fun _ ↦ .inl ⟨_, rfl⟩⟩
  · exact ⟨isNumeric_of_readHex? h, fun _ ↦ .inr ⟨_, rfl⟩⟩
  · split at h
    · obtain ⟨hnumeric, hsign⟩ := isNumeric_of_readReal? h
      exact ⟨hnumeric, by simp [hsign]⟩
    · obtain ⟨hnumeric, hsign⟩ := isNumeric_of_readInteger? h
      exact ⟨hnumeric, by simp [hsign]⟩

end NumberLiteral

/-! ## Number tokens and the leaves that they are read as -/

namespace Token

/-- The texts of the number tokens. -/
def numbers (tokens : List Token) : List String :=
  tokens.filterMap fun t ↦ if t.kind = .number then some t.text else none

variable (text : String) (tokens : List Token)

@[simp] theorem numbers_append (front back : List Token) :
    numbers (front ++ back) = numbers front ++ numbers back := by
  simp [numbers]

@[simp] theorem numbers_symbol : numbers (.symbol text :: tokens) = numbers tokens := rfl

@[simp] theorem numbers_word : numbers (.word text :: tokens) = numbers tokens := rfl

@[simp] theorem numbers_number : numbers (.number text :: tokens) = text :: numbers tokens := rfl

end Token

namespace Expr

/-- Whether an expression is a leaf that is written with a number: a number or a variable. -/
def isNumeral : Expr → Bool
  | const v => v.type.isNumeric
  | var _ => true
  | _ => false

/-- The leaves that are written with a number, from left to right. -/
def numerals (e : Expr) : List Expr := e.nodes.filter isNumeral

theorem numerals_const {v : Value} (h : v.type.isNumeric = true) :
    (const v).numerals = [const v] :=
  List.filter_cons_of_pos h

@[simp] theorem numerals_unary (op : UnaryOp) (e : Expr) :
    (unary op e).numerals = e.numerals := rfl

@[simp] theorem numerals_cast (t : ValueType) (e : Expr) : (cast t e).numerals = e.numerals := rfl

@[simp] theorem numerals_binary (op : BinaryOp) (l r : Expr) :
    (binary op l r).numerals = l.numerals ++ r.numerals := by
  simp [numerals, nodes, isNumeral]

end Expr

/-- The leaf that a number token is read as: the value of the literal, or between curly brackets the
variable of this number. -/
inductive Denotes (text : String) : Expr → Prop
  | const {v : Value} (h : NumberLiteral.read? text.toList = some v) : Denotes text (.const v)
  | var {i : Int32} (h : NumberLiteral.read? text.toList = some (.int32 i)) (hi : 0 ≤ i.toInt) :
      Denotes text (.var i.toInt.toNat)

/-- **The numbers of a phrase are the numerals of its tree**, in the same order. -/
theorem Derives.denotes {phrase : Phrase} {tokens : List Token} {e : Expr} {need : Nat}
    (h : Derives phrase tokens e need) :
    List.Forall₂ Denotes (Token.numbers tokens) e.numerals := by
  induction h with
  | expression h ih | chain htier h ih | alone h ih | operand htier h ih | unary h ih
  | base h ih => exact ih
  | more hop hl hr ihl ihr | comparison htier hop hl hr ihl ihr =>
    simpa using List.rel_append ihl ihr
  | operator h ih | plus h ih | cast hname h ih => simpa using ih
  | truth | string | null => exact .nil
  | number hread =>
    rw [Expr.numerals_const (NumberLiteral.isNumeric_of_read? hread).1]
    exact .cons (.const hread) .nil
  | group hword h ih =>
    have hclose (text : String) : Token.numbers [.symbol text] = [] := rfl
    simpa [hclose] using ih
  | var hread hi => exact .cons (.var hread hi) .nil

/-! ## Whole texts -/

namespace Expr

/-- A numeral with a minus sign is read from a hexadecimal number. -/
theorem isHex_of_denotes {text : String} {v : Value} (h : Denotes text (const v))
    (hnegative : v.isNegative = true) : NumberLiteral.IsHex text.toList := by
  cases h with
  | const hread => exact (NumberLiteral.isNumeric_of_read? hread).2 hnegative

/-- What a readable expression has at its nodes. -/
theorem readable_of_mem_nodes {e e' : Expr} (he : e.Readable) (h : e' ∈ e.nodes) : e'.Readable := by
  induction e with
  | const v | var i =>
    obtain rfl := List.mem_singleton.1 h
    exact he
  | unary op e ih =>
    rcases List.mem_cons.1 h with rfl | h
    · exact he
    · exact ih he h
  | cast t e ih =>
    rcases List.mem_cons.1 h with rfl | h
    · exact he
    · exact ih he.2 h
  | binary op l r ihl ihr =>
    rcases List.mem_cons.1 h with rfl | h
    · exact he
    · rcases List.mem_append.1 h with h | h
      · exact ihl he.1 h
      · exact ihr he.2 h

theorem isNumeric_of_isNegative {v : Value} (h : v.isNegative = true) :
    v.type.isNumeric = true := by
  cases v with
  | int32 | int64 => rfl
  | null | boolean | string | byte | int16 | single | double | decimal => cases h

/-- A readable number has no sign, unless it is an integer. -/
theorem unsigned_of_readable {v : Value} (hv : v.Readable) :
    v.type ≠ .byte ∧ v.type ≠ .int16 ∧
      (∀ x, v = .single x → x.isFinite = true ∧ x.isNegative = false) ∧
      (∀ x, v = .double x → x.isFinite = true ∧ x.isNegative = false) ∧
      ∀ d, v = .decimal d → d.negative = false := by
  cases v with
  | byte | int16 => exact hv.elim
  | null | boolean | string | int32 | int64 => simp [Value.type]
  | single x | double x =>
    obtain ⟨units, fits, rfl⟩ := hv
    simp [Value.type, Floating.isFinite, Floating.isNegative]
  | decimal d =>
    have hsign : d.negative = false := hv
    simp [Value.type, hsign]

/-- **What a source text is read as.**  In the tree of any text that compiles, the variables are
numbered below `2 ^ 31` and no cast is to the type of `null`.  No constant is a narrow integer; the
binary numbers are finite, and like the decimals they have no minus sign, not even at zero.  The
number tokens of the text are the numerals of the tree, from left to right, and a negative integer
among these is from a token that begins with `0x` or `0X`. -/
theorem nodes_of_parse (source : String) (e : Expr) (h : Expr.parse source = .ok e) :
    (∀ i, var i ∈ e.nodes → i < 2 ^ 31) ∧
      (∀ t e', cast t e' ∈ e.nodes → t ≠ .null) ∧
      (∀ v, const v ∈ e.nodes → v.type ≠ .byte ∧ v.type ≠ .int16 ∧
        (∀ x, v = .single x → x.isFinite = true ∧ x.isNegative = false) ∧
        (∀ x, v = .double x → x.isFinite = true ∧ x.isNegative = false) ∧
        ∀ d, v = .decimal d → d.negative = false) ∧
      ∃ placed, Lexer.tokens (Lexer.items source) = .ok placed ∧
        List.Forall₂ (fun text leaf ↦ Denotes text leaf ∧
            ∀ v, leaf = const v → v.isNegative = true → NumberLiteral.IsHex text.toList)
          (Token.numbers (placed.map (·.token))) e.numerals ∧
        ∀ v, const v ∈ e.nodes → v.isNegative = true → const v ∈ e.numerals := by
  have he : e.Readable := readable_of_parse h
  obtain ⟨tokens, need, htakes, hderives, -⟩ := Expr.parse_eq_ok_iff_derives.1 h
  obtain ⟨placed, hplaced, rfl⟩ := Lexer.takes_iff_tokens.1 htakes
  refine ⟨fun i hi ↦ ?_, fun t e' hcast ↦ ?_, fun v hv ↦ ?_, placed, hplaced, ?_,
    fun v hv hnegative ↦ ?_⟩
  · have hvar : (var i).Readable := readable_of_mem_nodes he hi
    exact hvar
  · have hcast : (cast t e').Readable := readable_of_mem_nodes he hcast
    exact hcast.1
  · exact unsigned_of_readable (readable_of_mem_nodes he hv)
  · refine hderives.denotes.imp fun text leaf hdenotes ↦ ⟨hdenotes, ?_⟩
    rintro v rfl
    exact isHex_of_denotes hdenotes
  · exact List.mem_filter.2 ⟨hv, isNumeric_of_isNegative hnegative⟩

/-- The bits of a hexadecimal number make a negative constant; a minus sign makes an operator. -/
theorem nodes_of_parse_hex :
    ∃ e, Expr.parse "0xFFFFFFFF + -1.50m" = .ok e ∧
      const (.int32 (-1)) ∈ e.nodes ∧
      (∀ v, const v ∈ e.nodes → ∀ d, v = .decimal d → d.negative = false) ∧
      ∃ text, Denotes text (const (.int32 (-1))) ∧ NumberLiteral.IsHex text.toList := by
  have hparse : Expr.parse "0xFFFFFFFF + -1.50m" = .ok (binary .add (const (.int32 (-1)))
      (unary .negate (const (.decimal { negative := false, mantissa := 150, scale := 2 })))) := by
    cbv
  obtain ⟨-, -, hconst, placed, -, hmatched, -⟩ := nodes_of_parse _ _ hparse
  obtain ⟨text, rest, ⟨hdenotes, hhex⟩, -⟩ := List.forall₂_cons_right_iff.1 hmatched
  exact ⟨_, hparse, by simp [nodes], fun v hv ↦ (hconst v hv).2.2.2.2, text, hdenotes,
    hhex _ rfl (by decide)⟩

end Expr

end Formula
