import Formula.Proofs.Decimal.ReadBack
import Formula.Proofs.Floating.ReadBack
import Formula.Proofs.Value.Spelling
import Formula.Value.NumberLiteral

/-!
# Number literals read back

The body of a number's literal is read as the magnitude of the number, `Value.read?_body`, and
`Value.Spellable` says of which numbers: the digits of an integer have to stand for one of its
type, which those of the least integer do not, and a binary number has to be finite.

Conversely `Value.Readable` holds of the values that a literal of the source can stand for, without
a sign or a cast: `readable_of_read?`.
-/

set_option autoImplicit false

-- Powers of natural numbers are those of the core library, whatever else is imported.
attribute [local instance(high)] instPowNat

namespace Formula

theorem Decimal.toList_text_withSign (d : Decimal) :
    (d.withSign false).text.toList = Digits.fixed d.mantissa d.scale := by
  simp [text, withSign]

namespace Value

/-! ## Values of literals -/

/-- The values that a literal of the source can stand for, and the negative integers, which stand in
hexadecimal. -/
def Readable : Value → Prop
  | null | boolean _ | string _ | int32 _ | int64 _ => True
  | byte _ | int16 _ => False
  | single x => ∃ units fits, x = .finite false units fits
  | double x => ∃ units fits, x = .finite false units fits
  | decimal d => d.negative = false

/-- Whether a value is a negative integer of 32 or 64 bits. -/
def isNegative : Value → Bool
  | int32 n => decide (n.toInt < 0)
  | int64 n => decide (n.toInt < 0)
  | _ => false

/-- The values that have a magnitude of which the body of the literal is a literal. -/
def Spellable : Value → Prop
  | int32 n => (IntegerType.signedOf 32).Holds n.toInt.natAbs
  | int64 n => (IntegerType.signedOf 64).Holds n.toInt.natAbs
  | single x => x.isFinite = true
  | double x => x.isFinite = true
  | _ => True

end Value

/-! ## Reading -/

namespace NumberLiteral

theorem read?_of_ne_mark {text : List Char} (h : ∀ c ∈ text, c ≠ 'x' ∧ c ≠ 'X') :
    read? text = if text.any isRealMark then readReal? text else readInteger? text := by
  rw [read?.eq_def]
  split
  · exact absurd rfl (h 'x' (by simp)).1
  · exact absurd rfl (h 'X' (by simp)).2
  · rfl

theorem ne_mark_of_plain {digits suffix : List Char} (hdigits : Digits.Plain digits)
    (hsuffix : ∀ c ∈ suffix, c ≠ 'x' ∧ c ≠ 'X') : ∀ c ∈ digits ++ suffix, c ≠ 'x' ∧ c ≠ 'X' := by
  intro c hc
  rcases List.mem_append.1 hc with hc | hc
  · rcases hdigits.mem hc with hc | rfl
    · exact forall_isDigit (p := fun c ↦ c ≠ 'x' ∧ c ≠ 'X') (by decide) hc
    · decide
  · exact hsuffix c hc

theorem any_isRealMark_of_digits {digits : List Char} (h : ∀ c ∈ digits, c.isDigit = true) :
    digits.any isRealMark = false := by
  refine List.any_eq_false.2 fun c hc ↦ ?_
  exact forall_isDigit (p := fun c ↦ ¬ isRealMark c = true) (by decide) (h c hc)

theorem splitReal_concat {suffix : Char} {type : ValueType} (digits : List Char)
    (h : suffixType? suffix = some type) : splitReal (digits ++ [suffix]) = (digits, type) := by
  simp [splitReal, h]

/-- Plain digits and the suffix of a real type are a real number. -/
theorem read?_real {digits : List Char} {suffix : Char} {type : ValueType}
    (hdigits : Digits.Plain digits) (hsuffix : suffixType? suffix = some type) :
    read? (digits ++ [suffix]) = readReal? (digits ++ [suffix]) := by
  have hmark : suffix ≠ 'x' ∧ suffix ≠ 'X' := by
    constructor <;> rintro rfl <;> cases hsuffix
  have hreal : (digits ++ [suffix]).any isRealMark = true := by
    simp [isRealMark, hsuffix]
  rw [read?_of_ne_mark (ne_mark_of_plain hdigits (by simpa using hmark)), if_pos hreal]

/-- Digits alone are an integer of 32 bits, if they stand for one. -/
theorem read?_write (n : Nat) :
    read? (Digits.write n) =
      if (IntegerType.signedOf 32).Holds n then some (.int32 (Int32.ofNat n)) else none := by
  have hdigits : ∀ c ∈ Digits.write n, c.isDigit = true := fun c ↦ Digits.isDigit_of_mem_write
  have hmark : ∀ c ∈ Digits.write n, c ≠ 'x' ∧ c ≠ 'X' := fun c hc ↦
    forall_isDigit (p := fun c ↦ c ≠ 'x' ∧ c ≠ 'X') (by decide) (hdigits c hc)
  have hlong : (Digits.write n).getLast?.any isLongSuffix = false := by
    cases hlast : (Digits.write n).getLast? with
    | none => rfl
    | some c =>
      exact forall_isDigit (p := fun c ↦ isLongSuffix c = false) (by decide)
        (hdigits c (List.mem_of_getLast? hlast))
  have hall : (Digits.write n).all Char.isDigit = true := List.all_eq_true.2 hdigits
  rw [read?_of_ne_mark hmark, any_isRealMark_of_digits hdigits, if_neg (by decide), readInteger?,
    splitLong, hlong]
  simp [Digits.write_ne_nil, hall, Digits.value_write]

/-- Digits and a suffix are an integer of 64 bits, if they stand for one. -/
theorem read?_write_long (n : Nat) :
    read? (Digits.write n ++ ['L']) =
      if (IntegerType.signedOf 64).Holds n then some (.int64 (Int64.ofNat n)) else none := by
  have hdigits : ∀ c ∈ Digits.write n, c.isDigit = true := fun c ↦ Digits.isDigit_of_mem_write
  have hmark : ∀ c ∈ Digits.write n ++ ['L'], c ≠ 'x' ∧ c ≠ 'X' :=
    ne_mark_of_plain (Digits.plain_write n) (by simp)
  have hreal : (Digits.write n ++ ['L']).any isRealMark = false := by
    rw [List.any_append, any_isRealMark_of_digits hdigits]
    decide
  have hsplit : splitLong (Digits.write n ++ ['L']) = (Digits.write n, true) := by
    simp [splitLong, isLongSuffix]
  have hall : (Digits.write n).all Char.isDigit = true := List.all_eq_true.2 hdigits
  rw [read?_of_ne_mark hmark, hreal, if_neg (by decide), readInteger?, hsplit]
  simp [Digits.write_ne_nil, hall, Digits.value_write]

end NumberLiteral

/-! ## Reading back -/

/-- The natural numbers among the integers of a signed type. -/
theorem IntegerType.holds_signedOf_iff {bits n : Nat} :
    (signedOf bits).Holds n ↔ n < 2 ^ (bits - 1) := by
  simp only [Holds, low, high, signedOf, if_true]
  omega

theorem Floating.readFinite?_digits {f : Format} (hf : f.Covered) (units : Nat)
    (fits : f.Fits units) :
    NumberLiteral.readFinite? (digits units fits) = some (.finite false units fits) := by
  rw [NumberLiteral.readFinite?, read?_digits hf units fits]
  rfl

theorem Decimal.readDecimal?_fixed {d : Decimal} (h : d.negative = false) :
    NumberLiteral.readDecimal? (Digits.fixed d.mantissa d.scale) = some d := by
  have hmark : (Digits.fixed d.mantissa d.scale).any (fun c ↦ c == 'e' || c == 'E') = false := by
    refine List.any_eq_false.2 fun c hc ↦ ?_
    rcases (Digits.plain_fixed d.mantissa d.scale).mem hc with hc | rfl
    · exact forall_isDigit (p := fun c ↦ ¬ (c == 'e' || c == 'E') = true) (by decide) hc
    · decide
  rw [NumberLiteral.readDecimal?, hmark]
  exact read?_fixed h

/-- **The body of a literal reads back** as the magnitude, where it is a number at all. -/
theorem Value.read?_body {v : Value} (hnumeric : v.type.isNumeric = true) (h : v.Spellable) :
    NumberLiteral.read? v.body = some v.magnitude := by
  cases v with
  | null | boolean | string => cases hnumeric
  | byte n =>
    have hbound : (IntegerType.signedOf 32).Holds n.toNat := by
      have := n.toNat_lt
      exact IntegerType.holds_signedOf_iff.2 (by omega)
    rw [body, NumberLiteral.read?_write, if_pos hbound, magnitude]
  | int16 n =>
    have hbound : (IntegerType.signedOf 32).Holds n.toInt.natAbs := by
      have := n.le_toInt
      have := n.toInt_lt
      exact IntegerType.holds_signedOf_iff.2 (by omega)
    rw [body, NumberLiteral.read?_write, if_pos hbound, magnitude]
  | int32 n =>
    have hbound : (IntegerType.signedOf 32).Holds n.toInt.natAbs := h
    rw [body, NumberLiteral.read?_write, if_pos hbound, magnitude]
  | int64 n =>
    have hbound : (IntegerType.signedOf 64).Holds n.toInt.natAbs := h
    rw [body, NumberLiteral.read?_write_long, if_pos hbound, magnitude]
  | single x =>
    cases x with
    | nan | infinity => cases h
    | finite negative units fits =>
      have hsuffix : NumberLiteral.suffixType? 'f' = some .single := by decide
      rw [body, Floating.withSign, Floating.text_eq,
        NumberLiteral.read?_real (Floating.plain_digits units fits) hsuffix,
        NumberLiteral.readReal?, NumberLiteral.splitReal_concat _ hsuffix]
      simp only [Floating.readFinite?_digits Format.single_covered units fits, Option.map_some,
        magnitude, Floating.withSign]
  | double x =>
    cases x with
    | nan | infinity => cases h
    | finite negative units fits =>
      have hsuffix : NumberLiteral.suffixType? 'd' = some .double := by decide
      rw [body, Floating.withSign, Floating.text_eq,
        NumberLiteral.read?_real (Floating.plain_digits units fits) hsuffix,
        NumberLiteral.readReal?, NumberLiteral.splitReal_concat _ hsuffix]
      simp only [Floating.readFinite?_digits Format.double_covered units fits, Option.map_some,
        magnitude, Floating.withSign]
  | decimal d =>
    have hsuffix : NumberLiteral.suffixType? 'm' = some .decimal := by decide
    have hread : NumberLiteral.readDecimal? (Digits.fixed d.mantissa d.scale) =
        some (d.withSign false) := Decimal.readDecimal?_fixed (d := d.withSign false) rfl
    rw [body, Decimal.toList_text_withSign,
      NumberLiteral.read?_real (Digits.plain_fixed _ _) hsuffix,
      NumberLiteral.readReal?, NumberLiteral.splitReal_concat _ hsuffix]
    simp only [hread, Option.map_some, magnitude]

/-! ## What a number token stands for -/

theorem Floating.negative_of_ofUnits {f : Format} {num den units : Nat} {negative : Bool}
    {fits : f.Fits units} (h : ofUnits false num den = finite negative units fits) :
    negative = false := by
  rw [ofUnits] at h
  split at h <;> cases h
  rfl

/-- A text without a sign stands for no negative number. -/
theorem Floating.negative_of_readFinite? {f : Format} {text : List Char} {x : Floating f}
    (hsign : text.head? ≠ some '-') (h : NumberLiteral.readFinite? text = some x) :
    ∃ units fits, x = .finite false units fits := by
  obtain ⟨hread, hfinite⟩ := Option.filter_eq_some_iff.1 h
  cases x with
  | nan | infinity => cases hfinite
  | finite negative units fits =>
    have hmagnitude : readMagnitude? false text = some (finite negative units fits) ∨
        readMagnitude? false text.tail = some (finite negative units fits) := by
      rw [read?.eq_def] at hread
      split at hread
      · exact absurd rfl hsign
      · exact .inr hread
      · exact .inl hread
    have hnegative : ∀ text : List Char,
        readMagnitude? false text = some (finite negative units fits) → negative = false := by
      intro text hread
      simp only [readMagnitude?] at hread
      split at hread
      · cases hread
      split at hread
      · cases hread
      obtain ⟨s, -, hs⟩ := Option.map_eq_some_iff.1 hread
      simp only [ofScientific] at hs
      split at hs
      · exact negative_of_ofUnits hs
      · exact negative_of_ofUnits hs
    rcases hmagnitude with hread | hread <;> obtain rfl := hnegative _ hread <;>
      exact ⟨units, fits, rfl⟩

theorem NumberLiteral.head?_splitReal {text : List Char} (h : text.head? ≠ some '-') :
    (splitReal text).1.head? ≠ some '-' := by
  rw [splitReal]
  split
  · cases text with
    | nil => exact h
    | cons c rest =>
      cases rest with
      | nil => simp
      | cons d rest => exact h
  · exact h

theorem Value.readable_of_readHex? {text : List Char} {v : Value}
    (h : NumberLiteral.readHex? text = some v) : v.Readable := by
  simp only [NumberLiteral.readHex?] at h
  split at h
  · cases h
  split at h
  · split at h <;> cases h
    trivial
  · split at h <;> cases h
    trivial

theorem Value.readable_of_readInteger? {text : List Char} {v : Value}
    (h : NumberLiteral.readInteger? text = some v) : v.Readable := by
  simp only [NumberLiteral.readInteger?] at h
  split at h
  · cases h
  split at h
  · split at h <;> cases h
    trivial
  · split at h <;> cases h
    trivial

theorem Value.readable_of_readReal? {text : List Char} {v : Value}
    (hsign : text.head? ≠ some '-') (h : NumberLiteral.readReal? text = some v) : v.Readable := by
  have hbody := NumberLiteral.head?_splitReal hsign
  simp only [NumberLiteral.readReal?] at h
  split at h
  · obtain ⟨x, hx, rfl⟩ := Option.map_eq_some_iff.1 h
    exact Floating.negative_of_readFinite? hbody hx
  · obtain ⟨d, hd, rfl⟩ := Option.map_eq_some_iff.1 h
    rw [NumberLiteral.readDecimal?] at hd
    split at hd
    · exact Decimal.negative_of_readScientific? hbody hd
    · exact Decimal.negative_of_read? hbody hd
  · obtain ⟨x, hx, rfl⟩ := Option.map_eq_some_iff.1 h
    exact Floating.negative_of_readFinite? hbody hx

/-- A number token has no sign, so that it stands for a readable value. -/
theorem Value.readable_of_read? {text : List Char} {v : Value} (hsign : text.head? ≠ some '-')
    (h : NumberLiteral.read? text = some v) : v.Readable := by
  rw [NumberLiteral.read?.eq_def] at h
  split at h
  · exact readable_of_readHex? h
  · exact readable_of_readHex? h
  · split at h
    · exact readable_of_readReal? hsign h
    · exact readable_of_readInteger? h

end Formula
