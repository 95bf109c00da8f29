import Formula.Proofs.Expr.Image
import Formula.Proofs.Positional

/-!
# What number literals stand for

`NumberLiteral.StandsFor text v` lists the number literals and their values.  An integer is digits
in positional notation, without a suffix or with the one for 64 bits: decimal digits stand for the
number itself, hexadecimal ones for the bits of it.  A real number is a text with a point, an
exponent mark or a suffix somewhere in it; what is in front of the suffix is read as a number of the
type that the suffix asks for.

The main result is `NumberLiteral.read?_iff_standsFor`: a text is read as a value just if it stands
for the value, and so a text that is none of these has none.  The three ways to read a text are
taken one by one before it.  They have letters in common, as `d`, `e` and `f` are hexadecimal digits
as well as parts of real numbers, so that a text has to be told apart first: by its mark if it is
hexadecimal (`IntegerForm.of_mark`), and otherwise by the characters that decimal digits and the
suffix of 64 bits do not have (`IntegerForm.not_mem_realMarks`).
-/

set_option autoImplicit false

namespace Formula

theorem IntegerType.holds_unsignedOf_iff {bits n : Nat} :
    (unsignedOf bits).Holds n ↔ n < 2 ^ bits := by
  simp only [Holds, low, high, unsignedOf, Bool.false_eq_true, if_false]
  omega

namespace NumberLiteral

open Digits (Spells)

/-! ## The literals and their values -/

/-- The suffixes of the integers of 64 bits. -/
def longSuffixes : List (List Char) := [['l'], ['L']]

/-- The marks of hexadecimal integers, which stand after a zero. -/
def hexMarks : List Char := ['x', 'X']

/-- The characters that only real numbers have, among texts that are not hexadecimal. -/
def realMarks : List Char := ['.', 'e', 'E', 'f', 'F', 'd', 'D', 'm', 'M']

/-- The texts with a suffix that stand for an integer of some width.  Decimal digits are a number
that is not negative, and hexadecimal ones are the bits of a number in two's complement. -/
inductive IntegerForm (bits : Nat) (suffix : List Char) : List Char → Int → Prop
  | decimal {digits : List Char} {n : Nat} (h : Spells 10 digits n) (hn : n < 2 ^ (bits - 1)) :
      IntegerForm bits suffix (digits ++ suffix) n
  | hexadecimal {mark : Char} {digits : List Char} {n : Nat} (hmark : mark ∈ hexMarks)
      (h : Spells 16 digits n) (hn : n < 2 ^ bits) :
      IntegerForm bits suffix ('0' :: mark :: (digits ++ suffix)) ((n : Int).bmod (2 ^ bits))

/-- The suffixes that ask for a real type. -/
def suffixes : ValueType → List Char
  | .double => ['d', 'D']
  | .single => ['f', 'F']
  | .decimal => ['m', 'M']
  | _ => []

/-- What is in front of the suffix of a text, and the real type that the suffix asks for.  Without
a suffix it is all of the text, and has 64 bits. -/
inductive Suffixed : List Char → List Char → ValueType → Prop
  | suffix {body : List Char} {c : Char} {type : ValueType} (h : c ∈ suffixes type) :
      Suffixed (body ++ [c]) body type
  | plain {text : List Char} (h : ∀ c ∈ text.getLast?, ∀ type, c ∉ suffixes type) :
      Suffixed text text .double

/-- A text that can only be a real number of some type, with a body in front of its suffix. -/
structure RealForm (text body : List Char) (type : ValueType) : Prop where
  notHex : ¬ IsHex text
  mark : ∃ c ∈ text, c ∈ realMarks
  suffixed : Suffixed text body type

/-- The number literals and their values. -/
inductive StandsFor (text : List Char) : Value → Prop
  | int32 {n : Int32} (h : IntegerForm 32 [] text n.toInt) : StandsFor text (.int32 n)
  | int64 {suffix : List Char} {n : Int64} (hsuffix : suffix ∈ longSuffixes)
      (h : IntegerForm 64 suffix text n.toInt) : StandsFor text (.int64 n)
  | single {body : List Char} {x : Single} (h : RealForm text body .single)
      (hread : Floating.read? body = some x) (hfinite : x.isFinite = true) :
      StandsFor text (.single x)
  | double {body : List Char} {x : Double} (h : RealForm text body .double)
      (hread : Floating.read? body = some x) (hfinite : x.isFinite = true) :
      StandsFor text (.double x)
  | decimal {body : List Char} {d : Decimal} (h : RealForm text body .decimal)
      (hread : (if 'e' ∈ body ∨ 'E' ∈ body then Decimal.readScientific? body
        else Decimal.read? body) = some d) :
      StandsFor text (.decimal d)

variable {text body rest suffix : List Char} {mark : Char} {bits : Nat} {i : Int} {v : Value}

/-! ## Texts of digits with a suffix -/

theorem isLongSuffix_iff {c : Char} : isLongSuffix c = true ↔ [c] ∈ longSuffixes := by
  simp [isLongSuffix, longSuffixes]

theorem splitLong_append (digits : List Char) (h : suffix ∈ longSuffixes) :
    splitLong (digits ++ suffix) = (digits, true) := by
  simp only [longSuffixes, List.mem_cons, List.not_mem_nil, or_false] at h
  rcases h with rfl | rfl <;> simp [splitLong, isLongSuffix]

theorem splitLong_of_forall (h : ∀ c ∈ text, isLongSuffix c = false) :
    splitLong text = (text, false) := by
  refine if_neg fun hany ↦ ?_
  obtain ⟨c, hc, hlong⟩ := (Option.any_eq_true _ _).1 hany
  rw [h c (List.mem_of_getLast? hc)] at hlong
  cases hlong

/-- A text has the suffix of 64-bit integers, or is all there is. -/
theorem splitLong_cases (text : List Char) :
    (∃ digits suffix, text = digits ++ suffix ∧ suffix ∈ longSuffixes) ∨
      splitLong text = (text, false) := by
  cases hlast : text.getLast? with
  | none => exact .inr (by simp [splitLong, hlast])
  | some c =>
    by_cases hc : isLongSuffix c = true
    · obtain ⟨digits, rfl⟩ := List.getLast?_eq_some_iff.1 hlast
      exact .inl ⟨digits, [c], rfl, isLongSuffix_iff.1 hc⟩
    · exact .inr (by simp [splitLong, hlast, hc])

section Reader

variable {base : Nat} {isDigit : Char → Bool} {value : List Char → Nat}

/-- Digits of any base, and what to make of their number without the suffix and with it. -/
theorem readDigits_eq_some_iff (short long : Nat → Option Value)
    (hspells : ∀ {text n}, Spells base text n ↔
      text ≠ [] ∧ (∀ c ∈ text, isDigit c = true) ∧ value text = n)
    (hsuffix : ∀ c, isDigit c = true → isLongSuffix c = false) :
    (let (digits, isLong) := splitLong text
      if digits.isEmpty || !digits.all isDigit then none
      else if isLong then long (value digits) else short (value digits)) = some v ↔
      ∃ digits suffix n, text = digits ++ suffix ∧ Spells base digits n ∧
        (suffix = [] ∧ short n = some v ∨ suffix ∈ longSuffixes ∧ long n = some v) := by
  -- What is read of a text, once it is known how it splits.
  have hread : ∀ {digits : List Char} {read : Nat → Option Value},
      (if digits.isEmpty || !digits.all isDigit then none else read (value digits)) = some v ↔
        ∃ n, Spells base digits n ∧ read n = some v := by
    intro digits read
    simp [hspells, and_assoc]
  constructor
  · intro h
    rcases splitLong_cases text with ⟨digits, suffix, rfl, hlong⟩ | hsplit
    · rw [splitLong_append digits hlong] at h
      obtain ⟨n, hn, h⟩ := hread.1 h
      exact ⟨digits, suffix, n, rfl, hn, .inr ⟨hlong, h⟩⟩
    · rw [hsplit] at h
      obtain ⟨n, hn, h⟩ := hread.1 h
      exact ⟨text, [], n, text.append_nil.symm, hn, .inl ⟨rfl, h⟩⟩
  · rintro ⟨digits, suffix, n, rfl, hn, ⟨rfl, h⟩ | ⟨hlong, h⟩⟩
    · rw [List.append_nil,
        splitLong_of_forall fun c hc ↦ hsuffix c ((hspells.1 hn).2.1 c hc)]
      exact hread.2 ⟨n, hn, h⟩
    · rw [splitLong_append digits hlong]
      exact hread.2 ⟨n, hn, h⟩

end Reader

/-! ## The readers of digits -/

theorem readHex?_eq_some_iff :
    readHex? text = some v ↔
      ∃ digits suffix n, text = digits ++ suffix ∧ Spells 16 digits n ∧
        (suffix = [] ∧ n < 2 ^ 32 ∧ .int32 (.ofBitVec (BitVec.ofNat 32 n)) = v ∨
          suffix ∈ longSuffixes ∧ n < 2 ^ 64 ∧ .int64 (.ofBitVec (BitVec.ofNat 64 n)) = v) := by
  have hsuffix : ∀ c, Digits.isHexDigit c = true → isLongSuffix c = false := by
    intro c hc
    rw [Bool.eq_false_iff]
    intro hlong
    simp only [isLongSuffix, Bool.or_eq_true, beq_iff_eq] at hlong
    rcases hlong with rfl | rfl <;> cases hc
  refine (readDigits_eq_some_iff
    (fun n ↦ if (IntegerType.unsignedOf 32).Holds n then
      some (.int32 (.ofBitVec (BitVec.ofNat 32 n))) else none)
    (fun n ↦ if (IntegerType.unsignedOf 64).Holds n then
      some (.int64 (.ofBitVec (BitVec.ofNat 64 n))) else none)
    Digits.spells_sixteen_iff hsuffix).trans ?_
  simp only [Option.ite_none_right_eq_some, IntegerType.holds_unsignedOf_iff, Option.some.injEq]

theorem readInteger?_eq_some_iff :
    readInteger? text = some v ↔
      ∃ digits suffix n, text = digits ++ suffix ∧ Spells 10 digits n ∧
        (suffix = [] ∧ n < 2 ^ 31 ∧ .int32 (Int32.ofNat n) = v ∨
          suffix ∈ longSuffixes ∧ n < 2 ^ 63 ∧ .int64 (Int64.ofNat n) = v) := by
  have hsuffix : ∀ c, Char.isDigit c = true → isLongSuffix c = false := fun c ↦
    forall_isDigit (p := fun c ↦ isLongSuffix c = false) (by decide)
  refine (readDigits_eq_some_iff
    (fun n ↦ if (IntegerType.signedOf 32).Holds n then some (.int32 (Int32.ofNat n)) else none)
    (fun n ↦ if (IntegerType.signedOf 64).Holds n then some (.int64 (Int64.ofNat n)) else none)
    Digits.spells_ten_iff hsuffix).trans ?_
  simp only [Option.ite_none_right_eq_some, IntegerType.holds_signedOf_iff, Option.some.injEq]

theorem toInt_ofBitVec_32 (n : Nat) :
    (Int32.ofBitVec (BitVec.ofNat 32 n)).toInt = (n : Int).bmod (2 ^ 32) :=
  BitVec.toInt_ofNat n

theorem toInt_ofBitVec_64 (n : Nat) :
    (Int64.ofBitVec (BitVec.ofNat 64 n)).toInt = (n : Int).bmod (2 ^ 64) :=
  BitVec.toInt_ofNat n

/-! ## Telling the forms apart -/

theorem isHex_iff : IsHex text ↔ ∃ mark rest, mark ∈ hexMarks ∧ text = '0' :: mark :: rest := by
  constructor
  · rintro (⟨rest, rfl⟩ | ⟨rest, rfl⟩)
    · exact ⟨'x', rest, by decide, rfl⟩
    · exact ⟨'X', rest, by decide, rfl⟩
  · rintro ⟨mark, rest, hmark, rfl⟩
    simp only [hexMarks, List.mem_cons, List.not_mem_nil, or_false] at hmark
    rcases hmark with rfl | rfl
    · exact .inl ⟨rest, rfl⟩
    · exact .inr ⟨rest, rfl⟩

theorem any_isRealMark_iff : text.any isRealMark = true ↔ ∃ c ∈ text, c ∈ realMarks := by
  have hmark : ∀ c, isRealMark c = true ↔ c ∈ realMarks := by
    intro c
    simp only [isRealMark, suffixType?, realMarks, Bool.or_eq_true, beq_iff_eq, List.mem_cons,
      List.not_mem_nil, or_false]
    split_ifs <;> simp only [Option.isSome_some, Option.isSome_none] <;> grind
  simp [hmark]

theorem not_mem_of_mem_longSuffixes (h : suffix ∈ longSuffixes) :
    ∀ c ∈ suffix, c ∉ hexMarks ∧ c ∉ realMarks := by
  simp only [longSuffixes, List.mem_cons, List.not_mem_nil, or_false] at h
  rcases h with rfl | rfl <;> simp [hexMarks, realMarks]

/-- What follows the mark of a hexadecimal integer. -/
theorem IntegerForm.of_mark (hmark : mark ∈ hexMarks) (hsuffix : ∀ c ∈ suffix, c ∉ hexMarks)
    (h : IntegerForm bits suffix ('0' :: mark :: rest) i) :
    ∃ digits n, rest = digits ++ suffix ∧ Spells 16 digits n ∧ n < 2 ^ bits ∧
      i = (n : Int).bmod (2 ^ bits) := by
  generalize htext : '0' :: mark :: rest = text at h
  cases h with
  | @decimal digits n h hn =>
    -- The mark is no digit, and the suffix has none.
    exfalso
    have hmem : mark ∈ digits ++ suffix := htext ▸ by simp
    rcases List.mem_append.1 hmem with hmem | hmem
    · have hdigit := (Digits.spells_ten_iff.1 h).2.1 mark hmem
      simp only [hexMarks, List.mem_cons, List.not_mem_nil, or_false] at hmark
      rcases hmark with rfl | rfl <;> cases hdigit
    · exact hsuffix mark hmem hmark
  | hexadecimal _ h hn =>
    cases htext
    exact ⟨_, _, rfl, h, hn, rfl⟩

/-- An integer without the mark of a hexadecimal one. -/
theorem IntegerForm.of_not_isHex (hhex : ¬ IsHex text) (h : IntegerForm bits suffix text i) :
    ∃ digits n, text = digits ++ suffix ∧ Spells 10 digits n ∧ n < 2 ^ (bits - 1) ∧ i = n := by
  cases h with
  | decimal h hn => exact ⟨_, _, rfl, h, hn, rfl⟩
  | hexadecimal hmark h hn => exact absurd (isHex_iff.2 ⟨_, _, hmark, rfl⟩) hhex

theorem IntegerForm.not_mem_realMarks (hhex : ¬ IsHex text) (hsuffix : ∀ c ∈ suffix, c ∉ realMarks)
    (h : IntegerForm bits suffix text i) : ¬ ∃ c ∈ text, c ∈ realMarks := by
  rintro ⟨c, hc, hmark⟩
  obtain ⟨digits, n, rfl, hdigits, -, -⟩ := h.of_not_isHex hhex
  rcases List.mem_append.1 hc with hc | hc
  · have hdigit := (Digits.spells_ten_iff.1 hdigits).2.1 c hc
    exact forall_isDigit (p := fun c ↦ c ∉ realMarks) (by decide) hdigit hmark
  · exact hsuffix c hc hmark

/-! ## Integers -/

/-- Hexadecimal integers. -/
theorem readHex?_iff_standsFor (hmark : mark ∈ hexMarks) :
    readHex? rest = some v ↔ StandsFor ('0' :: mark :: rest) v := by
  have hhex : IsHex ('0' :: mark :: rest) := isHex_iff.2 ⟨mark, rest, hmark, rfl⟩
  rw [readHex?_eq_some_iff]
  constructor
  · rintro ⟨digits, suffix, n, rfl, h, ⟨rfl, hn, rfl⟩ | ⟨hsuffix, hn, rfl⟩⟩
    · exact .int32 (toInt_ofBitVec_32 n ▸ .hexadecimal hmark h hn)
    · exact .int64 hsuffix (toInt_ofBitVec_64 n ▸ .hexadecimal hmark h hn)
  · intro h
    cases h with
    | int32 h =>
      obtain ⟨digits, n, rfl, h, hn, hvalue⟩ := h.of_mark hmark (by simp)
      refine ⟨digits, [], n, rfl, h, .inl ⟨rfl, hn, congrArg _ (Int32.toInt_inj.1 ?_)⟩⟩
      rw [hvalue, toInt_ofBitVec_32]
    | int64 hsuffix h =>
      obtain ⟨digits, n, rfl, h, hn, hvalue⟩ :=
        h.of_mark hmark fun c hc ↦ (not_mem_of_mem_longSuffixes hsuffix c hc).1
      refine ⟨digits, _, n, rfl, h, .inr ⟨hsuffix, hn, congrArg _ (Int64.toInt_inj.1 ?_)⟩⟩
      rw [hvalue, toInt_ofBitVec_64]
    | single h | double h | decimal h => exact absurd hhex h.notHex

/-- Decimal integers. -/
theorem readInteger?_iff_standsFor (hhex : ¬ IsHex text)
    (hmark : ¬ ∃ c ∈ text, c ∈ realMarks) :
    readInteger? text = some v ↔ StandsFor text v := by
  rw [readInteger?_eq_some_iff]
  constructor
  · rintro ⟨digits, suffix, n, rfl, h, ⟨rfl, hn, rfl⟩ | ⟨hsuffix, hn, rfl⟩⟩
    · exact .int32 (Int32.toInt_ofNat_of_lt hn ▸ .decimal h hn)
    · exact .int64 hsuffix (Int64.toInt_ofNat_of_lt hn ▸ .decimal h hn)
  · intro h
    cases h with
    | int32 h =>
      obtain ⟨digits, n, rfl, h, hn, hvalue⟩ := h.of_not_isHex hhex
      refine ⟨digits, [], n, rfl, h, .inl ⟨rfl, hn, congrArg _ (Int32.toInt_inj.1 ?_)⟩⟩
      rw [hvalue, Int32.toInt_ofNat_of_lt hn]
    | int64 hsuffix h =>
      obtain ⟨digits, n, rfl, h, hn, hvalue⟩ := h.of_not_isHex hhex
      refine ⟨digits, _, n, rfl, h, .inr ⟨hsuffix, hn, congrArg _ (Int64.toInt_inj.1 ?_)⟩⟩
      rw [hvalue, Int64.toInt_ofNat_of_lt hn]
    | single h | double h | decimal h => exact absurd h.mark hmark

/-! ## Real numbers -/

theorem suffixType?_eq_some_iff {c : Char} {type : ValueType} :
    suffixType? c = some type ↔ c ∈ suffixes type := by
  constructor
  · intro h
    simp only [suffixType?] at h
    split_ifs at h <;> cases h <;> simpa [suffixes]
  · intro h
    cases type <;> simp only [suffixes, List.mem_cons, List.not_mem_nil, or_false] at h <;>
      rcases h with rfl | rfl <;> rfl

theorem suffixed_splitReal (text : List Char) :
    Suffixed text (splitReal text).1 (splitReal text).2 := by
  rw [splitReal]
  split
  · rename_i type hsome
    obtain ⟨c, hc, htype⟩ := Option.bind_eq_some_iff.1 hsome
    obtain ⟨body, rfl⟩ := List.getLast?_eq_some_iff.1 hc
    rw [List.dropLast_concat]
    exact .suffix (suffixType?_eq_some_iff.1 htype)
  · rename_i hnone
    refine .plain fun c hc type hsuffix ↦ ?_
    rw [Option.mem_def.1 hc, Option.bind_some, suffixType?_eq_some_iff.2 hsuffix] at hnone
    cases hnone

theorem Suffixed.type_eq {type : ValueType} (h : Suffixed text body type) :
    type = .single ∨ type = .double ∨ type = .decimal := by
  cases h with
  | suffix h => cases type <;> first | decide | cases h
  | plain h => decide

theorem Suffixed.splitReal_eq {type : ValueType} (h : Suffixed text body type) :
    splitReal text = (body, type) := by
  cases h with
  | suffix h => exact splitReal_concat body (suffixType?_eq_some_iff.2 h)
  | plain h =>
    have hnone : text.getLast?.bind suffixType? = none := by
      refine Option.bind_eq_none_iff.2 fun c hc ↦ Option.eq_none_iff_forall_ne_some.2 ?_
      exact fun type htype ↦ h c hc type (suffixType?_eq_some_iff.1 htype)
    rw [splitReal, hnone]

theorem readFinite?_eq_some_iff {f : Format} {x : Floating f} :
    readFinite? body = some x ↔ Floating.read? body = some x ∧ x.isFinite = true :=
  Option.filter_eq_some_iff

theorem readDecimal?_eq (body : List Char) :
    readDecimal? body = if 'e' ∈ body ∨ 'E' ∈ body then Decimal.readScientific? body
      else Decimal.read? body := by
  have hmark : (body.any fun c ↦ c == 'e' || c == 'E') = true ↔ 'e' ∈ body ∨ 'E' ∈ body := by
    simp [and_or_left, exists_or]
  simp only [readDecimal?, hmark]

/-- Real numbers. -/
theorem readReal?_iff_standsFor (hhex : ¬ IsHex text) (hmark : ∃ c ∈ text, c ∈ realMarks) :
    readReal? text = some v ↔ StandsFor text v := by
  constructor
  · intro h
    have hform : RealForm text (splitReal text).1 (splitReal text).2 :=
      ⟨hhex, hmark, suffixed_splitReal text⟩
    rw [readReal?] at h
    generalize splitReal text = split at h hform
    obtain ⟨body, type⟩ := split
    rcases hform.suffixed.type_eq with rfl | rfl | rfl
    · obtain ⟨x, hx, rfl⟩ := Option.map_eq_some_iff.1 h
      obtain ⟨hread, hfinite⟩ := readFinite?_eq_some_iff.1 hx
      exact .single hform hread hfinite
    · obtain ⟨x, hx, rfl⟩ := Option.map_eq_some_iff.1 h
      obtain ⟨hread, hfinite⟩ := readFinite?_eq_some_iff.1 hx
      exact .double hform hread hfinite
    · obtain ⟨d, hd, rfl⟩ := Option.map_eq_some_iff.1 h
      exact .decimal hform ((readDecimal?_eq body).symm.trans hd)
  · intro h
    cases h with
    | int32 h => exact absurd hmark (h.not_mem_realMarks hhex (by simp))
    | int64 hsuffix h =>
      exact absurd hmark (h.not_mem_realMarks hhex fun c hc ↦
        (not_mem_of_mem_longSuffixes hsuffix c hc).2)
    | single h hread hfinite =>
      rw [readReal?, h.suffixed.splitReal_eq]
      exact Option.map_eq_some_iff.2 ⟨_, readFinite?_eq_some_iff.2 ⟨hread, hfinite⟩, rfl⟩
    | double h hread hfinite =>
      rw [readReal?, h.suffixed.splitReal_eq]
      exact Option.map_eq_some_iff.2 ⟨_, readFinite?_eq_some_iff.2 ⟨hread, hfinite⟩, rfl⟩
    | decimal h hread =>
      rw [readReal?, h.suffixed.splitReal_eq]
      exact Option.map_eq_some_iff.2 ⟨_, (readDecimal?_eq _).trans hread, rfl⟩

/-! ## All literals -/

/-- **A text is read as a value just if it stands for the value**, which is so for every text and
every value.  A text that stands for nothing is therefore malformed: one with the mark of
hexadecimal integers that is no integer, one that is no integer and has nothing of a real number
either, and one of which the body is not read as a finite number. -/
theorem read?_iff_standsFor (text : List Char) (v : Value) :
    read? text = some v ↔ StandsFor text v := by
  rw [read?.eq_def]
  split
  · exact readHex?_iff_standsFor (by decide)
  · exact readHex?_iff_standsFor (by decide)
  · rename_i hlower hupper
    have hhex : ¬ IsHex text := by
      rintro (⟨rest, rfl⟩ | ⟨rest, rfl⟩)
      · exact hlower rest rfl
      · exact hupper rest rfl
    split
    · rename_i hmark
      exact readReal?_iff_standsFor hhex (any_isRealMark_iff.1 hmark)
    · rename_i hmark
      exact readInteger?_iff_standsFor hhex (mt any_isRealMark_iff.2 hmark)

end NumberLiteral

end Formula
