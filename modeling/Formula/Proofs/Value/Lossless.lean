import Formula.Proofs.Floating.Exact
import Formula.Proofs.Value.Conversion

/-!
# Casts that lose nothing

A type has room for another if it has a value for every number of it: `ValueType.Represents`.  For
numeric types that is a matter of a table, `ValueType.widenings`.  A cast to a type with room keeps
the number, and the cast back gives the value again (`Value.exists_cast_cast`).  For integers the
second half needs no more than the first, since any value that stands for an integer of a type is
cast to it (`Value.exists_cast_of_rational`).

A cast to an integral type without room loses the high bits, and then it makes no difference whether
they are lost at once or in two steps (`Value.exists_cast_cast_of_bits_le`).
-/

set_option autoImplicit false

namespace Formula

theorem IntegerType.natAbs_le {t : IntegerType} {i : Int} (h : t.Holds i) :
    i.natAbs ≤ 2 ^ t.bits := by
  have hhalf : 2 ^ (t.bits - 1) ≤ 2 ^ t.bits := Nat.pow_le_pow_right two_pos (Nat.sub_le ..)
  rw [Holds, low, high] at h
  split at h <;> omega

theorem Number.saturate_intCast {type : IntegerType} {i : Int} (h : type.Holds i) :
    saturate type (rational i) = i := by
  rw [saturate, towardZero_intCast, min_eq_right h.2, max_eq_right h.1]

namespace ValueType

variable {s t : ValueType}

/-- The types that have all numbers of a type. -/
def widenings : ValueType → List ValueType
  | byte => [byte, int16, int32, int64, single, double, decimal]
  | int16 => [int16, int32, int64, single, double, decimal]
  | int32 => [int32, int64, double, decimal]
  | int64 => [int64, decimal]
  | single => [single, double]
  | double => [double]
  | decimal => [decimal]
  | null | boolean | string => []

/-- The format of the numbers of a type, for the types in binary floating point. -/
def format? : ValueType → Option Format
  | single => some .single
  | double => some .double
  | _ => none

/-- Whether a type has a value for every number that a value of another type stands for. -/
def Represents (t s : ValueType) : Prop :=
  ∀ v : Value, v.type = s → ∃ w : Value, w.type = t ∧ w.number? = v.number?

theorem promoteWith_of_mem_widenings (h : t ∈ s.widenings) : s.promoteWith t = some t := by
  revert h
  cases s <;> cases t <;> decide

end ValueType

namespace Value

variable {v w : Value} {t : ValueType} {type : IntegerType} {i : Int}

/-! ## Out -/

/-- An integer of fewer bits than the precision is a number of the format. -/
theorem number_ofInt {f : Format} (hf : f.precision + f.fractionBits ≤ f.width)
    (hv : v.integral? = some i) (hbits : ∀ type ∈ v.type.integers?, type.bits < f.precision) :
    (Floating.ofInt i : Floating f).number = .rational i := by
  obtain ⟨type, htype, hi⟩ := exists_holds_of_integral? hv
  refine Floating.number_ofInt hf ((IntegerType.natAbs_le hi).trans_lt ?_)
  exact Nat.pow_lt_pow_right one_lt_two (hbits type htype)

/-- An integer that the target holds is cast without wrapping. -/
theorem exists_cast_of_holds (hv : v.integral? = some i) (ht : t.integers? = some type)
    (hi : type.Holds i) : ∃ w, v.cast t = .ok w ∧ w.type = t ∧ w.integral? = some i := by
  obtain ⟨w, hw, htype, -⟩ := exists_cast_of_integral? hv ht
  exact ⟨w, hw, htype, integral?_of_cast hv ht hi hw⟩

/-- An integer stays the same number in a type that has all numbers of its own. -/
theorem exists_cast_of_integral_mem (hv : v.integral? = some i) (h : t ∈ v.type.widenings) :
    ∃ w, v.cast t = .ok w ∧ w.number? = some (.rational i) := by
  have hmeet := ValueType.promoteWith_of_mem_widenings h
  obtain ⟨source, hsource, hi⟩ := exists_holds_of_integral? hv
  -- Only an integral target could wrap, and it does not, as its range holds the integer.
  match ht : t.integers? with
  | some type =>
    have hwide := ValueType.holds_of_promoteWith hmeet hsource ht hi
    obtain ⟨w, hw, -, hinteger⟩ := exists_cast_of_holds hv ht hwide
    exact ⟨w, hw, number?_of_integral? hinteger⟩
  | none =>
    cases t with
    | byte | int16 | int32 | int64 => cases ht
    | single =>
      refine ⟨_, cast_of_integral? hv rfl, congrArg some (number_ofInt (by decide) hv ?_)⟩
      revert h
      cases v.type <;> decide
    | double =>
      refine ⟨_, cast_of_integral? hv rfl, congrArg some (number_ofInt (by decide) hv ?_)⟩
      revert h
      cases v.type <;> decide
    | decimal =>
      obtain ⟨d, hd, hrational⟩ := cast_decimal_of_integral? hv
      exact ⟨_, hd, congrArg (some ∘ Number.rational) hrational⟩
    | null | boolean | string =>
      rw [ValueType.promoteWith_comm] at hmeet
      cases hmeet

/-! ## Back -/

/-- **A value that stands for an integer of an integral type is cast to that integer**, whatever
type it is of. -/
theorem exists_cast_of_rational (hw : w.number? = some (.rational i))
    (ht : t.integers? = some type) (hi : type.Holds i) :
    ∃ r, w.cast t = .ok r ∧ r.type = t ∧ r.integral? = some i := by
  cases w with
  | byte n | int16 n | int32 n | int64 n =>
    obtain rfl := Int.cast_injective (Number.rational.inj (Option.some.inj hw))
    exact exists_cast_of_holds rfl ht hi
  | single | double =>
    have hcast := exists_cast_of_floating (by simp [Value.type, ValueType.floating]) hw ht
    rwa [Number.saturate_intCast hi] at hcast
  | decimal d =>
    have hd : towardZero d.rational = i := by
      rw [Number.rational.inj (Option.some.inj hw), towardZero_intCast]
    exact hd ▸ exists_cast_decimal ht (hd ▸ hi)
  | null | boolean | string => cases hw

/-- **A cast to a type with all numbers of the source keeps the number, and the cast back gives the
value.** -/
theorem exists_cast_cast (h : t ∈ v.type.widenings) :
    ∃ w, v.cast t = .ok w ∧ w.number? = v.number? ∧ w.cast v.type = .ok v := by
  -- An integer needs nothing of the way back but the number; the others have few types to go to.
  match hv : v.integral? with
  | some i =>
    obtain ⟨w, hw, hnumber⟩ := exists_cast_of_integral_mem hv h
    obtain ⟨type, htype, hi⟩ := exists_holds_of_integral? hv
    obtain ⟨r, hr, hrtype, hrinteger⟩ := exists_cast_of_rational hnumber htype hi
    obtain rfl := eq_of_integral? hrtype hrinteger hv
    exact ⟨w, hw, hnumber.trans (number?_of_integral? hv).symm, hr⟩
  | none =>
    cases v with
    | single x =>
      simp only [Value.type, ValueType.widenings, List.mem_cons, List.not_mem_nil, or_false] at h
      rcases h with rfl | rfl
      · exact ⟨_, rfl, rfl, rfl⟩
      · have hwithin := Format.single_within_double
        refine ⟨double x.convert, rfl, congrArg some (Floating.number_convert hwithin x), ?_⟩
        exact congrArg (Except.ok ∘ single) (Floating.convert_convert hwithin x)
    | double | decimal =>
      obtain rfl := List.mem_singleton.1 h
      exact ⟨_, rfl, rfl, rfl⟩
    | byte | int16 | int32 | int64 => cases hv
    | null | boolean | string => cases h

/-! ## In two steps -/

/-- **Narrowing in two steps is narrowing at once.** -/
theorem exists_cast_cast_of_bits_le {u : ValueType} {wide : IntegerType}
    (hv : v.integral? = some i) (hu : u.integers? = some wide) (ht : t.integers? = some type)
    (hbits : type.bits ≤ wide.bits) :
    ∃ w r, v.cast u = .ok w ∧ w.cast t = .ok r ∧ v.cast t = .ok r := by
  obtain ⟨w, hw, -, hwide⟩ := exists_cast_of_integral? hv hu
  obtain ⟨r, hr, htype, hstep⟩ := exists_cast_of_integral? hwide ht
  obtain ⟨r', hr', htype', hdirect⟩ := exists_cast_of_integral? hv ht
  have hmod : wide.wrap i ≡ i [ZMOD 2 ^ type.bits] :=
    (wide.wrap_modEq i).of_dvd (pow_dvd_pow 2 hbits)
  rw [IntegerType.wrap_congr hmod] at hstep
  obtain rfl := eq_of_integral? (htype.trans htype'.symm) hstep hdirect
  exact ⟨w, r, hw, hr, hr'⟩

/-! ## Which types have room -/

theorem exists_integral?_of_isIntegral (hv : v.type.isIntegral = true) :
    ∃ i, v.integral? = some i := by
  rw [← isSome_integral?] at hv
  exact Option.isSome_iff_exists.1 hv

/-- A value of an integral type stands for an integer of the type. -/
theorem exists_integral?_of_type (hw : w.type = t) (ht : t.integers? = some type) :
    ∃ i, w.integral? = some i ∧ type.Holds i := by
  have hintegral : w.type.isIntegral = true := ValueType.isIntegral_iff.2 ⟨type, hw ▸ ht⟩
  obtain ⟨i, hi⟩ := exists_integral?_of_isIntegral hintegral
  obtain ⟨type', htype', hholds⟩ := exists_holds_of_integral? hi
  rw [hw, ht] at htype'
  cases htype'
  exact ⟨i, hi, hholds⟩

/-- Outside binary floating point, everything that stands for a number stands for a rational. -/
theorem number?_ne_nan (h : w.type ∉ ValueType.floating) : w.number? ≠ some .nan := by
  cases w with
  | single | double => exact absurd h (by simp [Value.type, ValueType.floating])
  | byte | int16 | int32 | int64 | decimal => simp [number?, integral?]
  | null | boolean | string => simp [number?, integral?]

/-- A whole number of 63 bits is a value of the widest integral type and of the decimals. -/
theorem exists_number?_eq {s : ValueType} (hs : s ∈ [ValueType.int64, .decimal]) {n : Nat}
    (hn : n < 2 ^ 63) : ∃ v : Value, v.type = s ∧ v.number? = some (.rational n) := by
  have hholds : (IntegerType.signedOf 64).Holds n := by
    simp only [IntegerType.Holds, IntegerType.low, IntegerType.high, IntegerType.signedOf, if_true]
    omega
  obtain ⟨v, -, hvtype, hv⟩ := exists_ofInteger?_of_holds (t := .int64) rfl hholds
  simp only [List.mem_cons, List.not_mem_nil, or_false] at hs
  rcases hs with rfl | rfl
  · exact ⟨v, hvtype, number?_of_integral? hv⟩
  · obtain ⟨d, -, hd⟩ := cast_decimal_of_integral? hv
    exact ⟨decimal d, rfl, congrArg (some ∘ Number.rational) hd⟩

end Value

namespace ValueType

variable {s t : ValueType} {source type : IntegerType}

namespace Represents

theorem holds (h : t.Represents s) (hs : s.integers? = some source)
    (ht : t.integers? = some type) {i : Int} (hi : source.Holds i) : type.Holds i := by
  obtain ⟨v, -, hvtype, hv⟩ := Value.exists_ofInteger?_of_holds hs hi
  obtain ⟨w, hwtype, hnumber⟩ := h v hvtype
  obtain ⟨j, hj, hholds⟩ := Value.exists_integral?_of_type hwtype ht
  rw [Value.number?_of_integral? hv, Value.number?_of_integral? hj] at hnumber
  obtain rfl := Int.cast_injective (Number.rational.inj (Option.some.inj hnumber))
  exact hholds

/-- Among the integral types it is the ends of the ranges that count. -/
theorem mem_of_integral (h : t.Represents s) (hs : s.integers? = some source)
    (ht : t.integers? = some type) : t ∈ s.widenings := by
  have hends := source.low_nonpos.trans source.high_nonneg
  have hlow := h.holds hs ht ⟨le_rfl, hends⟩
  have hhigh := h.holds hs ht ⟨hends, le_rfl⟩
  -- With the types named, the ends are numerals, and where the table has no entry one is too large.
  revert hlow hhigh
  cases s <;> cases hs <;> cases t <;> cases ht <;> decide

/-- Only binary floating point has what is not a number. -/
theorem mem_floating (h : t.Represents s) (hs : s ∈ floating) : t ∈ floating := by
  by_contra ht
  have hnan : ∃ v : Value, v.type = s ∧ v.number? = some .nan := by
    simp only [floating, List.mem_cons, List.not_mem_nil, or_false] at hs
    rcases hs with rfl | rfl
    · exact ⟨.single .nan, rfl, rfl⟩
    · exact ⟨.double .nan, rfl, rfl⟩
  obtain ⟨v, hvtype, hv⟩ := hnan
  obtain ⟨w, rfl, hnumber⟩ := h v hvtype
  exact Value.number?_ne_nan ht (hnumber.trans hv)

/-- No integral type has one half. -/
theorem integers?_eq_none (h : t.Represents decimal) : t.integers? = none := by
  let half : Decimal := { negative := false, mantissa := 5, scale := 1 }
  obtain ⟨w, hwtype, hnumber⟩ := h (.decimal half) rfl
  match ht : t.integers? with
  | none => rfl
  | some type =>
    obtain ⟨i, hi, -⟩ := Value.exists_integral?_of_type hwtype ht
    rw [Value.number?_of_integral? hi] at hnumber
    have hhalf : (i : ℚ) = 5 / 10 := by
      simpa [half, Decimal.rational, Floating.signed] using
        Number.rational.inj (Option.some.inj hnumber)
    have htwice : (2 * i : ℚ) = 1 := by
      rw [hhalf]
      norm_num
    have : 2 * i = 1 := by exact_mod_cast htwice
    omega

/-- Binary floating point that has room has every whole number of the type as so many units. -/
theorem fits {f : Format} {v : Value} {n : Nat} (h : t.Represents s) (ht : t.format? = some f)
    (hs : v.type = s) (hv : v.number? = some (.rational n)) :
    f.Fits (n * 2 ^ f.fractionBits) := by
  obtain ⟨w, rfl, hnumber⟩ := h v hs
  cases w with
  | single | double =>
    cases ht
    exact Floating.fits_of_number (Option.some.inj (hnumber.trans hv))
  | byte | int16 | int32 | int64 | decimal => cases ht
  | null | boolean | string => cases ht

end Represents

/-- Types with the least whole number that binary floating point of 32 bits leaves out. -/
theorem not_represents_single (hs : s ∈ [int32, int64, double, decimal]) :
    ¬ single.Represents s := by
  have hvalue : ∃ v : Value, v.type = s ∧ v.number? = some (.rational (16777217 : Nat)) := by
    simp only [List.mem_cons, List.not_mem_nil, or_false] at hs
    rcases hs with rfl | rfl | rfl | rfl
    · exact ⟨.int32 16777217, rfl, rfl⟩
    · exact Value.exists_number?_eq (by decide) (by decide)
    · have hnumber := Floating.number_ofInt (f := .double) (i := 16777217) (by decide) (by decide)
      exact ⟨.double _, rfl, congrArg some hnumber⟩
    · exact Value.exists_number?_eq (by decide) (by decide)
  obtain ⟨v, hvtype, hv⟩ := hvalue
  exact fun h ↦ absurd (h.fits rfl hvtype hv) (by decide +kernel)

/-- Types with the least whole number that binary floating point of 64 bits leaves out. -/
theorem not_represents_double (hs : s ∈ [int64, decimal]) : ¬ double.Represents s := by
  have hlt : 9007199254740993 < 2 ^ 63 := by decide
  obtain ⟨v, hvtype, hv⟩ := Value.exists_number?_eq hs hlt
  exact fun h ↦ absurd (h.fits rfl hvtype hv) (by decide +kernel)

theorem mem_widenings_of_represents (hs : s ∈ numeric) (ht : t ∈ numeric)
    (h : t.Represents s) : t ∈ s.widenings := by
  cases t with
  | byte | int16 | int32 | int64 =>
    cases s with
    | byte | int16 | int32 | int64 => exact h.mem_of_integral rfl rfl
    | single | double => exact absurd (h.mem_floating (by decide)) (by decide)
    | decimal => exact absurd h.integers?_eq_none nofun
    | null | boolean | string => exact absurd hs (by decide)
  | single =>
    cases s with
    | byte | int16 | single => decide
    | int32 | int64 | double | decimal => exact absurd h (not_represents_single (by decide))
    | null | boolean | string => exact absurd hs (by decide)
  | double =>
    cases s with
    | byte | int16 | int32 | single | double => decide
    | int64 | decimal => exact absurd h (not_represents_double (by decide))
    | null | boolean | string => exact absurd hs (by decide)
  | decimal =>
    cases s with
    | byte | int16 | int32 | int64 | decimal => decide
    | single | double => exact absurd (h.mem_floating (by decide)) (by decide)
    | null | boolean | string => exact absurd hs (by decide)
  | null | boolean | string => exact absurd ht (by decide)

/-- **The table is complete**: the types that it lists are those that have all the numbers. -/
theorem represents_iff (hs : s ∈ numeric) (ht : t ∈ numeric) :
    t.Represents s ↔ t ∈ s.widenings := by
  refine ⟨mem_widenings_of_represents hs ht, fun h v hv ↦ ?_⟩
  obtain ⟨w, hw, hnumber, -⟩ := Value.exists_cast_cast (hv ▸ h)
  exact ⟨w, Value.type_of_cast hw, hnumber⟩

end ValueType

/-- **Widening loses nothing, and narrowing composes.**  A numeric type has room for another exactly
if the table lists it.  A cast to a type that is listed succeeds, keeps the number and is undone by
the cast back.  An integer that is cast to an integral type, and from there to one that is no wider,
comes to the same as when it is cast there directly. -/
theorem Value.cast_cast :
    (∀ s ∈ ValueType.numeric, ∀ t ∈ ValueType.numeric, t.Represents s ↔ t ∈ s.widenings) ∧
    (∀ v : Value, ∀ t ∈ v.type.widenings,
      ∃ w, v.cast t = .ok w ∧ w.number? = v.number? ∧ w.cast v.type = .ok v) ∧
    (∀ (v : Value) (u t : ValueType) (wide type : IntegerType), v.type ∈ ValueType.integral →
      u.integers? = some wide → t.integers? = some type → type.bits ≤ wide.bits →
      ∃ w r, v.cast u = .ok w ∧ w.cast t = .ok r ∧ v.cast t = .ok r) := by
  refine ⟨fun s hs t ht ↦ ValueType.represents_iff hs ht, fun v t h ↦ exists_cast_cast h, ?_⟩
  intro v u t wide type hv hu ht hbits
  obtain ⟨i, hi⟩ := exists_integral?_of_isIntegral ((ValueType.mem_integral_iff v.type).1 hv)
  exact exists_cast_cast_of_bits_le hi hu ht hbits

end Formula
