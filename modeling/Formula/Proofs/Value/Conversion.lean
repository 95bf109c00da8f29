import Formula.Proofs.Decimal.Truncation
import Formula.Proofs.Value.Number
import Formula.Proofs.Value.Wrapping

/-!
# What a cast does

A cast to another type goes by the two families that the types belong to.  An integer that is out of
the range of an integral target wraps, a binary number is moved to the nearer end, and a decimal
fails; which of the three it is depends on the source alone.  `Value.cast_rules` has all of it, with
values seen as the numbers that they stand for.

That a cast fails in only two ways is `Value.cast_eq_error`: for types between which there is no
cast, or on the way from or to a decimal.  What remains are the families, one lemma for each.
-/

set_option autoImplicit false

namespace Formula

namespace IntegerType

variable {t : IntegerType} {i : Int}

theorem low_nonpos (t : IntegerType) : t.low ≤ 0 := by
  have := Nat.two_pow_pos (t.bits - 1)
  rw [low]
  split <;> omega

theorem high_nonneg (t : IntegerType) : 0 ≤ t.high := by
  have := Nat.two_pow_pos (t.bits - 1)
  have := Nat.two_pow_pos t.bits
  rw [high]
  split <;> omega

end IntegerType

theorem Number.holds_saturate (type : IntegerType) (x : Number) :
    type.Holds (x.saturate type) := by
  have hlow := type.low_nonpos
  have hhigh := type.high_nonneg
  have hends := hlow.trans hhigh
  cases x with
  | nan => exact ⟨hlow, hhigh⟩
  | infinity negative =>
    cases negative
    · exact ⟨hends, le_rfl⟩
    · exact ⟨le_rfl, hends⟩
  | rational q => exact ⟨le_max_left .., max_le hends (min_le_left ..)⟩

namespace ValueType

variable {s t : ValueType}

theorem not_mem_numeric_iff (t : ValueType) : t ∉ numeric ↔ t ∈ [null, boolean, string] := by
  cases t <;> decide

/-- An integral type is none that is not. -/
theorem ne_of_integers? {type : IntegerType} (hs : s.integers? = none)
    (ht : t.integers? = some type) : s ≠ t := by
  rintro rfl
  rw [hs] at ht
  cases ht

end ValueType

namespace Value

variable {v w : Value} {t : ValueType} {type : IntegerType} {i : Int}

/-! ## How a cast fails -/

theorem ofFloating_eq_error {f : Format} {x : Floating f} {d? : Option Decimal} {e : EvalError}
    (h : ofFloating t x d? = .error e) : e = .overflow t.castName ∧ t = .decimal := by
  cases t with
  | decimal =>
    cases d? with
    | none => cases h; exact ⟨rfl, rfl⟩
    | some => cases h
  | null | boolean | string | byte | int16 | int32 | int64 | single | double => cases h

theorem ofDecimal_eq_error {d : Decimal} {e : EvalError} (h : ofDecimal t d = .error e) :
    e = .overflow t.castName ∧ t ≠ .decimal := by
  cases t with
  | byte | int16 | int32 | int64 =>
    rw [ofDecimal] at h
    split at h
    · cases h
    · cases h
      exact ⟨rfl, by decide⟩
  | null | boolean | string | single | double | decimal => cases h

/-- A conversion that fails is one from or to a decimal. -/
theorem convert?_eq_error {e : EvalError} (h : convert? t v = .error e) :
    e = .overflow t.castName ∧ (v.type = .decimal ↔ t ≠ .decimal) := by
  cases v with
  | single | double =>
    obtain ⟨he, rfl⟩ := ofFloating_eq_error h
    exact ⟨he, by simp [type]⟩
  | decimal d =>
    obtain ⟨he, ht⟩ := ofDecimal_eq_error h
    exact ⟨he, by simp [type, ht]⟩
  | null | boolean | string | byte | int16 | int32 | int64 => cases h

/-- There is a conversion between any two numeric types, and between no others. -/
theorem convert?_eq_none_iff :
    convert? t v = .ok none ↔ v.type ∉ ValueType.numeric ∨ t ∉ ValueType.numeric := by
  by_cases hv : v.type ∈ ValueType.numeric
  · have hconverts := converts_convert? t hv
    match hresult : convert? t v with
    | .ok none =>
      rw [hresult] at hconverts
      exact ⟨fun _ ↦ .inr hconverts, fun _ ↦ rfl⟩
    | .ok (some _) | .error _ =>
      rw [hresult] at hconverts
      simp [hv, hconverts.1]
  · simp [hv, convert?_eq_none t hv]

/-- **A cast fails in two ways**: there is none between the two types, or it is one from or to a
decimal and leaves the range of its target. -/
theorem cast_eq_error {e : EvalError} (h : v.cast t = .error e) :
    (e = .invalidCast v.type t ∧ (v.type ∉ ValueType.numeric ∨ t ∉ ValueType.numeric)) ∨
      (e = .overflow t.castName ∧ (v.type = .decimal ↔ t ≠ .decimal)) := by
  rw [cast] at h
  split at h
  · cases h
  split at h
  · cases h
  · rename_i hnone
    cases h
    exact .inl ⟨rfl, convert?_eq_none_iff.1 hnone⟩
  · rename_i herror
    cases h
    exact .inr (convert?_eq_error herror)

/-- To another type, there is no cast exactly if one of the two types is not numeric. -/
theorem cast_eq_invalidCast_iff (h : v.type ≠ t) :
    v.cast t = .error (.invalidCast v.type t) ↔
      v.type ∉ ValueType.numeric ∨ t ∉ ValueType.numeric := by
  constructor
  · intro hcast
    rcases cast_eq_error hcast with ⟨-, hnumeric⟩ | ⟨⟨⟩, -⟩
    exact hnumeric
  · intro hnumeric
    rw [cast, if_neg h, convert?_eq_none_iff.2 hnumeric]

theorem type_of_cast (h : v.cast t = .ok w) : w.type = t := by
  have hconforms := conforms_cast t v
  rw [h, ValueType.castResult?] at hconforms
  split at hconforms
  · exact hconforms
  · exact hconforms.elim

/-! ## From binary floating point to integers -/

/-- An integer that the target holds is converted without wrapping. -/
theorem exists_ofInteger?_of_holds (ht : t.integers? = some type) (hi : type.Holds i) :
    ∃ w, ofInteger? t i = some w ∧ w.type = t ∧ w.integral? = some i := by
  obtain ⟨w, hw, htype, hwrap⟩ := exists_ofInteger? ht i
  rw [IntegerType.wrap_of_holds (ValueType.bits_pos ht) hi] at hwrap
  exact ⟨w, hw, htype, hwrap⟩

theorem exists_ofFloating {f : Format} (ht : t.integers? = some type) (x : Floating f)
    (d? : Option Decimal) :
    ∃ w, ofFloating t x d? = .ok (some w) ∧ w.type = t ∧
      w.integral? = some (x.number.saturate type) := by
  obtain ⟨w, hw, hresult⟩ := exists_ofInteger?_of_holds ht (x.number.holds_saturate type)
  refine ⟨w, ?_, hresult⟩
  rw [← x.truncateWithin_eq_saturate] at hw
  cases t with
  | byte | int16 | int32 | int64 =>
    cases ht
    exact congrArg Except.ok hw
  | null | boolean | string | single | double | decimal => cases ht

theorem isSome_number?_of_floating (hv : v.type ∈ ValueType.floating) : v.number?.isSome := by
  rw [isSome_number?]
  revert hv
  cases v.type <;> decide

/-- **A binary number is truncated and moved into the range** of an integral type. -/
theorem exists_cast_of_floating {x : Number} (hv : v.type ∈ ValueType.floating)
    (hx : v.number? = some x) (ht : t.integers? = some type) :
    ∃ w, v.cast t = .ok w ∧ w.type = t ∧ w.integral? = some (x.saturate type) := by
  cases v with
  | single | double =>
    cases hx
    obtain ⟨w, hw, hresult⟩ := exists_ofFloating ht _ _
    refine ⟨w, ?_, hresult⟩
    rw [cast, if_neg (ValueType.ne_of_integers? rfl ht), convert?, hw]
  | null | boolean | string | byte | int16 | int32 | int64 | decimal =>
    simp [Value.type, ValueType.floating] at hv

/-! ## From decimals to integers, and back -/

theorem ofDecimal_eq (ht : t.integers? = some type) (d : Decimal) :
    ofDecimal t d =
      match d.toInteger? type with
      | some i => .ok (ofInteger? t i)
      | none => .error (.overflow t.castName) := by
  cases t with
  | byte | int16 | int32 | int64 =>
    cases ht
    rfl
  | null | boolean | string | single | double | decimal => cases ht

/-- A decimal as an integer of an integral type goes by the range of that type alone. -/
theorem toInteger?_of_integers? (ht : t.integers? = some type) (d : Decimal) :
    d.toInteger? type =
      if type.Holds (towardZero d.rational) then some (towardZero d.rational) else none := by
  rw [← d.truncate_eq_towardZero]
  cases t with
  | byte | int16 | int32 | int64 =>
    cases ht
    -- Every range lies within that of 64 bits, so the step over 64 bits refuses nothing else.
    exact Decimal.toInteger?_of_le (by decide) (by decide) d
  | null | boolean | string | single | double | decimal => cases ht

/-- **A decimal is truncated** if the integral type holds the result. -/
theorem exists_cast_decimal (ht : t.integers? = some type) {d : Decimal}
    (hd : type.Holds (towardZero d.rational)) :
    ∃ w, (decimal d).cast t = .ok w ∧ w.type = t ∧ w.integral? = some (towardZero d.rational) := by
  obtain ⟨w, hw, hresult⟩ := exists_ofInteger?_of_holds ht hd
  have hconvert : convert? t (decimal d) = .ok (some w) := by
    rw [convert?, ofDecimal_eq ht, toInteger?_of_integers? ht, if_pos hd]
    exact congrArg Except.ok hw
  refine ⟨w, ?_, hresult⟩
  rw [cast, if_neg (ValueType.ne_of_integers? rfl ht), hconvert]

/-- **A decimal is refused** if the integral type does not hold its integer part. -/
theorem cast_decimal_eq_overflow (ht : t.integers? = some type) {d : Decimal}
    (hd : ¬ type.Holds (towardZero d.rational)) :
    (decimal d).cast t = .error (.overflow t.castName) := by
  rw [cast, if_neg (ValueType.ne_of_integers? rfl ht), convert?, ofDecimal_eq ht,
    toInteger?_of_integers? ht, if_neg hd]

/-- The integers of all integral types are integers of 64 bits. -/
theorem toInt_of_integral? (hv : v.integral? = some i) : (Int64.ofInt i).toInt = i := by
  obtain ⟨type, htype, hi⟩ := exists_holds_of_integral? hv
  have hmeet : v.type.promoteWith .int64 = some .int64 := by
    cases v <;> first | rfl | cases htype
  have hcast : v.cast .int64 = .ok (int64 (Int64.ofInt i)) := cast_of_integral? hv rfl
  have hholds := ValueType.holds_of_promoteWith hmeet htype rfl hi
  exact Option.some.inj (integral?_of_cast hv rfl hholds hcast)

/-- **An integer becomes the decimal of the same value**, without places. -/
theorem cast_decimal_of_integral? (hv : v.integral? = some i) :
    ∃ d, v.cast .decimal = .ok (decimal d) ∧ d.rational = i := by
  refine ⟨_, cast_of_integral? hv rfl, ?_⟩
  rw [Decimal.rational_ofInt64, toInt_of_integral? hv]

/-! ## All casts -/

/-- **What a cast does.**  A value of the target type stays as it is.  Otherwise there is a cast
exactly if both types are numeric, what it gives has the target type, and it fails only on the way
from or to a decimal.  To an integral type, integers wrap, binary numbers are truncated and moved
into the range, and decimals are truncated and have to lie in it.  Integers become decimals of the
same value. -/
theorem cast_rules (v : Value) (t : ValueType) :
    (v.type = t → v.cast t = .ok v) ∧
    (v.type ≠ t →
      (v.cast t = .error (.invalidCast v.type t) ↔
        v.type ∈ [.null, .boolean, .string] ∨ t ∈ [.null, .boolean, .string]) ∧
      (∀ w, v.cast t = .ok w → w.type = t) ∧
      (∀ e, v.cast t = .error e → e = .invalidCast v.type t ∨
        (e = .overflow t.castName ∧ (v.type = .decimal ↔ t ≠ .decimal))) ∧
      (∀ i, v.integral? = some i → t = .decimal →
        ∃ d, v.cast t = .ok (decimal d) ∧ d.rational = i) ∧
      ∀ type, t.integers? = some type →
        (∀ i, v.integral? = some i → ∃ w, v.cast t = .ok w ∧ w.Wraps t i) ∧
        (v.type ∈ [.single, .double] → ∃ x w, v.number? = some x ∧ v.cast t = .ok w ∧
          w.type = t ∧ w.integral? = some (x.saturate type)) ∧
        ∀ d, v = decimal d →
          if type.Holds (towardZero d.rational) then
            ∃ w, v.cast t = .ok w ∧ w.type = t ∧ w.integral? = some (towardZero d.rational)
          else v.cast t = .error (.overflow t.castName)) := by
  refine ⟨fun h ↦ if_pos h, fun h ↦ ⟨?_, fun w ↦ type_of_cast, fun e herror ↦ ?_, ?_, ?_⟩⟩
  · rw [cast_eq_invalidCast_iff h, ValueType.not_mem_numeric_iff, ValueType.not_mem_numeric_iff]
  · rcases cast_eq_error herror with ⟨he, -⟩ | hoverflow
    · exact .inl he
    · exact .inr hoverflow
  · rintro i hi rfl
    exact cast_decimal_of_integral? hi
  · refine fun type ht ↦ ⟨fun i hi ↦ ?_, fun hv ↦ ?_, ?_⟩
    · obtain ⟨w, hw, htype, hwrap⟩ := exists_cast_of_integral? hi ht
      exact ⟨w, hw, .of_integral? ht htype hwrap⟩
    · obtain ⟨x, hx⟩ := Option.isSome_iff_exists.1 (isSome_number?_of_floating hv)
      obtain ⟨w, hresult⟩ := exists_cast_of_floating hv hx ht
      exact ⟨x, w, hx, hresult⟩
    · rintro d rfl
      split
      · rename_i hholds
        exact exists_cast_decimal ht hholds
      · rename_i hholds
        exact cast_decimal_eq_overflow ht hholds

end Value

end Formula
