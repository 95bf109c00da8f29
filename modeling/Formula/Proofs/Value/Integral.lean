import Formula.Proofs.Integer
import Formula.Proofs.Value.Widening

/-!
# Integral values as integers

The values of the four integral types are seen here as the integers that they stand for,
`Value.integral?`.  Such a value has an integer that its type holds
(`Value.exists_holds_of_integral?`), and is known from its type and its integer
(`Value.eq_of_integral?`).  A cast to an integral type wraps (`Value.exists_cast_of_integral?`).

Two such values meet in a type that holds the integers of both, so that widening them leaves their
integers alone: `Value.exists_ofValues?_of_integral?`.
-/

set_option autoImplicit false

namespace Formula

namespace ValueType

variable {s u t : ValueType}

theorem bits_pos {type : IntegerType} (h : t.integers? = some type) : 0 < type.bits := by
  cases t <;> cases h <;> decide

theorem isIntegral_iff : t.isIntegral = true ↔ ∃ type, t.integers? = some type := by
  cases t <;> simp [isIntegral, integers?]

/-- Two integral types meet in an integral type, which meets itself and the second one in itself. -/
theorem exists_promoteWith (hs : s.isIntegral = true) (hu : u.isIntegral = true) :
    ∃ t, s.promoteWith u = some t ∧ t.isIntegral = true ∧ t.promoteWith u = some t ∧
      t.promoteWith t = some t := by
  cases s <;> cases hs <;> cases u <;> cases hu <;> exact ⟨_, rfl, rfl, rfl, rfl⟩

/-- The type in which a type meets another one has all of its integers. -/
theorem holds_of_promoteWith {source target : IntegerType} {i : Int}
    (h : s.promoteWith u = some t) (hs : s.integers? = some source)
    (ht : t.integers? = some target) (hi : source.Holds i) : target.Holds i := by
  have hincludes : target.low ≤ source.low ∧ source.high ≤ target.high := by
    cases s <;> cases hs <;> cases u <;> cases h <;> cases ht <;> decide
  exact ⟨hincludes.1.trans hi.1, hi.2.trans hincludes.2⟩

end ValueType

namespace Value

variable {v w : Value} {i j : Int} {t : ValueType} {type : IntegerType}

/-- The integer of a value is one of the type of the value. -/
theorem exists_holds_of_integral? (h : v.integral? = some i) :
    ∃ type, v.type.integers? = some type ∧ type.Holds i := by
  cases v with
  | byte n =>
    cases h
    have hlt := n.toNat_lt
    refine ⟨_, rfl, ?_⟩
    simp only [IntegerType.Holds, IntegerType.low, IntegerType.high, IntegerType.unsignedOf,
      Bool.false_eq_true, if_false]
    omega
  | int16 n | int32 n | int64 n =>
    cases h
    have hle := n.le_toInt
    have hlt := n.toInt_lt
    refine ⟨_, rfl, ?_⟩
    simp only [IntegerType.Holds, IntegerType.low, IntegerType.high, IntegerType.signedOf, if_true]
    omega
  | null | boolean | string | single | double | decimal => cases h

/-- A value is known from its type and its integer. -/
theorem eq_of_integral? (htype : v.type = w.type) (hv : v.integral? = some i)
    (hw : w.integral? = some i) : v = w := by
  have hself := ofInteger?_type hv
  rw [htype, ofInteger?_type hw] at hself
  exact (Option.some.inj hself).symm

/-! ## Casts -/

theorem toNat_byte_ofInt (i : Int) : ((UInt8.ofInt i).toNat : Int) = i % 256 := by
  have hle : 0 ≤ i % 256 := Int.emod_nonneg i (by decide)
  have hlt : i % 256 < 256 := Int.emod_lt_of_pos i (by decide)
  rw [UInt8.ofInt, UInt8.toNat_ofNat']
  omega

/-- An integer in an integral type wraps. -/
theorem exists_ofInteger? (ht : t.integers? = some type) (i : Int) :
    ∃ w, ofInteger? t i = some w ∧ w.type = t ∧ w.integral? = some (type.wrap i) := by
  cases t with
  | byte =>
    cases ht
    exact ⟨_, rfl, rfl, congrArg some (toNat_byte_ofInt i)⟩
  | int16 =>
    cases ht
    exact ⟨_, rfl, rfl, congrArg some Int16.toInt_ofInt⟩
  | int32 =>
    cases ht
    exact ⟨_, rfl, rfl, congrArg some Int32.toInt_ofInt⟩
  | int64 =>
    cases ht
    exact ⟨_, rfl, rfl, congrArg some Int64.toInt_ofInt⟩
  | null | boolean | string | single | double | decimal => cases ht

/-- **A cast from one integral type to another wraps.** -/
theorem exists_cast_of_integral? (hv : v.integral? = some i) (ht : t.integers? = some type) :
    ∃ w, v.cast t = .ok w ∧ w.type = t ∧ w.integral? = some (type.wrap i) := by
  obtain ⟨w, hw, htype, hwrap⟩ := exists_ofInteger? ht i
  exact ⟨w, cast_of_integral? hv hw, htype, hwrap⟩

/-- A cast to an integral type that holds the integer keeps it. -/
theorem integral?_of_cast (hv : v.integral? = some i) (ht : t.integers? = some type)
    (hi : type.Holds i) (h : v.cast t = .ok w) : w.integral? = some i := by
  obtain ⟨w', hw', -, hwrap⟩ := exists_cast_of_integral? hv ht
  rw [h] at hw'
  cases hw'
  rw [hwrap, IntegerType.wrap_of_holds (ValueType.bits_pos ht) hi]

/-! ## Pairs -/

/-- **Two integral values meet as the integers that they are.** -/
theorem exists_ofValues?_of_integral? (hv : v.integral? = some i) (hw : w.integral? = some j)
    (h : v.type.promoteWith w.type = some t) (ht : t.integers? = some type) :
    ∃ p, NumberPair.ofValues? v w = some p ∧ p.type = t ∧ p.first.integral? = some i ∧
      p.second.integral? = some j := by
  obtain ⟨p, hp, rfl⟩ := NumberPair.exists_ofValues? h
  obtain ⟨hfirst, hsecond⟩ := NumberPair.cast_of_ofValues? hp
  obtain ⟨source, hsource, hi⟩ := exists_holds_of_integral? hv
  obtain ⟨source', hsource', hj⟩ := exists_holds_of_integral? hw
  have hi' := ValueType.holds_of_promoteWith h hsource ht hi
  rw [ValueType.promoteWith_comm] at h
  have hj' := ValueType.holds_of_promoteWith h hsource' ht hj
  exact ⟨p, hp, rfl, integral?_of_cast hv ht hi' hfirst, integral?_of_cast hw ht hj' hsecond⟩

end Value

end Formula
