import Formula.Value.Cast
import Formula.Value.Promotion
import Mathlib.Algebra.Order.Field.Basic
import Mathlib.Data.Rat.Floor

/-!
# Values as numbers

A numeric value stands for a rational number, for an infinity, or for nothing that is a number.
`Value.number?` is that view, and it goes by the value alone: the sign of a zero and the scale of a
decimal do not show in it, nor does the type.

Three operations on values are stated here in terms of it, without their representations: the
integer part of a decimal (`Decimal.truncate_eq_towardZero`), the integer that a binary number is
moved to within a range (`Floating.truncateWithin_eq_saturate`), and the order of two numbers of one
type (`NumberPair.compare?_of_rational`).
-/

set_option autoImplicit false

namespace Formula

/-- What a numeric value stands for. -/
inductive Number where
  | nan
  | infinity (negative : Bool)
  | rational (q : ℚ)
  deriving DecidableEq

/-- A rational number without what stands behind the point. -/
def towardZero (q : ℚ) : Int := if q < 0 then ⌈q⌉ else ⌊q⌋

/-- The integer of a type that a number comes to: truncated toward zero, moved to the nearer end of
the range where it lies outside, and `0` for what is not a number. -/
def Number.saturate (type : IntegerType) : Number → Int
  | nan => 0
  | infinity negative => if negative then type.low else type.high
  | rational q => max type.low (min type.high (towardZero q))

/-- The number of a binary format. -/
def Floating.number {f : Format} : Floating f → Number
  | .nan => .nan
  | .infinity negative => .infinity negative
  | .finite negative units _ => .rational (signed negative units / 2 ^ f.fractionBits)

/-- The value of a decimal. -/
def Decimal.rational (d : Decimal) : ℚ := Floating.signed d.negative d.mantissa / 10 ^ d.scale

/-- The number that a value stands for; none for the values of the types that are not numeric. -/
def Value.number? : Value → Option Number
  | single x => some x.number
  | double x => some x.number
  | decimal d => some (.rational d.rational)
  | v => v.integral?.map fun i ↦ .rational i

/-- Exactly the values of the numeric types stand for numbers. -/
theorem Value.isSome_number? (v : Value) : v.number?.isSome = v.type.isNumeric := by
  cases v <;> rfl

theorem Value.number?_of_integral? {v : Value} {i : Int} (h : v.integral? = some i) :
    v.number? = some (.rational i) := by
  cases v with
  | byte | int16 | int32 | int64 => cases h; rfl
  | null | boolean | string | single | double | decimal => cases h

theorem Floating.signed_natAbs (i : Int) : signed (decide (i < 0)) i.natAbs = i := by
  simp only [signed, decide_eq_true_eq]
  split <;> omega

theorem Floating.signed_mul (negative : Bool) (m n : Nat) :
    signed negative m * n = signed negative (m * n) := by
  cases negative <;> simp [signed]

/-- The decimal of an integer has its value. -/
theorem Decimal.rational_ofInt64 (n : Int64) : (ofInt64 n).rational = n.toInt := by
  have hsigned := congrArg (Int.cast (R := ℚ)) (Floating.signed_natAbs n.toInt)
  rw [rational]
  exact (div_one _).trans hsigned

/-! ## The integer part -/

@[simp] theorem towardZero_intCast (i : Int) : towardZero i = i := by
  simp [towardZero]

theorem towardZero_neg (q : ℚ) : towardZero (-q) = -towardZero q := by
  rcases lt_trichotomy q 0 with h | rfl | h
  · simp [towardZero, h, h.le, Int.floor_neg]
  · simp [towardZero]
  · simp [towardZero, h, h.le, Int.ceil_neg]

/-- The integer part of a fraction is the quotient of the magnitudes, with the sign. -/
theorem towardZero_signed_div (negative : Bool) (m n : Nat) :
    towardZero (Floating.signed negative m / n) = Floating.signed negative (m / n) := by
  have hquotient : towardZero (m / n) = ((m / n : Nat) : Int) := by
    have hnonneg : ¬ ((m / n : ℚ) < 0) := not_lt.2 (by positivity)
    rw [towardZero, if_neg hnonneg, Rat.floor_natCast_div_natCast, Int.natCast_ediv]
  cases negative
  · exact hquotient
  · simp only [Floating.signed, if_true, Int.cast_neg, Int.cast_natCast, neg_div, towardZero_neg,
      hquotient]

theorem Decimal.truncate_eq_towardZero (d : Decimal) : d.truncate = towardZero d.rational := by
  have hsplit := towardZero_signed_div d.negative d.mantissa (10 ^ d.scale)
  rw [Nat.cast_pow, Nat.cast_ofNat] at hsplit
  rw [Decimal.rational, hsplit]
  rfl

theorem Floating.truncateWithin_eq_saturate {f : Format} (type : IntegerType) (x : Floating f) :
    x.truncateWithin type.low type.high = x.number.saturate type := by
  cases x with
  | nan => rfl
  | infinity negative => rfl
  | finite negative units fits =>
    have hsplit := towardZero_signed_div negative units (2 ^ f.fractionBits)
    rw [Nat.cast_pow, Nat.cast_ofNat] at hsplit
    rw [number, Number.saturate, hsplit]
    rfl

/-! ## The order -/

/-- The order of two fractions over one denominator is that of their numerators. -/
theorem compare_div_div {c : ℚ} (hc : 0 < c) (i j : Int) :
    compare (i / c : ℚ) (j / c) = compare i j := by
  have hmono : StrictMono fun i : Int ↦ (i / c : ℚ) := fun i j h ↦
    div_lt_div_of_pos_right (Int.cast_lt.2 h) hc
  rw [← cmp_eq_compare, hmono.cmp_map_eq i j, cmp_eq_compare]

theorem compare_intCast (i j : Int) : compare (i : ℚ) j = compare i j := by
  simpa using compare_div_div one_pos i j

/-- A decimal is so many units of the last of all places. -/
theorem Decimal.rational_eq (d : Decimal) : d.rational = d.units / 10 ^ maxScale := by
  have hunits : d.units = Floating.signed d.negative (d.mantissa * 10 ^ (maxScale - d.scale)) := rfl
  have hsplit : (10 : ℚ) ^ maxScale = 10 ^ d.scale * 10 ^ (maxScale - d.scale) := by
    rw [← pow_add, Nat.add_sub_cancel' d.scale_le]
  rw [rational, hunits, hsplit, ← Floating.signed_mul]
  push_cast
  rw [mul_div_mul_right _ _ (by positivity)]

theorem Decimal.compare_eq (a b : Decimal) : a.compare b = Ord.compare a.rational b.rational := by
  rw [rational_eq, rational_eq, compare_div_div (by positivity), Decimal.compare]

/-- A binary number that stands for a rational is so many units of its format. -/
theorem Floating.exists_position? {f : Format} {x : Floating f} {q : ℚ}
    (h : x.number = .rational q) :
    ∃ i : Int, x.position? = some i ∧ q = i / 2 ^ f.fractionBits := by
  cases x with
  | nan | infinity => cases h
  | finite negative units fits =>
    cases h
    exact ⟨_, rfl, rfl⟩

theorem Floating.compare?_of_rational {f : Format} {x y : Floating f} {p q : ℚ}
    (hx : x.number = .rational p) (hy : y.number = .rational q) :
    x.compare? y = some (compare p q) := by
  obtain ⟨i, hi, rfl⟩ := exists_position? hx
  obtain ⟨j, hj, rfl⟩ := exists_position? hy
  rw [compare?, hi, hj, compare_div_div (by positivity)]

/-- **The order of two numbers of one type is that of the rationals** that they stand for. -/
theorem NumberPair.compare?_of_rational {pair : NumberPair} {p q : ℚ}
    (hfirst : pair.first.number? = some (.rational p))
    (hsecond : pair.second.number? = some (.rational q)) :
    pair.compare? = some (compare p q) := by
  cases pair with
  | byte a b =>
    cases hfirst
    cases hsecond
    -- Bytes are compared as natural numbers, and stand for the same as integers.
    rw [compare_intCast, ← cmp_eq_compare, Nat.strictMono_cast.cmp_map_eq, cmp_eq_compare]
    rfl
  | int16 a b | int32 a b | int64 a b =>
    cases hfirst
    cases hsecond
    rw [compare_intCast]
    rfl
  | single x y | double x y =>
    exact Floating.compare?_of_rational (Option.some.inj hfirst) (Option.some.inj hsecond)
  | decimal a b =>
    cases hfirst
    cases hsecond
    exact congrArg some (a.compare_eq b)

end Formula
