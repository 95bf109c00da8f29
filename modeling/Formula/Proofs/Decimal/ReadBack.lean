import Formula.Decimal.Reader
import Formula.Proofs.Ascii
import Formula.Proofs.Digits
import Mathlib.Data.List.TakeWhile

/-!
# The text of a decimal reads back

The digits of a decimal are read as that decimal, with its scale: `Decimal.read?_fixed`.  No place
is lost, because the scale of a decimal and its mantissa are within the bounds that the reader goes
by.

The second part is about the sign.  A text without one never gives a negative decimal, with or
without an exponent, not even a negative zero.
-/

set_option autoImplicit false

-- Powers of natural numbers are those of the core library, whatever else is imported.
attribute [local instance(high)] instPowNat

namespace Formula.Decimal

/-! ## Reading back -/

/-- All places are taken where the result is within the bounds. -/
theorem appendPlaces?_of_digits {places : List Char} (hplaces : ∀ c ∈ places, c.isDigit = true) :
    ∀ mantissa scale, scale + places.length ≤ maxScale →
      mantissa * 10 ^ places.length + Digits.value places < mantissaBound →
      appendPlaces? mantissa scale places =
        some (mantissa * 10 ^ places.length + Digits.value places, scale + places.length) := by
  induction places with
  | nil => intro mantissa scale _ _; simp [appendPlaces?, Digits.value]
  | cons c places ih =>
    intro mantissa scale hscale hbound
    have hdigit : c ≠ '_' := forall_isDigit (p := (· ≠ '_')) (by decide) (hplaces c (by simp))
    have hvalue : mantissa * 10 ^ (c :: places).length + Digits.value (c :: places) =
        (10 * mantissa + Digits.digitValue c) * 10 ^ places.length + Digits.value places := by
      rw [← List.singleton_append, Digits.value_append, List.length_append, Nat.pow_add,
        Nat.add_mul, Nat.add_assoc]
      simp [Digits.value, Nat.mul_assoc, Nat.mul_comm]
    rw [hvalue] at hbound ⊢
    rw [List.length_cons] at hscale ⊢
    have hfits : 10 * mantissa + Digits.digitValue c < mantissaBound := by
      refine Nat.lt_of_le_of_lt ?_ hbound
      exact Nat.le_trans (Nat.le_mul_of_pos_right _ (Nat.pow_pos (by decide)))
        (Nat.le_add_right _ _)
    have hroom : scale < maxScale := by omega
    simp only [appendPlaces?, if_neg hdigit, if_pos (And.intro hroom hfits)]
    rw [ih (fun d hd ↦ hplaces d (List.mem_cons_of_mem c hd)) _ _ (by omega) hbound,
      Nat.add_assoc, Nat.add_comm 1]

theorem filter_isDigit_eq_self {digits : List Char} (h : ∀ c ∈ digits, c.isDigit = true) :
    digits.filter Char.isDigit = digits := List.filter_eq_self.2 h

theorem isSeparatedDigits_of_digits {digits : List Char} (hne : digits ≠ [])
    (h : ∀ c ∈ digits, c.isDigit = true) : isSeparatedDigits digits = true := by
  cases digits with
  | nil => exact absurd rfl hne
  | cons c digits =>
    simp only [isSeparatedDigits, Bool.and_eq_true, List.all_eq_true, Bool.or_eq_true]
    exact ⟨h c (by simp), fun d hd ↦ .inl (h d (by simp [hd]))⟩

theorem make?_self (d : Decimal) : make? d.negative d.mantissa d.scale = some d :=
  dif_pos ⟨d.mantissa_lt, d.scale_le⟩

theorem unsignedZero_of_not_negative {d : Decimal} (h : d.negative = false) :
    d.unsignedZero = d := by
  rw [unsignedZero, withSign, h]
  cases d
  cases h
  rfl

/-- Digits around a point, or digits alone, within the bounds. -/
theorem readMagnitude?_of_digits {text whole places : List Char} (negative : Bool)
    (htake : text.takeWhile (· != '.') = whole)
    (hdrop : (text.dropWhile (· != '.')).drop 1 = places) (hne : whole ≠ [])
    (hwhole : ∀ c ∈ whole, c.isDigit = true) (hplaces : ∀ c ∈ places, c.isDigit = true)
    (hscale : places.length ≤ maxScale)
    (hbound : Digits.value whole * 10 ^ places.length + Digits.value places < mantissaBound) :
    readMagnitude? negative text =
      (make? negative (Digits.value whole * 10 ^ places.length + Digits.value places)
        places.length).map unsignedZero := by
  have hdigits : isSeparatedDigits (whole ++ places) = true := by
    refine isSeparatedDigits_of_digits (by simp [hne]) fun c hc ↦ ?_
    rcases List.mem_append.1 hc with hc | hc
    · exact hwhole c hc
    · exact hplaces c hc
  have hmantissa : Digits.value whole < mantissaBound := by
    refine Nat.lt_of_le_of_lt ?_ hbound
    exact Nat.le_trans (Nat.le_mul_of_pos_right _ (Nat.pow_pos (by decide))) (Nat.le_add_right _ _)
  simp only [readMagnitude?, htake, hdrop, hdigits, if_true, filter_isDigit_eq_self hwhole,
    if_pos hmantissa]
  rw [appendPlaces?_of_digits hplaces _ _ (by omega) hbound, Option.bind_some, Nat.zero_add]

theorem read?_of_plain {text : List Char} (h : Digits.Plain text) :
    read? text = readMagnitude? false text := by
  cases text with
  | nil => exact h.elim
  | cons c rest =>
    obtain ⟨hminus, hplus⟩ : c ≠ '-' ∧ c ≠ '+' :=
      forall_isDigit (p := fun c ↦ c ≠ '-' ∧ c ≠ '+') (by decide) h.1
    rw [read?]
    · rintro _ ⟨⟩
      exact hminus rfl
    · rintro _ ⟨⟩
      exact hplus rfl

/-- **The digits of a decimal read back.** -/
theorem read?_fixed {d : Decimal} (h : d.negative = false) :
    read? (Digits.fixed d.mantissa d.scale) = some d := by
  have hpoint : ∀ {digits : List Char}, (∀ c ∈ digits, c.isDigit = true) →
      ∀ c ∈ digits, (c != '.') = true := fun hdigits c hc ↦
    forall_isDigit (p := fun c ↦ (c != '.') = true) (by decide) (hdigits c hc)
  have hself := h ▸ make?_self d
  rw [read?_of_plain (Digits.plain_fixed _ _), Digits.fixed]
  split
  · rename_i hscale
    have hdigits : ∀ c ∈ Digits.write d.mantissa, c.isDigit = true :=
      fun c ↦ Digits.isDigit_of_mem_write
    have htake := List.takeWhile_eq_self_iff.2 (hpoint hdigits)
    have hdrop := List.dropWhile_eq_nil_iff.2 (hpoint hdigits)
    have hvalue : Digits.value (Digits.write d.mantissa) * 10 ^ ([] : List Char).length +
        Digits.value [] = d.mantissa := by
      rw [Digits.value_write]
      simp [Digits.value]
    rw [readMagnitude?_of_digits false htake (by rw [hdrop, List.drop_nil])
      (Digits.write_ne_nil _) hdigits (by simp) (Nat.zero_le _) (hvalue ▸ d.mantissa_lt)]
    rw [hvalue, List.length_nil, ← hscale, hself, Option.map_some, unsignedZero_of_not_negative h]
  · rename_i hscale
    have hdigits : ∀ c ∈ Digits.write (d.mantissa / 10 ^ d.scale), c.isDigit = true :=
      fun c ↦ Digits.isDigit_of_mem_write
    have hlt := Nat.mod_lt d.mantissa (Nat.pow_pos (n := d.scale) (show 0 < 10 by decide))
    have hlength := Digits.length_padded (Nat.pos_of_ne_zero hscale) hlt
    have htake : (Digits.write (d.mantissa / 10 ^ d.scale) ++
        '.' :: Digits.padded d.scale (d.mantissa % 10 ^ d.scale)).takeWhile (· != '.') =
          Digits.write (d.mantissa / 10 ^ d.scale) := by
      rw [List.takeWhile_append_of_pos (hpoint hdigits)]
      simp
    have hdrop : ((Digits.write (d.mantissa / 10 ^ d.scale) ++
        '.' :: Digits.padded d.scale (d.mantissa % 10 ^ d.scale)).dropWhile (· != '.')).drop 1 =
          Digits.padded d.scale (d.mantissa % 10 ^ d.scale) := by
      rw [List.dropWhile_append_of_pos (hpoint hdigits)]
      simp
    have hvalue : Digits.value (Digits.write (d.mantissa / 10 ^ d.scale)) * 10 ^ d.scale +
        Digits.value (Digits.padded d.scale (d.mantissa % 10 ^ d.scale)) = d.mantissa := by
      rw [Digits.value_write, Digits.value_padded, Nat.div_add_mod']
    rw [readMagnitude?_of_digits false htake hdrop (Digits.write_ne_nil _) hdigits
      (fun c ↦ Digits.isDigit_of_mem_padded) (by rw [hlength]; exact d.scale_le)
      (by rw [hlength, hvalue]; exact d.mantissa_lt)]
    rw [hlength, hvalue, hself, Option.map_some, unsignedZero_of_not_negative h]

/-! ## No sign out of nothing -/

theorem negative_of_make? {negative : Bool} {mantissa scale : Nat} {d : Decimal}
    (h : make? negative mantissa scale = some d) : d.negative = negative := by
  rw [make?] at h
  split at h
  · cases h
    rfl
  · cases h

theorem negative_unsignedZero {d : Decimal} (h : d.negative = false) :
    d.unsignedZero.negative = false := by
  simp [unsignedZero, withSign, h]

theorem negative_of_readMagnitude? {text : List Char} {d : Decimal}
    (h : readMagnitude? false text = some d) : d.negative = false := by
  simp only [readMagnitude?] at h
  split at h
  · split at h
    · obtain ⟨made, hmade, rfl⟩ := Option.map_eq_some_iff.1 h
      obtain ⟨⟨mantissa, scale⟩, -, hmake⟩ := Option.bind_eq_some_iff.1 hmade
      exact negative_unsignedZero (negative_of_make? hmake)
    · cases h
  · cases h

/-- A text without a sign gives no negative decimal. -/
theorem negative_of_read? {text : List Char} {d : Decimal} (hsign : text.head? ≠ some '-')
    (h : read? text = some d) : d.negative = false := by
  rw [read?.eq_def] at h
  split at h
  · exact absurd rfl hsign
  · exact negative_of_readMagnitude? h
  · exact negative_of_readMagnitude? h

theorem negative_of_fit? {negative : Bool} {mantissa scale : Nat} {d : Decimal}
    (h : fit? negative mantissa scale = some d) : d.negative = negative := by
  simp only [fit?] at h
  split at h
  · cases h
  split at h
  · exact negative_of_make? h
  split at h
  · cases h
  · exact negative_of_make? h

/-- A product of decimals without a sign has none. -/
theorem negative_of_mul? {a b d : Decimal} (ha : a.negative = false) (hb : b.negative = false)
    (h : a.mul? b = some d) : d.negative = false := by
  simp only [mul?] at h
  split at h
  · cases h
    rfl
  split at h
  · cases h
    rfl
  obtain ⟨product, hproduct, rfl⟩ := Option.map_eq_some_iff.1 h
  have hnegative : product.negative = false := by
    rw [negative_of_fit? hproduct, ha, hb]
    rfl
  split
  · exact negative_unsignedZero hnegative
  · exact hnegative

theorem negative_of_timesPowerOfTen? {a d : Decimal} {exponent : Nat} (ha : a.negative = false)
    (h : a.timesPowerOfTen? exponent = some d) : d.negative = false := by
  have hstep : ∀ {a d : Decimal} (power : Nat), a.negative = false →
      (if power = 0 then some a else (make? false (10 ^ power) 0).bind a.mul?) = some d →
        d.negative = false := by
    intro a d power ha h
    split at h
    · cases h
      exact ha
    · obtain ⟨b, hb, hmul⟩ := Option.bind_eq_some_iff.1 h
      exact negative_of_mul? ha (negative_of_make? hb) hmul
  obtain ⟨product, hproduct, hd⟩ := Option.bind_eq_some_iff.1 h
  exact hstep _ (hstep _ ha hproduct) hd

theorem negative_normalize {d : Decimal} (h : d.negative = false) :
    d.normalize.negative = false := by
  rw [normalize]
  cases hmake : make? d.negative (stripPlaces d.mantissa d.scale).1
      (stripPlaces d.mantissa d.scale).2 with
  | none => simpa [hmake] using h
  | some made =>
    have := negative_unsignedZero ((negative_of_make? hmake).trans h)
    simpa [hmake] using this

/-- A text without a sign gives no negative decimal, whatever its exponent. -/
theorem negative_of_readScientific? {text : List Char} {d : Decimal}
    (hsign : text.head? ≠ some '-') (h : readScientific? text = some d) : d.negative = false := by
  simp only [readScientific?] at h
  obtain ⟨base, hbase, h⟩ := Option.bind_eq_some_iff.1 h
  have hnegative : base.negative = false := by
    refine negative_of_read? (fun hhead ↦ hsign ?_) hbase
    cases text with
    | nil => exact hhead
    | cons c rest =>
      rw [List.takeWhile_cons] at hhead
      split at hhead
      · exact hhead
      · cases hhead
  split at h
  · obtain ⟨exponent, -, h⟩ := Option.bind_eq_some_iff.1 h
    exact (negative_of_make? h).trans hnegative
  · obtain ⟨exponent, -, h⟩ := Option.bind_eq_some_iff.1 h
    split at h
    · exact (negative_of_make? h).trans hnegative
    split at h
    · cases h
    · obtain ⟨product, hproduct, rfl⟩ := Option.map_eq_some_iff.1 h
      exact negative_normalize (negative_of_timesPowerOfTen? hnegative hproduct)

end Formula.Decimal
