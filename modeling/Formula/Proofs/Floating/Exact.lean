import Formula.Proofs.Floating.Rounding
import Formula.Proofs.Value.Number

/-!
# Conversions that do not round

A number of units belongs to a format as soon as it is a multiple of some power of two and not too
many bits longer than that: `Format.fits_of_dvd`.  Two kinds of conversion are exact for that
reason.  An integer with no more bits than the precision is a number of the format
(`Floating.number_ofInt`), and so is a number of a format that lies within another
(`Floating.number_convert`), from which it comes back as it was (`Floating.convert_convert`).

In the other direction, `Floating.fits_of_number` says what a format must hold to have a whole
number at all.
-/

set_option autoImplicit false

namespace Formula

namespace Format

variable {f g : Format} {units : Nat}

theorem fits_of_dvd (zeros : Nat) (hwidth : units < 2 ^ f.width) (hdvd : 2 ^ zeros ∣ units)
    (hlt : units < 2 ^ (f.precision + zeros)) : f.Fits units := by
  refine ⟨hwidth, dvd_trans (pow_dvd_pow 2 ?_) hdvd⟩
  rcases Nat.eq_zero_or_pos units with rfl | hpos
  · have := f.precision_pos
    simp only [excess, Nat.log2_zero]
    omega
  · have := (Nat.log2_lt hpos.ne').2 hlt
    rw [excess]
    omega

theorem lt_two_pow_excess (f : Format) (units : Nat) :
    units < 2 ^ (f.precision + f.excess units) := by
  rw [pow_add]
  exact (Nat.div_lt_iff_lt_mul (Nat.two_pow_pos _)).1 (f.div_two_pow_excess_lt units)

/-- Whether the numbers of a format all belong to another, with a unit that is not larger. -/
structure Within (f g : Format) : Prop where
  precision : f.precision ≤ g.precision
  fractionBits : f.fractionBits ≤ g.fractionBits
  width : f.width + (g.fractionBits - f.fractionBits) ≤ g.width

theorem single_within_double : single.Within double := ⟨by decide, by decide, by decide⟩

/-- The number in the smaller unit belongs to the wider format. -/
theorem Within.fits (h : f.Within g) (hunits : f.Fits units) :
    g.Fits (units * 2 ^ (g.fractionBits - f.fractionBits)) := by
  have hpos := Nat.two_pow_pos (g.fractionBits - f.fractionBits)
  refine fits_of_dvd (f.excess units + (g.fractionBits - f.fractionBits)) ?_ ?_ ?_
  · refine Nat.lt_of_lt_of_le (Nat.mul_lt_mul_of_pos_right hunits.1 hpos) ?_
    rw [← pow_add]
    exact Nat.pow_le_pow_right two_pos h.width
  · rw [pow_add]
    exact mul_dvd_mul_right hunits.2 _
  · refine Nat.lt_of_lt_of_le (Nat.mul_lt_mul_of_pos_right (f.lt_two_pow_excess units) hpos) ?_
    rw [← pow_add]
    exact Nat.pow_le_pow_right two_pos (by have := h.precision; omega)

end Format

namespace Floating

variable {f g : Format} {i : Int}

/-- An integer of no more bits than the precision is a number of the format. -/
theorem number_ofInt (hf : f.precision + f.fractionBits ≤ f.width)
    (hi : i.natAbs < 2 ^ f.precision) : (ofInt i : Floating f).number = .rational i := by
  have hlt : i.natAbs * 2 ^ f.fractionBits < 2 ^ (f.precision + f.fractionBits) := by
    rw [pow_add]
    exact Nat.mul_lt_mul_of_pos_right hi (Nat.two_pow_pos _)
  have hfits : f.Fits (i.natAbs * 2 ^ f.fractionBits) :=
    Format.fits_of_dvd _ (hlt.trans_le (Nat.pow_le_pow_right two_pos hf)) (dvd_mul_left ..) hlt
  have hsigned : (signed (decide (i < 0)) (i.natAbs * 2 ^ f.fractionBits) : ℚ) =
      i * 2 ^ f.fractionBits := by
    rw [← signed_mul, signed_natAbs]
    push_cast
    rfl
  rw [ofInt, ofRatio, ofUnits_of_fits hfits, number, hsigned,
    mul_div_cancel_right₀ _ (by positivity)]

/-- A number in the unit of another format. -/
theorem convert_finite (h : f.Within g) (negative : Bool) {units : Nat} (fits : f.Fits units) :
    (finite negative units fits).convert = (finite negative _ (h.fits fits) : Floating g) := by
  have hsplit : units * 2 ^ g.fractionBits =
      2 ^ f.fractionBits * (units * 2 ^ (g.fractionBits - f.fractionBits)) := by
    rw [mul_left_comm, ← pow_add, Nat.add_sub_cancel' h.fractionBits]
  -- The quotient that is rounded has a common factor: without it, it is the number of units itself.
  have hscale := ofUnits_mul_mul (f := g) (Nat.two_pow_pos f.fractionBits) negative
    (units * 2 ^ (g.fractionBits - f.fractionBits)) 1
  rw [convert, ofRatio, hsplit, ← ofUnits_of_fits (h.fits fits), ← hscale, mul_one]

/-- **A number of a format is the same number in a wider one.** -/
theorem number_convert (h : f.Within g) (x : Floating f) :
    (x.convert : Floating g).number = x.number := by
  cases x with
  | nan | infinity => rfl
  | finite negative units fits =>
    have hunits : (2 : ℚ) ^ g.fractionBits =
        2 ^ f.fractionBits * 2 ^ (g.fractionBits - f.fractionBits) := by
      rw [← pow_add, Nat.add_sub_cancel' h.fractionBits]
    rw [convert_finite h, number, number, hunits, ← signed_mul]
    push_cast
    rw [mul_div_mul_right _ _ (by positivity)]

/-- **A number comes back from a wider format**, with the sign of zero. -/
theorem convert_convert (h : f.Within g) (x : Floating f) :
    (x.convert : Floating g).convert = x := by
  cases x with
  | nan | infinity => rfl
  | finite negative units fits =>
    have hsplit : units * 2 ^ (g.fractionBits - f.fractionBits) * 2 ^ f.fractionBits =
        2 ^ g.fractionBits * units := by
      rw [mul_assoc, ← pow_add, Nat.sub_add_cancel h.fractionBits, mul_comm]
    have hscale := ofUnits_mul_mul (f := f) (Nat.two_pow_pos g.fractionBits) negative units 1
    rw [convert_finite h, convert, ofRatio, hsplit, ← ofUnits_of_fits fits, ← hscale, mul_one]

/-- A format that has a whole number has it as so many units. -/
theorem fits_of_number {x : Floating f} {n : Nat} (h : x.number = .rational n) :
    f.Fits (n * 2 ^ f.fractionBits) := by
  cases x with
  | nan | infinity => cases h
  | finite negative units fits =>
    have hunits : signed negative units = (n * 2 ^ f.fractionBits : Nat) := by
      have hquotient := Number.rational.inj h
      rw [div_eq_iff (by positivity)] at hquotient
      exact_mod_cast hquotient
    have heq : units = n * 2 ^ f.fractionBits := by
      rw [signed] at hunits
      split at hunits <;> omega
    exact heq ▸ fits

end Floating

end Formula
