import Formula.Floating.Shortest
import Formula.Proofs.Ascii
import Formula.Proofs.Digits
import Formula.Proofs.Floating.Rounding
import Mathlib.Data.List.TakeWhile

/-!
# The text of a binary number reads back

The digits of a finite number that is not negative are read as that number.  There are two halves
to it.  `ofScientific_shortest` is about the search for the shortest digits: whatever it returns
reads back, because the number itself is on the finest grid and is accepted there.
`read?_positional` is about notation: writing a decimal fraction without an exponent and reading it
again gives a fraction of the same value.

Both depend on the two cut-offs of `ofScientific`, which moves exponents beyond 400.
`Format.Covered` is what a format has to satisfy for this not to matter, and both formats do.
-/

set_option autoImplicit false

-- Powers of natural numbers are those of the core library, whatever else is imported.
attribute [local instance(high)] instPowNat

namespace Formula

/-! ## Formats within the cut-offs -/

/-- The cut-offs of `Floating.ofScientific` are beyond the decimal fractions for the numbers of a
format: below, the exact ones have enough digits; above, no integer part has more digits. -/
structure Format.Covered (f : Format) : Prop where
  low : 10 ^ (f.fractionBits - Floating.exponentLimit) ≤ 5 ^ f.fractionBits
  high : 2 ^ (f.width - f.fractionBits) ≤ 10 ^ Floating.exponentLimit

theorem Format.single_covered : Format.single.Covered where
  low := by decide +kernel
  high := by decide +kernel

theorem Format.double_covered : Format.double.Covered where
  low := by decide +kernel
  high := by decide +kernel

namespace Floating

variable {f : Format} {num den units : Nat} {accepts : Scientific → Bool} {exact : Scientific}

/-! ## Exponents within the cut-offs -/

/-- A number with places is the quotient by their power of ten. -/
theorem ofScientific_places {negative : Bool} {mantissa places : Nat}
    (h : places ≤ exponentLimit + Digits.count mantissa) :
    (ofScientific negative ⟨mantissa, -places⟩ : Floating f) =
      ofRatio negative mantissa (10 ^ places) := by
  have hexponent : max (-(exponentLimit + Digits.count mantissa : Int))
      (min exponentLimit (-(places : Int))) = -(places : Int) := by omega
  simp only [ofScientific, hexponent, Int.neg_neg, Int.toNat_natCast]
  split
  · obtain rfl : places = 0 := by omega
    simp
  · rfl

/-- A number without places is whole. -/
theorem ofScientific_whole (negative : Bool) (mantissa : Nat) {zeros : Nat}
    (h : zeros ≤ exponentLimit) :
    (ofScientific negative ⟨mantissa, zeros⟩ : Floating f) =
      ofRatio negative (mantissa * 10 ^ zeros) 1 := by
  have hexponent : max (-(exponentLimit + Digits.count mantissa : Int))
      (min exponentLimit (zeros : Int)) = zeros := by omega
  simp only [ofScientific, hexponent, Int.toNat_natCast]
  exact if_pos (Int.natCast_nonneg zeros)

/-! ## The search -/

/-- The number itself, as a decimal fraction, is read as that number. -/
theorem ofScientific_exact (hf : f.Covered) (fits : f.Fits units) (hpos : 0 < units) :
    ofScientific false ⟨units * 5 ^ f.fractionBits, -f.fractionBits⟩ =
      .finite false units fits := by
  have hlow := Nat.le_trans hf.low (Nat.le_mul_of_pos_left (5 ^ f.fractionBits) hpos)
  have hcount := Digits.lt_count hlow
  have hratio : units * 5 ^ f.fractionBits * 2 ^ f.fractionBits = 10 ^ f.fractionBits * units := by
    rw [Nat.mul_assoc, ← Nat.mul_pow, Nat.mul_comm]
  have hpow : 0 < 10 ^ f.fractionBits := Nat.pow_pos (by decide)
  have hscale := ofUnits_mul_mul (f := f) hpow false units 1
  rw [ofScientific_places (by omega), ofRatio, hratio, ← ofUnits_of_fits fits, ← hscale,
    Nat.mul_one]

/-- What the search returns reads back. -/
theorem ofScientific_shortest (hf : f.Covered) (fits : f.Fits units) (hpos : 0 < units) :
    ofScientific false (shortest units fits) = .finite false units fits := by
  have hexact := decide_eq_true (ofScientific_exact hf fits hpos)
  exact of_decide_eq_true (@accepts_coarsest
    (fun s ↦ decide (ofScientific false s = .finite false units fits)) _ _ _ hexact _ _)

theorem exponent_of_mem_neighbours {exponent : Int} {s : Scientific}
    (h : s ∈ neighbours num den exponent) : s.exponent = exponent := by
  dsimp only [neighbours] at h
  generalize (if 0 ≤ exponent then num else _) = scaledNum,
    (if 0 ≤ exponent then _ else den) = scaledDen at h
  split at h
  all_goals
    simp only [List.mem_cons, List.not_mem_nil, or_false] at h
    rcases h with rfl | rfl <;> rfl

/-- The search begins at its largest exponent, and goes down. -/
theorem exponent_coarsest_le {limit : Int} (hexact : exact.exponent ≤ limit) (grids : Nat) :
    ∀ exponent ≤ limit, (coarsest accepts num den exact exponent grids).exponent ≤ limit := by
  induction grids with
  | zero => exact fun _ _ ↦ hexact
  | succ grids ih =>
    intro exponent hexponent
    rw [coarsest]
    split
    · rename_i s hs
      have := exponent_of_mem_neighbours (List.mem_of_find?_eq_some hs)
      omega
    · exact ih _ (by omega)

theorem exponent_shortest_le (hf : f.Covered) (fits : f.Fits units) :
    (shortest units fits).exponent ≤ exponentLimit := by
  refine exponent_coarsest_le (by simp only; omega) _ _ ?_
  have hpos := Nat.two_pow_pos f.fractionBits
  rw [exponentAbove]
  split
  · have hlt : units / 2 ^ f.fractionBits < 10 ^ exponentLimit := by
      refine Nat.lt_of_lt_of_le ?_ hf.high
      rw [Nat.div_lt_iff_lt_mul hpos, ← Nat.pow_add]
      exact Nat.lt_of_lt_of_le fits.1 (Nat.pow_le_pow_right (by decide) (by omega))
    have := Digits.count_le (by decide) hlt
    omega
  · rw [exponentLimit]
    omega

end Floating

/-! ## Notation -/

namespace Scientific

variable {whole places : List Char}

theorem read?_digits (hne : whole ≠ []) (hwhole : ∀ c ∈ whole, c.isDigit = true) :
    read? whole = some ⟨Digits.value whole, 0⟩ := by
  have htake : whole.takeWhile Char.isDigit = whole := List.takeWhile_eq_self_iff.2 hwhole
  have hdrop : whole.dropWhile Char.isDigit = [] := List.dropWhile_eq_nil_iff.2 hwhole
  simp [read?, htake, hdrop, hne, readExponent?]

theorem read?_point (hne : whole ≠ []) (hwhole : ∀ c ∈ whole, c.isDigit = true)
    (hplaces : ∀ c ∈ places, c.isDigit = true) :
    read? (whole ++ '.' :: places) =
      some ⟨Digits.value (whole ++ places), -places.length⟩ := by
  have hpoint : Char.isDigit '.' = false := by decide
  have htake : (whole ++ '.' :: places).takeWhile Char.isDigit = whole := by
    rw [List.takeWhile_append_of_pos hwhole, List.takeWhile_cons, hpoint]
    simp
  have hdrop : (whole ++ '.' :: places).dropWhile Char.isDigit = '.' :: places := by
    rw [List.dropWhile_append_of_pos hwhole, List.dropWhile_cons, hpoint]
    simp
  have htake' : places.takeWhile Char.isDigit = places := List.takeWhile_eq_self_iff.2 hplaces
  have hdrop' : places.dropWhile Char.isDigit = [] := List.dropWhile_eq_nil_iff.2 hplaces
  simp [read?, htake, hdrop, htake', hdrop', hne, readExponent?]

theorem positional_plain (s : Scientific) : Digits.Plain s.positional := by
  rw [positional]
  split
  · exact Digits.plain_write _
  · exact Digits.plain_fixed _ _

/-- What is written without an exponent is read as a fraction of the same value. -/
theorem read?_positional {f : Format} {s : Scientific} (h : s.exponent ≤ Floating.exponentLimit) :
    ∃ s', read? s.positional = some s' ∧
      ∀ negative, (Floating.ofScientific negative s' : Floating f) =
        Floating.ofScientific negative s := by
  obtain ⟨mantissa, exponent⟩ := s
  rw [positional]
  split
  · rename_i hexponent
    obtain ⟨zeros, rfl⟩ := Int.eq_ofNat_of_zero_le hexponent
    refine ⟨_, read?_digits (Digits.write_ne_nil _) (fun c ↦ Digits.isDigit_of_mem_write), ?_⟩
    intro negative
    have hread := Floating.ofScientific_whole (f := f) negative (mantissa * 10 ^ zeros)
      (Nat.zero_le Floating.exponentLimit)
    rw [Digits.value_write, Int.toNat_natCast,
      Floating.ofScientific_whole negative mantissa (Int.ofNat_le.1 h)]
    exact hread.trans (by rw [Nat.pow_zero, Nat.mul_one])
  · rename_i hexponent
    obtain ⟨scale, rfl⟩ := Int.exists_eq_neg_ofNat (Int.le_of_not_le hexponent)
    have hpos : 0 < scale := by
      simp only at hexponent
      omega
    have hlt := Nat.mod_lt mantissa (Nat.pow_pos (n := scale) (show 0 < 10 by decide))
    rw [Int.neg_neg, Int.toNat_natCast, Digits.fixed, if_neg (by omega)]
    refine ⟨_, read?_point (Digits.write_ne_nil _) (fun c ↦ Digits.isDigit_of_mem_write)
      (fun c ↦ Digits.isDigit_of_mem_padded), fun negative ↦ ?_⟩
    rw [Digits.value_append, Digits.value_write, Digits.value_padded,
      Digits.length_padded hpos hlt, Nat.div_add_mod']

end Scientific

/-! ## Whole numbers -/

namespace Floating

variable {f : Format}

/-- A text that begins with a digit has no sign and is no name. -/
theorem read?_of_plain {text : List Char} (h : Digits.Plain text) :
    (read? text : Option (Floating f)) = (Scientific.read? text).map (ofScientific false) := by
  cases text with
  | nil => exact h.elim
  | cons c rest =>
    obtain ⟨hminus, hplus, hi, hn⟩ : c ≠ '-' ∧ c ≠ '+' ∧ c.toLower ≠ 'i' ∧ c.toLower ≠ 'n' :=
      forall_isDigit (p := fun c ↦ c ≠ '-' ∧ c ≠ '+' ∧ c.toLower ≠ 'i' ∧ c.toLower ≠ 'n')
        (by decide) h.1
    rw [read?]
    · simp [readMagnitude?, hi, hn]
    · rintro _ ⟨⟩
      exact hminus rfl
    · rintro _ ⟨⟩
      exact hplus rfl

/-- The digits of a number that is not negative. -/
def digits (units : Nat) (fits : f.Fits units) : List Char :=
  if units = 0 then ['0'] else (shortest units fits).positional

theorem text_eq (units : Nat) (fits : f.Fits units) :
    (finite false units fits).text.toList = digits units fits := by
  rw [text, String.toList_ofList]
  rfl

theorem plain_digits (units : Nat) (fits : f.Fits units) : Digits.Plain (digits units fits) := by
  rw [digits]
  split
  · exact ⟨by decide, by simp⟩
  · exact Scientific.positional_plain _

/-- **The digits of a number read back.** -/
theorem read?_digits (hf : f.Covered) (units : Nat) (fits : f.Fits units) :
    read? (digits units fits) = some (.finite false units fits) := by
  rw [read?_of_plain (plain_digits units fits), digits]
  split
  · rename_i hzero
    subst hzero
    have hread : Scientific.read? ['0'] = some ⟨0, 0⟩ := by decide
    have hofZero := ofScientific_whole (f := f) false 0 (Nat.zero_le exponentLimit)
    rw [hread, Option.map_some]
    refine congrArg some (hofZero.trans ?_)
    rw [ofRatio, Nat.zero_mul, ofUnits_of_fits fits]
  · rename_i hne
    obtain ⟨s', hread, hsame⟩ :=
      Scientific.read?_positional (f := f) (exponent_shortest_le hf fits)
    rw [hread, Option.map_some, hsame,
      ofScientific_shortest hf fits (Nat.pos_of_ne_zero hne)]

end Floating

end Formula
