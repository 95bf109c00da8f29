import Formula.Rounding

/-!
# Binary floating point

A binary format counts magnitudes in units of its least positive number, so that every finite
number of the format is a natural number of units together with a sign.  Not every number of units
belongs to the format: `Format.Fits` says which do, and the type `Floating` holds no others.  Zero
keeps its sign, and there is one not-a-number.

`Floating.ofUnits` rounds an exact quotient of units to the format, to nearest with ties to even,
and is the only way in which the operations here build a finite number.  Everything is exact
arithmetic on integers.
-/

set_option autoImplicit false

-- Powers of natural numbers are those of the core library, whatever else is imported.
attribute [local instance(high)] instPowNat

namespace Formula

/-! ## Formats -/

/-- A binary format: `precision` significant bits, the unit `2 ^ -fractionBits`, and magnitudes
below `2 ^ width` units. -/
structure Format where
  precision : Nat
  fractionBits : Nat
  width : Nat
  precision_pos : 0 < precision := by decide

namespace Format

/-- The format of 32 bits. -/
def single : Format := { precision := 24, fractionBits := 149, width := 277 }

/-- The format of 64 bits. -/
def double : Format := { precision := 53, fractionBits := 1074, width := 2098 }

variable (f : Format)

/-- How many low bits of a number of units lie beyond the precision. -/
def excess (units : Nat) : Nat := units.log2 + 1 - f.precision

/-- The numbers of units that belong to a format: not too large, and zero beyond the precision. -/
def Fits (units : Nat) : Prop := units < 2 ^ f.width ∧ 2 ^ f.excess units ∣ units

instance (units : Nat) : Decidable (f.Fits units) := inferInstanceAs (Decidable (_ ∧ _))

/-- The quotient `num / den` rounded to the precision, to nearest with ties to even. -/
def roundUnits (num den : Nat) : Nat :=
  divHalfEven num (den * 2 ^ f.excess (num / den)) * 2 ^ f.excess (num / den)

theorem div_two_pow_excess_lt (q : Nat) : q / 2 ^ f.excess q < 2 ^ f.precision := by
  rw [Nat.div_lt_iff_lt_mul (Nat.two_pow_pos _), ← Nat.pow_add]
  exact Nat.lt_of_lt_of_le Nat.lt_log2_self
    (Nat.pow_le_pow_right (by decide) (by rw [excess]; omega))

/-- Rounding to the precision leaves nothing beyond it. -/
theorem excess_roundUnits_dvd (num den : Nat) :
    2 ^ f.excess (f.roundUnits num den) ∣ f.roundUnits num den := by
  have hle : divHalfEven num (den * 2 ^ f.excess (num / den)) ≤ 2 ^ f.precision := by
    refine Nat.le_trans (divHalfEven_le _ _) ?_
    rw [← Nat.div_div_eq_div_mul]
    exact f.div_two_pow_excess_lt _
  rw [roundUnits]
  generalize divHalfEven num (den * 2 ^ f.excess (num / den)) = r at hle
  generalize f.excess (num / den) = e
  rcases Nat.eq_zero_or_pos (r * 2 ^ e) with hzero | hpos
  · simp [hzero]
  rcases Nat.lt_or_eq_of_le hle with hlt | rfl
  · have hlog : (r * 2 ^ e).log2 < f.precision + e := by
      rw [Nat.log2_lt (Nat.pos_iff_ne_zero.1 hpos), Nat.pow_add]
      exact Nat.mul_lt_mul_of_pos_right hlt (Nat.two_pow_pos e)
    exact Nat.dvd_trans (Nat.pow_dvd_pow 2 (by rw [excess]; omega)) (Nat.dvd_mul_left _ _)
  · have := f.precision_pos
    rw [← Nat.pow_add, excess, Nat.log2_two_pow]
    exact Nat.pow_dvd_pow 2 (by omega)

theorem fits_roundUnits {num den : Nat} (h : f.roundUnits num den < 2 ^ f.width) :
    f.Fits (f.roundUnits num den) :=
  ⟨h, f.excess_roundUnits_dvd num den⟩

theorem fits_zero : f.Fits 0 := ⟨Nat.two_pow_pos _, Nat.dvd_zero _⟩

/-- What fits the format is not changed by rounding. -/
theorem roundUnits_of_fits {units : Nat} (h : f.Fits units) : f.roundUnits units 1 = units := by
  obtain ⟨k, hk⟩ := h.2
  rw [roundUnits, Nat.div_one, Nat.one_mul]
  generalize 2 ^ f.excess units = p, Nat.two_pow_pos (f.excess units) = hp at *
  subst hk
  rw [Nat.mul_comm p k, divHalfEven_mul k hp]

end Format

/-! ## Numbers -/

/-- A number of a binary format: `negative` is the sign, of zero too. -/
inductive Floating (f : Format) where
  | nan
  | infinity (negative : Bool)
  | finite (negative : Bool) (units : Nat) (fits : f.Fits units)
  deriving DecidableEq

/-- A number of the format of 32 bits. -/
abbrev Single := Floating .single

/-- A number of the format of 64 bits. -/
abbrev Double := Floating .double

namespace Floating

variable {f : Format}

/-- The number nearest to `num / den` units; it is infinite where the format ends. -/
def ofUnits (negative : Bool) (num den : Nat) : Floating f :=
  if h : f.roundUnits num den < 2 ^ f.width then .finite negative _ (f.fits_roundUnits h)
  else .infinity negative

/-- The number nearest to `num / den`. -/
def ofRatio (negative : Bool) (num den : Nat) : Floating f :=
  ofUnits negative (num * 2 ^ f.fractionBits) den

/-- The number nearest to an integer. -/
def ofInt (i : Int) : Floating f := ofRatio (decide (i < 0)) i.natAbs 1

/-- The number nearest to a natural number. -/
def ofNat (n : Nat) : Floating f := ofRatio false n 1

/-- Zero. -/
def zero : Floating f := .finite false 0 f.fits_zero

instance : Inhabited (Floating f) := ⟨zero⟩

/-- Rounding gives back a number of the format. -/
theorem ofUnits_of_fits {negative : Bool} {units : Nat} (h : f.Fits units) :
    ofUnits negative units 1 = .finite negative units h := by
  have hround := f.roundUnits_of_fits h
  simp only [ofUnits, hround, h.1, dite_true]

/-! ## Views -/

/-- A number that is neither infinite nor not a number. -/
def isFinite : Floating f → Bool
  | .finite .. => true
  | _ => false

/-- Zero of either sign. -/
def isZero : Floating f → Bool
  | .finite _ units _ => units == 0
  | _ => false

/-- A number of units with its sign. -/
def signed (negative : Bool) (units : Nat) : Int := if negative then -units else units

/-- The position of a number in the order of its format: its signed units, with the infinities
beyond all finite numbers. -/
def position? : Floating f → Option Int
  | .nan => none
  | .infinity negative => some (signed negative (2 ^ f.width))
  | .finite negative units _ => some (signed negative units)

/-- The order of two numbers, if neither is not a number.  The two zeros are equal. -/
def compare? (x y : Floating f) : Option Ordering :=
  match x.position?, y.position? with
  | some a, some b => some (compare a b)
  | _, _ => none

/-- The integer part of a number, moved to the nearer end where it lies outside `low` to `high`;
`0` for not a number. -/
def truncateWithin (low high : Int) : Floating f → Int
  | .nan => 0
  | .infinity negative => if negative then low else high
  | .finite negative units _ =>
    max low (min high (signed negative (units / 2 ^ f.fractionBits)))

/-- The nearest number of another format; the sign of zero is kept. -/
def convert {g : Format} : Floating f → Floating g
  | .nan => .nan
  | .infinity negative => .infinity negative
  | .finite negative units _ => ofRatio negative units (2 ^ f.fractionBits)

/-- The integral number nearest to a number; a half goes away from zero. -/
def roundHalfAway : Floating f → Floating f
  | .finite negative units _ => ofRatio negative (divHalfUp units (2 ^ f.fractionBits)) 1
  | x => x

/-- The number with the sign that is given. -/
def withSign (negative : Bool) : Floating f → Floating f
  | .nan => .nan
  | .infinity _ => .infinity negative
  | .finite _ units h => .finite negative units h

end Floating

end Formula
