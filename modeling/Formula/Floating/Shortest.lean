import Formula.Floating.Scientific

/-!
# The shortest text of a binary number

A finite number is written with the fewest decimal digits that read back to it, in plain positional
notation.  The search walks the grids of multiples of `10 ^ e` from coarse to fine.  On each it
tries the two neighbours of the number, the nearer one first and the upper one at a tie, and takes
the first that reads back.  The finest grid holds the number itself, so the search always ends.
-/

set_option autoImplicit false

-- Powers of natural numbers are those of the core library, whatever else is imported.
attribute [local instance(high)] instPowNat

namespace Formula.Floating

variable {f : Format}

/-! ## One grid -/

/-- The two multiples of `10 ^ exponent` around `num / den`, the nearer one first. -/
def neighbours (num den : Nat) (exponent : Int) : List Scientific :=
  let scaledNum := if 0 ≤ exponent then num else num * 10 ^ (-exponent).toNat
  let scaledDen := if 0 ≤ exponent then den * 10 ^ exponent.toNat else den
  let low := scaledNum / scaledDen
  if 2 * (scaledNum % scaledDen) < scaledDen then [⟨low, exponent⟩, ⟨low + 1, exponent⟩]
  else [⟨low + 1, exponent⟩, ⟨low, exponent⟩]

/-! ## The search -/

/-- The first neighbour of `num / den` that `accepts` holds of, on the grids from `exponent`
downwards; after `grids` of them, the given exact number. -/
def coarsest (accepts : Scientific → Bool) (num den : Nat) (exact : Scientific) (exponent : Int) :
    Nat → Scientific
  | 0 => exact
  | grids + 1 =>
    match (neighbours num den exponent).find? accepts with
    | some s => s
    | none => coarsest accepts num den exact (exponent - 1) grids

/-- What the search returns is accepted, if the exact number is. -/
theorem accepts_coarsest {accepts : Scientific → Bool} {num den : Nat} {exact : Scientific}
    (hexact : accepts exact = true) (exponent : Int) (grids : Nat) :
    accepts (coarsest accepts num den exact exponent grids) = true := by
  induction grids generalizing exponent with
  | zero => exact hexact
  | succ grids ih =>
    rw [coarsest]
    split
    · rename_i s hs
      exact List.find?_some hs
    · exact ih _

/-- An exponent of a power of ten above `num / den`. -/
def exponentAbove (num den : Nat) : Int :=
  if den ≤ num then Digits.count (num / den) else 1 - (Digits.count ((den - 1) / num) : Int)

/-- The decimal fraction with the fewest digits that reads back to a positive number of units. -/
def shortest (units : Nat) (fits : f.Fits units) : Scientific :=
  let unit := 2 ^ f.fractionBits
  let start := exponentAbove units unit
  coarsest (fun s ↦ decide (ofScientific false s = .finite false units fits)) units unit
    ⟨units * 5 ^ f.fractionBits, -f.fractionBits⟩ start (start + f.fractionBits).toNat

/-! ## The text -/

/-- The text of a number.  Zero keeps its sign, and not a number has none. -/
def text : Floating f → String
  | .nan => "NaN"
  | .infinity negative => if negative then "-inf" else "inf"
  | .finite negative units fits =>
    let digits := if units = 0 then ['0'] else (shortest units fits).positional
    String.ofList (if negative then '-' :: digits else digits)

end Formula.Floating
