/-!
# Integer types

A type of fixed-width integers is a width and whether there is a sign.  `IntegerType.low` and
`IntegerType.high` are the ends of its range.
-/

set_option autoImplicit false

-- Powers of natural numbers are those of the core library, whatever else is imported.
attribute [local instance(high)] instPowNat

namespace Formula

/-- A type of integers of a fixed width. -/
structure IntegerType where
  signed : Bool
  bits : Nat
  deriving DecidableEq, Repr

namespace IntegerType

/-- The signed type of a width. -/
def signedOf (bits : Nat) : IntegerType := { signed := true, bits }

/-- The unsigned type of a width. -/
def unsignedOf (bits : Nat) : IntegerType := { signed := false, bits }

/-- The least integer of a type. -/
def low (t : IntegerType) : Int :=
  if t.signed then -((2 ^ (t.bits - 1) : Nat) : Int) else 0

/-- The greatest integer of a type. -/
def high (t : IntegerType) : Int :=
  if t.signed then ((2 ^ (t.bits - 1) : Nat) : Int) - 1 else ((2 ^ t.bits : Nat) : Int) - 1

/-- Whether an integer belongs to a type. -/
def Holds (t : IntegerType) (i : Int) : Prop := t.low ≤ i ∧ i ≤ t.high

instance (t : IntegerType) (i : Int) : Decidable (t.Holds i) :=
  inferInstanceAs (Decidable (_ ∧ _))

/-- The integer type with 64 bits and a sign. -/
def int64 : IntegerType := signedOf 64

end IntegerType

end Formula
