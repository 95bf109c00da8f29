import Formula.Text.Digits
import Formula.Floating.Basic

/-!
# Decimal fractions as the text of binary numbers

A `Scientific` is a natural number times a power of ten.  `Scientific.read?` reads it from digits
with an optional point and an optional exponent, `Scientific.positional` writes it without an
exponent, and `Floating.ofScientific` is the nearest number of a binary format.

`Floating.read?` reads a whole number of a format: a sign, and then a decimal fraction or one of the
names `inf`, `infinity` and `nan`, in any case.
-/

set_option autoImplicit false

-- Powers of natural numbers are those of the core library, whatever else is imported.
attribute [local instance(high)] instPowNat

namespace Formula

/-- The number `mantissa * 10 ^ exponent`. -/
structure Scientific where
  mantissa : Nat
  exponent : Int
  deriving DecidableEq, Repr

namespace Scientific

/-! ## Reading -/

/-- The exponent at the end of a decimal fraction: nothing, or `e` or `E`, an optional sign and at
least one digit. -/
def readExponent? : List Char → Option Int
  | [] => some 0
  | mark :: rest =>
    if mark = 'e' ∨ mark = 'E' then
      let (negative, digits) := match rest with
        | '-' :: digits => (true, digits)
        | '+' :: digits => (false, digits)
        | digits => (false, digits)
      if digits.isEmpty || !digits.all Char.isDigit then none
      else some (if negative then -(Digits.value digits : Int) else Digits.value digits)
    else none

/-- A decimal fraction: digits with at most one point among them, at least one digit, and an
optional exponent. -/
def read? (text : List Char) : Option Scientific :=
  let whole := text.takeWhile Char.isDigit
  let (fraction, rest) := match text.dropWhile Char.isDigit with
    | '.' :: rest => (rest.takeWhile Char.isDigit, rest.dropWhile Char.isDigit)
    | rest => ([], rest)
  if whole.isEmpty && fraction.isEmpty then none
  else (readExponent? rest).map fun exponent ↦
    { mantissa := Digits.value (whole ++ fraction), exponent := exponent - fraction.length }

/-! ## Writing -/

/-- The number in plain digits, with as many places after the point as the exponent asks for. -/
def positional (s : Scientific) : List Char :=
  if 0 ≤ s.exponent then Digits.write (s.mantissa * 10 ^ s.exponent.toNat)
  else Digits.fixed s.mantissa (-s.exponent).toNat

end Scientific

namespace Floating

variable {f : Format}

/-- The largest power of ten that `ofScientific` raises to: `10 ^ exponentLimit` is beyond every
number of the two formats, and its inverse below half of every positive one. -/
def exponentLimit : Nat := 400

/-- The number nearest to a decimal fraction.

An exponent so large that every mantissa but zero overflows, or so small that this mantissa
vanishes, is moved to the first exponent of that kind; the rounded result is the same. -/
def ofScientific (negative : Bool) (s : Scientific) : Floating f :=
  let lowest : Int := -(exponentLimit + Digits.count s.mantissa)
  let exponent := max lowest (min exponentLimit s.exponent)
  if 0 ≤ exponent then ofRatio negative (s.mantissa * 10 ^ exponent.toNat) 1
  else ofRatio negative s.mantissa (10 ^ (-exponent).toNat)

/-- The number that a text without a sign stands for. -/
def readMagnitude? (negative : Bool) (text : List Char) : Option (Floating f) :=
  let name := text.map Char.toLower
  if name = ['i', 'n', 'f'] ∨ name = ['i', 'n', 'f', 'i', 'n', 'i', 't', 'y'] then
    some (.infinity negative)
  else if name = ['n', 'a', 'n'] then some .nan
  else (Scientific.read? text).map (ofScientific negative)

/-- The number that a text stands for, with an optional sign in front. -/
def read? : List Char → Option (Floating f)
  | '-' :: rest => readMagnitude? true rest
  | '+' :: rest => readMagnitude? false rest
  | text => readMagnitude? false text

end Floating

end Formula
