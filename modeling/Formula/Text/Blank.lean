import Formula.Text.Ranges

/-!
# Blanks

The characters with the Unicode property `White_Space`.  Blanks separate tokens and mean nothing
else; `trimEnd` removes those at the end of a text.
-/

set_option autoImplicit false

namespace Formula.Text

/-- The code points with the property `White_Space`, as ascending disjoint ranges. -/
def blankRanges : List (Nat × Nat) :=
  [(0x9, 0xd), (0x20, 0x20), (0x85, 0x85), (0xa0, 0xa0), (0x1680, 0x1680), (0x2000, 0x200a),
   (0x2028, 0x2029), (0x202f, 0x202f), (0x205f, 0x205f), (0x3000, 0x3000)]

/-- Whether a character is a blank. -/
def isBlank (c : Char) : Bool := inRanges blankRanges c.toNat

/-- The text without the blanks at its end. -/
def trimEnd (text : String) : String :=
  String.ofList (text.toList.reverse.dropWhile isBlank).reverse

end Formula.Text
