import Formula.Text.Blank
import Formula.Text.Letter
import Formula.Text.Numeral
import Formula.Text.Punctuation
import Formula.Text.Quoted
import Formula.Token.Basic

/-!
# From text to tokens

The first character after the blanks decides which kind of token begins there, and the token goes
on as far as its kind allows:

* a digit or a point begins a number, which goes on over letters, numerals and points;
* a letter begins a word, which ends before a blank, punctuation or an ASCII symbol;
* a double quote begins a string;
* a round or curly bracket is a symbol of its own;
* a numeral that is not an ASCII digit begins nothing, and is an error of its own;
* any other character begins a symbol, which ends before a blank, a letter, a numeral, a bracket or
  a quote.

After an error the lexer goes on behind the characters that the error is about.  `items` is
everything that it finds in a text.  `Scan.piece` is the text of one item, and no scan loses a
character (`piece_append_rest`).
-/

set_option autoImplicit false

namespace Formula.Lexer

open Text

/-! ## Classes of characters -/

/-- Whether a character begins a number. -/
def startsNumber (c : Char) : Bool := c.isDigit || c == '.'

/-- Whether a number goes on with a character. -/
def continuesNumber (c : Char) : Bool := isLetter c || isNumeral c || c == '.'

/-- Whether a character is a printable ASCII character other than a letter or a digit. -/
def isAsciiSymbol (c : Char) : Bool :=
  inRanges [(0x21, 0x2f), (0x3a, 0x40), (0x5b, 0x60), (0x7b, 0x7e)] c.toNat

/-- Whether a word goes on with a character. -/
def continuesWord (c : Char) : Bool := !isBlank c && !isPunctuation c && !isAsciiSymbol c

/-- Whether a character is a round or curly bracket. -/
def isBracket (c : Char) : Bool := c == '(' || c == ')' || c == '\x7b' || c == '\x7d'

/-- Whether a symbol of several characters goes on with a character. -/
def continuesSymbol (c : Char) : Bool :=
  !isBlank c && !isLetter c && !isNumeral c && !isBracket c && c != '\x22'

/-! ## One item -/

/-- An item, the text that it takes, and the text that follows. -/
structure Scan where
  item : Item
  piece : List Char
  rest : List Char
  deriving Repr

/-- A token of the first character and those after it that `continues` holds of. -/
def scanRun (kind : TokenKind) (continues : Char → Bool) (position : Nat) (c : Char)
    (after : List Char) : Scan :=
  let piece := c :: after.takeWhile continues
  { item := .token { token := { kind, text := String.ofList piece }, position }
    piece
    rest := after.dropWhile continues }

/-- A string, from what follows its opening quote.  An unknown escape is reported at its backslash,
a missing quote at the opening one. -/
def scanString (position : Nat) (after : List Char) : Scan :=
  let body := Quoted.scan after
  let item : Item := match body.ending with
    | .closed =>
      .token { token := { kind := .string, text := String.ofList body.contents }, position }
    | .unknownEscape letter =>
      .error (.unrecognizedEscape letter (position + 1 + byteLength body.before))
    | .unterminated => .error (.unterminatedString position)
  { item, piece := '\x22' :: body.piece, rest := body.rest }

/-- The item that begins with a character that is not a blank. -/
def scan (position : Nat) (c : Char) (after : List Char) : Scan :=
  if startsNumber c then scanRun .number continuesNumber position c after
  else if isLetter c then scanRun .word continuesWord position c after
  else if c = '\x22' then scanString position after
  else if isBracket c then scanRun .symbol (fun _ ↦ false) position c after
  else if isNumeral c then
    { item := .error (.unrecognizedCharacter c position), piece := [c], rest := after }
  else scanRun .symbol continuesSymbol position c after

theorem scanRun_piece_append_rest (kind : TokenKind) (continues : Char → Bool) (position : Nat)
    (c : Char) (after : List Char) :
    (scanRun kind continues position c after).piece ++
      (scanRun kind continues position c after).rest = c :: after := by
  simp [scanRun, List.takeWhile_append_dropWhile]

theorem scanString_piece_append_rest (position : Nat) (after : List Char) :
    (scanString position after).piece ++ (scanString position after).rest = '\x22' :: after := by
  simp [scanString, Quoted.piece_append_rest]

/-- A scan neither loses nor invents a character. -/
theorem piece_append_rest (position : Nat) (c : Char) (after : List Char) :
    (scan position c after).piece ++ (scan position c after).rest = c :: after := by
  rw [scan]
  split
  · exact scanRun_piece_append_rest ..
  split
  · exact scanRun_piece_append_rest ..
  split
  · rename_i h
    rw [h]
    exact scanString_piece_append_rest ..
  split
  · exact scanRun_piece_append_rest ..
  split
  · rfl
  · exact scanRun_piece_append_rest ..

theorem piece_ne_nil (position : Nat) (c : Char) (after : List Char) :
    (scan position c after).piece ≠ [] := by
  rw [scan]
  repeat' split
  all_goals simp [scanRun, scanString]

theorem length_rest_lt (position : Nat) (c : Char) (after : List Char) :
    (scan position c after).rest.length < (c :: after).length := by
  have hlength := congrArg List.length (piece_append_rest position c after)
  have hpos := List.length_pos_iff.2 (piece_ne_nil position c after)
  rw [List.length_append] at hlength
  omega

/-! ## All items -/

/-- The items of the text that begins at a position. -/
def itemsFrom (position : Nat) : List Char → List Item
  | [] => []
  | c :: after =>
    if isBlank c then itemsFrom (position + c.utf8Size) after
    else
      let found := scan position c after
      found.item :: itemsFrom (position + byteLength found.piece) found.rest
termination_by text => text.length
decreasing_by
  · simp
  · exact length_rest_lt position c after

/-- Everything that there is in a source text, in order. -/
def items (source : String) : List Item := itemsFrom 0 source.toList

/-- The tokens up to the first error, or that error. -/
def tokens : List Item → Except LexError (List PlacedToken)
  | [] => .ok []
  | .error e :: _ => .error e
  | .token t :: rest =>
    match tokens rest with
    | .ok ts => .ok (t :: ts)
    | .error e => .error e

end Formula.Lexer
