import Formula.Text.Ranges

/-!
# Quoted text

Text between double quotes.  A backslash and a letter stand for a character that cannot or need not
be written itself: `unescape?` and `escape?` are the two directions.  `Quoted.scan` decodes a text
up to its closing quote, or as far as it can, and accounts for every character of its input
(`piece_append_rest`).
-/

set_option autoImplicit false

namespace Formula.Quoted

open Text

/-! ## Escapes -/

/-- The character that a backslash and a letter stand for. -/
def unescape? : Char → Option Char
  | '\x27' => some '\x27'
  | '\x22' => some '\x22'
  | '\\' => some '\\'
  | '0' => some '\x00'
  | 'a' => some '\x07'
  | 'b' => some '\x08'
  | 'f' => some '\x0c'
  | 'n' => some '\n'
  | 'r' => some '\r'
  | 't' => some '\t'
  | 'v' => some '\x0b'
  | _ => none

/-- The letter after a backslash that stands for a character which is not written itself. -/
def escape? : Char → Option Char
  | '\x22' => some '\x22'
  | '\\' => some '\\'
  | '\x00' => some '0'
  | '\x07' => some 'a'
  | '\x08' => some 'b'
  | '\x0c' => some 'f'
  | '\n' => some 'n'
  | '\r' => some 'r'
  | '\t' => some 't'
  | '\x0b' => some 'v'
  | _ => none

/-! ## Writing -/

/-- A text with its special characters escaped. -/
def encode : List Char → List Char
  | [] => []
  | c :: rest =>
    match escape? c with
    | some letter => '\\' :: letter :: encode rest
    | none => c :: encode rest

/-- A text between quotes. -/
def write (text : String) : String :=
  String.ofList ('\x22' :: (encode text.toList ++ ['\x22']))

/-! ## Reading -/

/-- How the body of a quoted text ends. -/
inductive Ending where
  | closed
  | unknownEscape (letter : Char)
  | unterminated
  deriving DecidableEq, Repr

/-- The characters that make an ending. -/
def Ending.piece : Ending → List Char
  | .closed => ['\x22']
  | .unknownEscape letter => ['\\', letter]
  | .unterminated => []

/-- A body of a quoted text: what it stands for, the characters before its ending, the ending, and
what follows. -/
structure Body where
  contents : List Char
  before : List Char
  ending : Ending
  rest : List Char
  deriving DecidableEq, Repr

/-- All characters that belong to the body. -/
def Body.piece (b : Body) : List Char := b.before ++ b.ending.piece

/-- The body with one more character in front, which is written as `written`. -/
def Body.cons (c : Char) (written : List Char) (b : Body) : Body :=
  { b with contents := c :: b.contents, before := written ++ b.before }

/-- Decodes what follows an opening quote.  A backslash at the very end of the input escapes
nothing, and the text is unterminated. -/
def scan : List Char → Body
  | [] => { contents := [], before := [], ending := .unterminated, rest := [] }
  | '\x22' :: rest => { contents := [], before := [], ending := .closed, rest }
  | ['\\'] => { contents := [], before := ['\\'], ending := .unterminated, rest := [] }
  | '\\' :: letter :: rest =>
    match unescape? letter with
    | some c => (scan rest).cons c ['\\', letter]
    | none => { contents := [], before := [], ending := .unknownEscape letter, rest }
  | c :: rest => (scan rest).cons c [c]

/-- A scan neither loses nor invents a character. -/
theorem piece_append_rest (input : List Char) :
    (scan input).piece ++ (scan input).rest = input := by
  fun_induction scan input <;> simp_all [Body.piece, Body.cons, Ending.piece]

/-- What an escape stands for is what it is written for. -/
theorem unescape?_of_escape? {c letter : Char} (h : escape? c = some letter) :
    unescape? letter = some c := by
  unfold escape? at h
  split at h <;> cases h <;> rfl

/-- Reading undoes writing, up to the quote that follows. -/
theorem scan_encode (text rest : List Char) :
    scan (encode text ++ '\x22' :: rest) =
      { contents := text, before := encode text, ending := .closed, rest } := by
  induction text with
  | nil => rfl
  | cons c text ih =>
    rw [encode]
    split
    · rename_i letter h
      rw [List.cons_append, List.cons_append, scan, unescape?_of_escape? h]
      simp [ih, Body.cons]
    · rename_i h
      have hquote : c ≠ '\x22' := by rintro rfl; simp [escape?] at h
      have hslash : c ≠ '\\' := by rintro rfl; simp [escape?] at h
      rw [List.cons_append, scan]
      · simp [ih, Body.cons]
      all_goals simp_all

end Formula.Quoted
