import Formula.Operator
import Formula.Text.Ranges

/-!
# Tokens

The pieces of a source text that mean something.  There are four kinds, and which operator or
keyword a token is shows only in its text.  An `Item` is what a lexer finds at one place: a token
with its position, or an error.  Positions count bytes.
-/

set_option autoImplicit false

namespace Formula

/-- The kind of a token. -/
inductive TokenKind where
  | symbol
  | word
  | number
  | string
  deriving DecidableEq, Repr

/-- The name of a kind. -/
def TokenKind.name : TokenKind → String
  | symbol => "Symbol"
  | word => "Word"
  | number => "Number"
  | string => "String"

/-- A token: its kind and its text, which for a string is what the string stands for. -/
structure Token where
  kind : TokenKind
  text : String
  deriving DecidableEq, Repr

namespace Token

/-- Whether a token is a given symbol. -/
def isSymbol (t : Token) (text : String) : Bool := t.kind == .symbol && t.text == text

/-- Whether a token is a given word. -/
def isWord (t : Token) (text : String) : Bool := t.kind == .word && t.text == text

/-- The binary operator that a token is. -/
def operator? (t : Token) : Option BinaryOp :=
  if t.kind = .symbol then BinaryOp.ofSymbol? t.text else none

/-- A token in words. -/
def describe (t : Token) : String := t.kind.name ++ " '" ++ t.text ++ "'"

end Token

/-- A token and the position of its first character. -/
structure PlacedToken where
  token : Token
  position : Nat
  deriving DecidableEq, Repr

/-- Why there is no token at a position. -/
inductive LexError where
  | unrecognizedEscape (letter : Char) (position : Nat)
  | unterminatedString (position : Nat)
  | unrecognizedCharacter (character : Char) (position : Nat)
  deriving DecidableEq, Repr

namespace LexError

/-- Where the error is: at the backslash of an escape, at the opening quote of a string, or at the
character itself. -/
def position : LexError → Nat
  | unrecognizedEscape _ p | unterminatedString p | unrecognizedCharacter _ p => p

/-- The message of an error. -/
def message : LexError → String
  | unrecognizedEscape letter p =>
    "unrecognized escape sequence '\\" ++ String.singleton letter ++ s!"' at position {p}"
  | unterminatedString p => s!"unterminated string literal at position {p}"
  | unrecognizedCharacter c p =>
    "unrecognized character '" ++ String.singleton c ++ s!"' at position {p}"

end LexError

/-- What a lexer finds at one place. -/
inductive Item where
  | token (t : PlacedToken)
  | error (e : LexError)
  deriving DecidableEq, Repr

end Formula
