import Formula.Token.Basic

/-!
# What can go wrong in a source text

The causes for which a text is no expression.  Each names the position of the token that it is
about, or the length of the text where it is about the end.
-/

set_option autoImplicit false

namespace Formula

/-- Why a source text is not an expression. -/
inductive ParseError where
  | lexical (cause : LexError)
  | unexpectedEnd (position : Nat)
  | expectedToken (expected found : String) (position : Nat)
  | expectedExpression (found : String) (position : Nat)
  | unknownCastType (name : String) (position : Nat)
  | invalidNumber (text : String) (position : Nat)
  | invalidVariableIndex (text : String) (position : Nat)
  | nestingTooDeep (position : Nat)
  | unexpectedInput (found : String) (position : Nat)
  deriving DecidableEq, Repr

namespace ParseError

/-- Where the error is. -/
def position : ParseError → Nat
  | lexical cause => cause.position
  | unexpectedEnd p | expectedToken _ _ p | expectedExpression _ p | unknownCastType _ p
  | invalidNumber _ p | invalidVariableIndex _ p | nestingTooDeep p | unexpectedInput _ p => p

/-- The text of the token that the error is about, if it is about a token. -/
def found? : ParseError → Option String
  | lexical _ | unexpectedEnd _ | nestingTooDeep _ => none
  | expectedToken _ found _ | expectedExpression found _ | unknownCastType found _
  | invalidNumber found _ | invalidVariableIndex found _ | unexpectedInput found _ => some found

/-- The message of an error. -/
def message : ParseError → String
  | lexical cause => cause.message
  | unexpectedEnd p => s!"unexpected end of input at position {p}"
  | expectedToken expected found p =>
    s!"expected '{expected}' but found '{found}' at position {p}"
  | expectedExpression found p => s!"expected an expression but found '{found}' at position {p}"
  | unknownCastType name p => s!"cannot cast to type '{name}' at position {p}"
  | invalidNumber text p => s!"invalid number '{text}' at position {p}"
  | invalidVariableIndex text p => s!"invalid variable index '{text}' at position {p}"
  | nestingTooDeep p => s!"expression nested too deeply at position {p}"
  | unexpectedInput found p => s!"unexpected input '{found}' at position {p}"

end ParseError

end Formula
