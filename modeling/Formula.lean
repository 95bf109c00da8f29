import Formula.Main
import Formula.Proofs.Digits
import Formula.Proofs.Expr.RoundTrip
import Formula.Proofs.Expr.Typing
import Formula.Proofs.Floating.Rounding
import Formula.Proofs.Lexer
import Formula.Proofs.Parser.Completeness
import Formula.Proofs.Parser.FirstOffence
import Formula.Proofs.Parser.Nesting
import Formula.Proofs.Expr.Image
import Formula.Proofs.Expr.Literal
import Formula.Proofs.Stream.Calls
import Formula.Proofs.Stream.Lookahead
import Formula.Proofs.Token.Layout
import Formula.Proofs.Parser.Relocation
import Formula.Proofs.Expr.Layout
import Formula.Proofs.Expr.Constants
import Formula.Proofs.Token.Trailing
import Formula.Proofs.CommandLine
import Formula.Proofs.Parser.Metered
import Formula.Proofs.Parser.Accounts
import Formula.Proofs.Parser.Conservation
import Formula.Proofs.Integer
import Formula.Proofs.Value.Integral
import Formula.Proofs.Value.Wrapping
import Formula.Proofs.Decimal.Truncation
import Formula.Proofs.Expr.Places
import Formula.Proofs.Token.Places
import Formula.Proofs.Parser.Leeway
import Formula.Proofs.Value.Number
import Formula.Proofs.Value.Conversion
import Formula.Proofs.Floating.Exact
import Formula.Proofs.Value.Lossless
import Formula.Proofs.Value.Comparison
import Formula.Proofs.Value.Order
import Formula.Proofs.Word
import Formula.Proofs.Positional
import Formula.Proofs.Value.Shift
import Formula.Proofs.Value.Bitwise
import Formula.Proofs.Expr.Substitution
import Formula.Proofs.Value.NumberLiteral
import Formula.Proofs.Parser.Longest
import Formula.Proofs.Token.StringLiteral
import Formula.Proofs.Value.Commutation
