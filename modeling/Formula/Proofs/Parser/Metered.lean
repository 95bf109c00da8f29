import Formula.Expr.Parser
import Formula.Proofs.Stream.Lookahead

/-!
# The parser with its accounts

The parser of `Formula.Expr.Parser` is handed the nesting that is in use and gives none back, since
what it calls ends with as much in use as it began.  Here it is with nothing taken for granted: it
reads from a stream that reads as it goes, spends on that stream before it descends, and returns to
it by hand, in four places, each of which has to know how much.  Nothing says that the recursion
comes to an end either.  There are some frames for it, of which each call takes one, as does each
turn of a chain; a parse that runs out of frames is `none`.

The parser also keeps a record.  `Active` counts what is under way at a call: the expressions and
the operands that have descended, and the operators that unfinished chains have taken.  A `Visit` is
one call, with the nesting that the stream has in use then.  A limit on what may be under way makes
the parser give up as soon as it is exceeded.

What comes of all this is in `Formula.Proofs.Parser.Accounts`.
-/

set_option autoImplicit false

namespace Formula

/-- What is under way at a point of a parse: the expressions that have descended, the operands of
prefix operators and casts that have, and the operators that unfinished chains have taken and
descended for. -/
structure Active where
  groups : Nat := 0
  operands : Nat := 0
  operators : Nat := 0
  deriving DecidableEq, Repr

namespace Active

/-- One more expression. -/
def group (a : Active) : Active := { a with groups := a.groups + 1 }

/-- One more operand of a prefix operator or a cast. -/
def operand (a : Active) : Active := { a with operands := a.operands + 1 }

/-- One more operator of a chain. -/
def operator (a : Active) : Active := { a with operators := a.operators + 1 }

end Active

/-- The functions of the parser. -/
inductive Routine where
  | expression
  | tier (tier : Nat)
  | unary
  | nestedUnary
  | base
  | parenthesized
  | cast
  | reference
  deriving DecidableEq, Repr

/-- One call: of which function, what is under way then, and the nesting in use. -/
structure Visit where
  routine : Routine
  active : Active
  depth : Nat
  deriving DecidableEq, Repr

/-- Why there is no expression: the text is refused, or the limit is exceeded. -/
inductive Halt where
  | refused (cause : ParseError)
  | exceeded
  deriving DecidableEq, Repr

/-- A stream and the calls made so far. -/
structure Meter where
  stream : Lookahead
  visits : List Visit

/-- What a call answers, and the stream and the record then. -/
abbrev Reply (α : Type) := Except Halt α × Meter

namespace Meter

/-- Records a call. -/
def visit (routine : Routine) (a : Active) (m : Meter) : Meter :=
  { m with visits := m.visits ++ [{ routine, active := a, depth := m.stream.depth.toNat }] }

/-- Asks something of the stream. -/
def ask {α : Type} (call : Lookahead → Except ParseError α × Lookahead) (m : Meter) : Reply α :=
  match call m.stream with
  | (.ok value, stream) => (.ok value, { m with stream })
  | (.error e, stream) => (.error (.refused e), { m with stream })

/-- Gives nesting back. -/
def ascend (cost : Nat) (m : Meter) : Meter := { m with stream := m.stream.ascend cost }

/-- A variable, from what follows its opening bracket. -/
def reference (a : Active) (m : Meter) : Option (Reply Expr) :=
  match (m.visit .reference a).ask (·.nextRequired) with
  | (.error e, m) => some (.error e, m)
  | (.ok t, m) =>
    match Parser.variableIndex? t.token with
    | none => some (.error (.refused (.invalidVariableIndex t.token.text t.position)), m)
    | some index =>
      match m.ask (·.expectSymbol "\x7d") with
      | (.error e, m) => some (.error e, m)
      | (.ok _, m) => some (.ok (.var index), m)

variable (limit : Active → Bool)

mutual

/-- A whole expression.  What it spends it gives back, however the parse within it ends. -/
def expression (frames : Nat) (a : Active) (m : Meter) : Option (Reply Expr) :=
  match frames with
  | 0 => none
  | frames + 1 =>
    match (m.visit .expression a).ask (·.descend groupCost) with
    | (.error e, m) => some (.error e, m)
    | (.ok _, m) =>
      if limit a.group then do
        let (reply, m) ← tier frames BinaryOp.loosestTier a.group m
        return (reply, m.ascend groupCost)
      else some (.error .exceeded, m)
termination_by structural frames

/-- A tier; the tightest of them is the operands. -/
def tier (frames tier : Nat) (a : Active) (m : Meter) : Option (Reply Expr) :=
  match frames with
  | 0 => none
  | frames + 1 =>
    match tier with
    | 0 => unary frames a m
    | lower + 1 => do
      let (reply, m) ← Meter.tier frames lower a (m.visit (.tier (lower + 1)) a)
      match reply with
      | .error e => return (.error e, m)
      | .ok left =>
        if lower + 1 = BinaryOp.relationalTier then comparison frames lower a left m
        else chain frames lower 0 a left m
termination_by structural frames

/-- What follows the left operand of a comparison by order. -/
def comparison (frames lower : Nat) (a : Active) (left : Expr) (m : Meter) :
    Option (Reply Expr) :=
  match frames with
  | 0 => none
  | frames + 1 =>
    match m.ask (·.nextOperatorIf fun op ↦ op.tier == lower + 1) with
    | (.error e, m) => some (.error e, m)
    | (.ok none, m) => some (.ok left, m)
    | (.ok (some op), m) => do
      let (reply, m) ← tier frames lower a m
      return (reply.map (.binary op left), m)
termination_by structural frames

/-- What follows the operands of a chain so far, of which `taken` operators have been spent on.
They are given back when the chain ends, and not if it fails. -/
def chain (frames lower taken : Nat) (a : Active) (left : Expr) (m : Meter) :
    Option (Reply Expr) :=
  match frames with
  | 0 => none
  | frames + 1 =>
    match m.ask (·.nextOperatorIf fun op ↦ op.tier == lower + 1) with
    | (.error e, m) => some (.error e, m)
    | (.ok none, m) => some (.ok left, m.ascend taken)
    | (.ok (some op), m) =>
      match m.ask (·.descend 1) with
      | (.error e, m) => some (.error e, m)
      | (.ok _, m) => do
        let (reply, m) ← tier frames lower a.operator m
        match reply with
        | .error e => return (.error e, m)
        | .ok right => chain frames lower (taken + 1) a.operator (.binary op left right) m
termination_by structural frames

/-- An operand with its prefix operators. -/
def unary (frames : Nat) (a : Active) (m : Meter) : Option (Reply Expr) :=
  match frames with
  | 0 => none
  | frames + 1 =>
    match (m.visit .unary a).ask (·.peek) with
    | (.error e, m) => some (.error e, m)
    | (.ok seen, m) =>
      match seen.bind fun t ↦ Parser.lead? t.token with
      | none => base frames a m
      | some lead =>
        match m.ask (·.next) with
        | (.error e, m) => some (.error e, m)
        | (.ok _, m) =>
          match lead with
          | .operator op => do
            let (reply, m) ← nestedUnary frames a m
            return (reply.map (.unary op), m)
          | .plus => nestedUnary frames a m
          | .truth b => some (.ok (.const (.boolean b)), m)
termination_by structural frames

/-- The operand of a prefix operator or a cast. -/
def nestedUnary (frames : Nat) (a : Active) (m : Meter) : Option (Reply Expr) :=
  match frames with
  | 0 => none
  | frames + 1 =>
    match (m.visit .nestedUnary a).ask (·.descend 1) with
    | (.error e, m) => some (.error e, m)
    | (.ok _, m) =>
      if limit a.operand then do
        let (reply, m) ← unary frames a.operand m
        return (reply, m.ascend 1)
      else some (.error .exceeded, m)
termination_by structural frames

/-- An operand that is one token, or in brackets. -/
def base (frames : Nat) (a : Active) (m : Meter) : Option (Reply Expr) :=
  match frames with
  | 0 => none
  | frames + 1 =>
    match (m.visit .base a).ask (·.nextRequired) with
    | (.error e, m) => some (.error e, m)
    | (.ok t, m) =>
      match t.token.kind with
      | .number =>
        match NumberLiteral.read? t.token.text.toList with
        | some value => some (.ok (.const value), m)
        | none => some (.error (.refused (.invalidNumber t.token.text t.position)), m)
      | .string => some (.ok (.const (.string t.token.text)), m)
      | .word =>
        if t.token.text = "null" then some (.ok (.const .null), m)
        else some (.error (.refused (.unexpectedInput t.token.text t.position)), m)
      | .symbol =>
        if t.token.text = "(" then parenthesized frames a m
        else if t.token.text = "\x7b" then reference a m
        else some (.error (.refused (.expectedExpression t.token.text t.position)), m)
termination_by structural frames

/-- What follows an opening parenthesis: a cast if it is a word, and otherwise a group. -/
def parenthesized (frames : Nat) (a : Active) (m : Meter) : Option (Reply Expr) :=
  match frames with
  | 0 => none
  | frames + 1 =>
    match (m.visit .parenthesized a).ask (·.peek) with
    | (.error e, m) => some (.error e, m)
    | (.ok seen, m) =>
      if seen.any (·.token.kind = .word) then cast frames a m
      else do
        let (reply, m) ← expression frames a m
        match reply with
        | .error e => return (.error e, m)
        | .ok inner =>
          match m.ask (·.expectSymbol ")") with
          | (.error e, m) => return (.error e, m)
          | (.ok _, m) => return (.ok inner, m)
termination_by structural frames

/-- What follows the opening parenthesis of a cast. -/
def cast (frames : Nat) (a : Active) (m : Meter) : Option (Reply Expr) :=
  match frames with
  | 0 => none
  | frames + 1 =>
    match (m.visit .cast a).ask (·.nextRequired) with
    | (.error e, m) => some (.error e, m)
    | (.ok t, m) =>
      match ValueType.ofCastName? t.token.text with
      | none => some (.error (.refused (.unknownCastType t.token.text t.position)), m)
      | some type =>
        match m.ask (·.expectSymbol ")") with
        | (.error e, m) => some (.error e, m)
        | (.ok _, m) => do
          let (reply, m) ← nestedUnary frames a m
          return (reply.map (.cast type), m)
termination_by structural frames

end

/-- A parse that begins at a level of the grammar. -/
def level : Parser.Level → Nat → Active → Meter → Option (Reply Expr)
  | .expression => expression limit
  | .tier k => (tier limit · k)
  | .unary => unary limit
  | .base => base limit

/-- The parse of a whole source text: its answer, and all calls that were made. -/
def parse (frames : Nat) (source : String) : Option (Except Halt Expr × List Visit) := do
  let (reply, m) ← expression limit frames {} { stream := .ofSource source, visits := [] }
  match reply with
  | .error e => return (.error e, m.visits)
  | .ok e =>
    match m.ask (·.next) with
    | (.error error, m) => return (.error error, m.visits)
    | (.ok none, m) => return (.ok e, m.visits)
    | (.ok (some t), m) =>
      return (.error (.refused (.unexpectedInput t.token.text t.position)), m.visits)

end Meter

end Formula
