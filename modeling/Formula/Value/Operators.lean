import Formula.Operator
import Formula.Value.Promotion
import Formula.Value.Text

/-!
# Operators on values

What each operator does to values that are known.  `Value.unary` and `Value.binary` are the two
entries; the functions between them are the families of operators.  The operator that a family is
given decides what it does, and names the errors.

Only `==` and `!=` accept `null`, and every other operator refuses it before it looks at types.
-/

set_option autoImplicit false

namespace Formula.Value

/-! ## Prefix operators -/

/-- A prefix operator on a value.  The result has the type of the operand, and negation wraps. -/
def unary (op : UnaryOp) (v : Value) : Except EvalError Value :=
  if v.isNull then .error (.nullOperand op.symbol)
  else
    match op, v with
    | .negate, int16 n => .ok (int16 (-n))
    | .negate, int32 n => .ok (int32 (-n))
    | .negate, int64 n => .ok (int64 (-n))
    | .negate, single x => .ok (single (-x))
    | .negate, double x => .ok (double (-x))
    | .negate, decimal d => .ok (decimal (-d))
    | .not, boolean b => .ok (boolean !b)
    | .complement, byte n => .ok (byte (~~~n))
    | .complement, int16 n => .ok (int16 (~~~n))
    | .complement, int32 n => .ok (int32 (~~~n))
    | .complement, int64 n => .ok (int64 (~~~n))
    | _, _ => .error (.unsupportedOperand op.symbol v.type)

/-! ## Families of binary operators -/

/-- The error for two types that an operator does not accept. -/
def unsupported (op : BinaryOp) (v w : Value) : EvalError :=
  .unsupportedOperands op.symbol v.type w.type

/-- An arithmetic operation on two numbers, in the type in which they meet. -/
def arithmetic (operation : Arithmetic) (op : BinaryOp) (v w : Value) : Except EvalError Value :=
  match NumberPair.ofValues? v w with
  | some pair => pair.arithmetic operation op.symbol
  | none => .error (unsupported op v w)

/-- The sum of two numbers, or the concatenation of the texts if one operand is a string. -/
def add (v w : Value) : Except EvalError Value :=
  match v, w with
  | string _, _ | _, string _ => .ok (string (v.text ++ w.text))
  | _, _ => arithmetic .add .add v w

/-- Equality: of two nulls, two truth values, two strings, or two numbers in the type in which they
meet.  `null` may be compared with anything. -/
def equality (op : BinaryOp) (v w : Value) : Except EvalError Value :=
  let answer (equal : Bool) : Except EvalError Value :=
    .ok (boolean (if op = .notEqual then !equal else equal))
  match v, w with
  | null, other | other, null => answer other.isNull
  | boolean a, boolean b => answer (a == b)
  | string a, string b => answer (a == b)
  | _, _ =>
    match NumberPair.ofValues? v w with
    | some pair => answer (pair.compare? == some .eq)
    | none => .error (unsupported op v w)

/-- Whether an ordering is one that an operator asks for; operators other than `<`, `<=` and `>`
ask for that of `>=`. -/
def holds (op : BinaryOp) (ordering : Ordering) : Bool :=
  match op with
  | .less => ordering.isLT
  | .lessEqual => ordering.isLE
  | .greater => ordering.isGT
  | _ => ordering.isGE

/-- Comparison by order of two numbers; false if one is not a number. -/
def relational (op : BinaryOp) (v w : Value) : Except EvalError Value :=
  match NumberPair.ofValues? v w with
  | some pair => .ok (boolean (pair.compare?.any (holds op)))
  | none => .error (unsupported op v w)

/-- The number of places that a count stands for in words of a width, which is a power of two.  The
count is cut to 32 bits, and of these the ones below the width are kept. -/
def shiftPlaces (width : Nat) (count : Int) : Nat :=
  (BitVec.ofInt 32 count).toNat &&& (width - 1)

/-- A word moved by a number of places that is less than its width: to the left, or to the right
with copies of the sign bit if the type is signed. -/
def shiftWord {width : Nat} (op : BinaryOp) (signed : Bool) (word : BitVec width) (places : Nat) :
    BitVec width :=
  if op = .shiftLeft then word <<< places
  else if signed then word.sshiftRight places
  else word >>> places

/-- A shift of an integer.  The right operand is only a count, and the result has the type of the
left one. -/
def shift (op : BinaryOp) (v w : Value) : Except EvalError Value :=
  match v, w.integral? with
  | byte n, some count =>
    .ok (byte (.ofBitVec (shiftWord op false n.toBitVec (shiftPlaces 8 count))))
  | int16 n, some count =>
    .ok (int16 (.ofBitVec (shiftWord op true n.toBitVec (shiftPlaces 16 count))))
  | int32 n, some count =>
    .ok (int32 (.ofBitVec (shiftWord op true n.toBitVec (shiftPlaces 32 count))))
  | int64 n, some count =>
    .ok (int64 (.ofBitVec (shiftWord op true n.toBitVec (shiftPlaces 64 count))))
  | _, _ => .error (unsupported op v w)

/-- A bitwise operation on two truth values. -/
def combineTruth (operation : Bitwise) (a b : Bool) : Bool :=
  match operation with
  | .and => a && b
  | .or => a || b
  | .xor => a ^^ b

/-- A bitwise operation on two truth values or two integers. -/
def logic (operation : Bitwise) (op : BinaryOp) (v w : Value) : Except EvalError Value :=
  match v, w with
  | boolean a, boolean b => .ok (boolean (combineTruth operation a b))
  | _, _ =>
    match (NumberPair.ofValues? v w).bind (NumberPair.bitwise? operation) with
    | some result => .ok result
    | none => .error (unsupported op v w)

/-- What a conditional operator makes of its operands.  The left one decides on its own if it is
true for `||` and false for `&&`, and then the right one is not looked at. -/
def conditional (op : BinaryOp) (v : Value) (right : Unit → Except EvalError Value) :
    Except EvalError Value :=
  match v.truth op.symbol with
  | .error e => .error e
  | .ok left =>
    if left = decide (op = .conditionalOr) then .ok (boolean left)
    else
      match right () with
      | .error e => .error e
      | .ok w => (w.truth op.symbol).map boolean

/-- Whether both operands are true.  The right one is not asked for its truth value if the left one
is false. -/
def conjunction (operator : String) (v w : Value) : Except EvalError Bool :=
  match v.truth operator with
  | .ok true => w.truth operator
  | decided => decided

/-- Whether one of the operands is true.  The right one is not asked for its truth value if the left
one is true. -/
def disjunction (operator : String) (v w : Value) : Except EvalError Bool :=
  match v.truth operator with
  | .ok false => w.truth operator
  | decided => decided

/-! ## All binary operators -/

/-- A binary operator on two values. -/
def binary (op : BinaryOp) (v w : Value) : Except EvalError Value :=
  match op with
  | .equal | .notEqual => equality op v w
  | _ =>
    if v.isNull || w.isNull then .error (.nullOperand op.symbol)
    else
      match op with
      | .add => add v w
      | .subtract => arithmetic .sub op v w
      | .multiply => arithmetic .mul op v w
      | .divide => arithmetic .div op v w
      | .modulus => arithmetic .rem op v w
      | .logicalAnd => logic .and op v w
      | .logicalOr => logic .or op v w
      | .logicalXor => logic .xor op v w
      | .conditionalAnd => (conjunction op.symbol v w).map boolean
      | .conditionalOr => (disjunction op.symbol v w).map boolean
      | .shiftLeft | .shiftRight => shift op v w
      | _ => relational op v w

end Formula.Value
