import Formula.Proofs.Value.Typing

/-!
# Meeting in a type is casting to it

There are two ways from a number to one of another type.  `NumberPair.ofValues?` widens two values
to the type in which they meet, by functions that go by this type; `Value.cast` converts one value,
and goes by the value.  What is proved here is that the first way comes to the second.

## What is here

* `Value.cast_of_integral?`, `Value.cast_of_widenToSingle?` and its like — one value that is
  widened is that value cast.
* `NumberPair.cast_of_ofValues?` — the two numbers of a pair are the casts of the two values.
* `NumberPair.ofValues?_first_second` — a pair of numbers meets in its own type, as that pair.
* `NumberPair.operate?` — what a binary operator does to a pair, without the values that the pair
  came from; `Value.binary_of_ofValues?` says that this is what it does to two values that meet.
* `Value.binary_eq_binary_cast` — hence an operator cannot tell two values from their casts.
-/

set_option autoImplicit false

namespace Formula

/-! ## One value -/

namespace Value

variable {v : Value}

/-- The integer of a value, in the type of the value, is that value. -/
theorem ofInteger?_type {i : Int} (h : v.integral? = some i) : ofInteger? v.type i = some v := by
  cases v with
  | byte n =>
    cases h
    have hlow : ((n.toNat : Int) % 256).toNat = n.toNat := by
      have := n.toNat_lt
      omega
    have hself : UInt8.ofInt n.toNat = n := by simp [UInt8.ofInt, hlow]
    rw [type, ofInteger?, hself]
  | int16 n | int32 n | int64 n =>
    cases h
    simp [type, ofInteger?]
  | null | boolean | string | single | double | decimal => cases h

/-- The integer of a value, in a numeric type, is the cast of the value. -/
theorem cast_of_integral? {i : Int} {target : ValueType} {w : Value} (h : v.integral? = some i)
    (hw : ofInteger? target i = some w) : v.cast target = .ok w := by
  by_cases htype : v.type = target
  · obtain rfl : v = w := by simpa [← htype, ofInteger?_type h] using hw
    rw [cast, if_pos htype]
  · have hconvert : convert? target v = .ok (some w) := by
      cases v with
      | byte | int16 | int32 | int64 => cases h; exact congrArg Except.ok hw
      | null | boolean | string | single | double | decimal => cases h
    rw [cast, if_neg htype, hconvert]

theorem cast_of_widenToSingle? {x : Single} (h : v.widenToSingle? = some x) :
    v.cast .single = .ok (single x) := by
  rw [widenToSingle?.eq_def] at h
  split at h
  · cases h
    rfl
  · obtain ⟨i, hi, rfl⟩ := Option.map_eq_some_iff.1 h
    exact cast_of_integral? hi rfl

theorem cast_of_widenToDouble? {x : Double} (h : v.widenToDouble? = some x) :
    v.cast .double = .ok (double x) := by
  rw [widenToDouble?.eq_def] at h
  split at h
  · cases h
    rfl
  · cases h
    rfl
  · obtain ⟨i, hi, rfl⟩ := Option.map_eq_some_iff.1 h
    exact cast_of_integral? hi rfl

theorem cast_of_widenToDecimal? {d : Decimal} (h : v.widenToDecimal? = some d) :
    v.cast .decimal = .ok (decimal d) := by
  rw [widenToDecimal?.eq_def] at h
  split at h
  · cases h
    rfl
  · obtain ⟨i, hi, rfl⟩ := Option.map_eq_some_iff.1 h
    exact cast_of_integral? hi rfl

end Value

/-! ## Pairs -/

namespace NumberPair

variable {v w : Value} {p : NumberPair}

/-- **The numbers of a pair are the casts of the two values** to the type in which they meet. -/
theorem cast_of_ofValues? (h : ofValues? v w = some p) :
    v.cast p.type = .ok p.first ∧ w.cast p.type = .ok p.second := by
  rw [ofValues?.eq_def] at h
  split at h
  case h_1 =>
    split at h <;> cases h
    exact ⟨rfl, rfl⟩
  case h_8 => cases h
  all_goals
    simp only [Option.bind_eq_bind, Option.bind_eq_some_iff, Option.pure_def,
      Option.some.injEq] at h
    obtain ⟨a, ha, b, hb, rfl⟩ := h
  · exact ⟨Value.cast_of_integral? ha rfl, Value.cast_of_integral? hb rfl⟩
  · exact ⟨Value.cast_of_integral? ha rfl, Value.cast_of_integral? hb rfl⟩
  · exact ⟨Value.cast_of_integral? ha rfl, Value.cast_of_integral? hb rfl⟩
  · exact ⟨Value.cast_of_widenToSingle? ha, Value.cast_of_widenToSingle? hb⟩
  · exact ⟨Value.cast_of_widenToDouble? ha, Value.cast_of_widenToDouble? hb⟩
  · exact ⟨Value.cast_of_widenToDecimal? ha, Value.cast_of_widenToDecimal? hb⟩

/-- Two values that have a type to meet in are a pair of that type. -/
theorem exists_ofValues? {t : ValueType} (h : v.type.promoteWith w.type = some t) :
    ∃ p, ofValues? v w = some p ∧ p.type = t := by
  have hmeet := type_ofValues? v w
  rw [ValueType.join?_eq_promoteWith, h] at hmeet
  exact Option.map_eq_some_iff.1 hmeet

/-- Two numbers of one type meet in that type, as they are. -/
theorem ofValues?_first_second (p : NumberPair) : ofValues? p.first p.second = some p := by
  cases p <;> simp [ofValues?, first, second, Value.type, ValueType.promoteWith, ValueType.rank?,
    ValueType.isFloating, Value.integral?, Value.widenToSingle?, Value.widenToDouble?,
    Value.widenToDecimal?]

/-- Exactly the integral types have bits. -/
theorem isSome_bitwise? (operation : Bitwise) (p : NumberPair) :
    (p.bitwise? operation).isSome = p.type.isIntegral := by
  cases p <;> rfl

/-- What a binary operator does to a pair of numbers; none for the operators that do not look at
their operands as numbers of one type, and for the bitwise ones if that type has no bits. -/
def operate? (op : BinaryOp) (p : NumberPair) : Option (Except EvalError Value) :=
  match op with
  | .add => some (p.arithmetic .add op.symbol)
  | .subtract => some (p.arithmetic .sub op.symbol)
  | .multiply => some (p.arithmetic .mul op.symbol)
  | .divide => some (p.arithmetic .div op.symbol)
  | .modulus => some (p.arithmetic .rem op.symbol)
  | .equal => some (.ok (.boolean (p.compare? == some .eq)))
  | .notEqual => some (.ok (.boolean !(p.compare? == some .eq)))
  | .less | .lessEqual | .greater | .greaterEqual =>
    some (.ok (.boolean (p.compare?.any (Value.holds op))))
  | .logicalAnd => (p.bitwise? .and).map .ok
  | .logicalOr => (p.bitwise? .or).map .ok
  | .logicalXor => (p.bitwise? .xor).map .ok
  | .conditionalAnd | .conditionalOr | .shiftLeft | .shiftRight => none

end NumberPair

/-! ## Operators -/

namespace Value

variable {v w : Value} {p : NumberPair}

/-- Values that meet are numbers. -/
theorem isNumeric_of_ofValues? (h : NumberPair.ofValues? v w = some p) :
    v.type.isNumeric = true ∧ w.type.isNumeric = true := by
  rw [NumberPair.ofValues?.eq_def, ValueType.promoteWith.eq_def] at h
  cases hv : v.type.rank? with
  | none => simp [hv] at h
  | some i =>
    cases hw : w.type.rank? with
    | none => simp [hv, hw] at h
    | some j => simp [ValueType.isNumeric, hv, hw]

theorem arithmetic_of_ofValues? (operation : Arithmetic) (op : BinaryOp)
    (h : NumberPair.ofValues? v w = some p) :
    arithmetic operation op v w = p.arithmetic operation op.symbol := by
  rw [arithmetic, h]

theorem relational_of_ofValues? (op : BinaryOp) (h : NumberPair.ofValues? v w = some p) :
    relational op v w = .ok (boolean (p.compare?.any (holds op))) := by
  rw [relational, h]

theorem add_of_ofValues? (h : NumberPair.ofValues? v w = some p) :
    add v w = p.arithmetic .add BinaryOp.add.symbol := by
  obtain ⟨hv, hw⟩ := isNumeric_of_ofValues? h
  rw [add.eq_def]
  split
  · cases hv
  · cases hw
  · exact arithmetic_of_ofValues? .add .add h

theorem equality_of_ofValues? (op : BinaryOp) (h : NumberPair.ofValues? v w = some p) :
    equality op v w = .ok (boolean (if op = .notEqual then !(p.compare? == some .eq)
      else p.compare? == some .eq)) := by
  obtain ⟨hv, hw⟩ := isNumeric_of_ofValues? h
  rw [equality.eq_def]
  dsimp only
  split
  · cases hv
  · cases hw
  · cases hv
  · cases hv
  · rw [h]

theorem logic_of_ofValues? {operation : Bitwise} {result : Value} (op : BinaryOp)
    (h : NumberPair.ofValues? v w = some p) (hresult : p.bitwise? operation = some result) :
    logic operation op v w = .ok result := by
  obtain ⟨hv, hw⟩ := isNumeric_of_ofValues? h
  rw [logic.eq_def]
  split
  · cases hv
  · rw [h, Option.bind_some, hresult]

/-- **On two values that meet, an operator does what it does to the pair.** -/
theorem binary_of_ofValues? {op : BinaryOp} {result : Except EvalError Value}
    (h : NumberPair.ofValues? v w = some p) (hop : p.operate? op = some result) :
    v.binary op w = result := by
  have hnull : ¬ (v.isNull || w.isNull) = true := by
    obtain ⟨hv, hw⟩ := isNumeric_of_ofValues? h
    rw [Bool.or_eq_true, isNull_iff, isNull_iff]
    rintro (rfl | rfl)
    · cases hv
    · cases hw
  cases op <;> simp only [binary, if_neg hnull] <;> simp only [NumberPair.operate?] at hop
  case conditionalOr | conditionalAnd | shiftLeft | shiftRight => cases hop
  case equal | notEqual =>
    cases hop
    exact equality_of_ofValues? _ h
  case less | lessEqual | greater | greaterEqual =>
    cases hop
    exact relational_of_ofValues? _ h
  case add =>
    cases hop
    exact add_of_ofValues? h
  case subtract | multiply | divide | modulus =>
    cases hop
    exact arithmetic_of_ofValues? _ _ h
  case logicalOr | logicalXor | logicalAnd =>
    obtain ⟨value, hvalue, rfl⟩ := Option.map_eq_some_iff.1 hop
    exact logic_of_ofValues? _ h hvalue

/-- **Meeting in a type is casting to it.**  Two values whose types meet in a type are a pair of
numbers of that type, both casts to the type succeed and give these numbers, and the operators that
take numbers make the same of the two values and of their casts, errors included. -/
theorem binary_eq_binary_cast (v w : Value) (t : ValueType)
    (h : v.type.promoteWith w.type = some t) :
    ∃ p, NumberPair.ofValues? v w = some p ∧ v.cast t = .ok p.first ∧ w.cast t = .ok p.second ∧
      (∀ op ∈ [BinaryOp.add, .subtract, .multiply, .divide, .modulus, .less, .lessEqual, .greater,
        .greaterEqual, .equal, .notEqual], v.binary op w = p.first.binary op p.second) ∧
      (t.isIntegral = true → ∀ op ∈ [BinaryOp.logicalAnd, .logicalOr, .logicalXor],
        v.binary op w = p.first.binary op p.second) := by
  obtain ⟨p, hp, rfl⟩ := NumberPair.exists_ofValues? h
  obtain ⟨hv, hw⟩ := NumberPair.cast_of_ofValues? hp
  have hsame : ∀ op, (p.operate? op).isSome = true →
      v.binary op w = p.first.binary op p.second := by
    intro op hop
    obtain ⟨result, hresult⟩ := Option.isSome_iff_exists.1 hop
    rw [binary_of_ofValues? hp hresult,
      binary_of_ofValues? p.ofValues?_first_second hresult]
  refine ⟨p, hp, hv, hw, fun op hop ↦ hsame op ?_, fun hintegral op hop ↦ hsame op ?_⟩
  · simp only [List.mem_cons, List.not_mem_nil, or_false] at hop
    rcases hop with rfl | rfl | rfl | rfl | rfl | rfl | rfl | rfl | rfl | rfl | rfl <;> rfl
  · simp only [List.mem_cons, List.not_mem_nil, or_false] at hop
    rcases hop with rfl | rfl | rfl <;>
      rw [NumberPair.operate?, Option.isSome_map, NumberPair.isSome_bitwise?, hintegral]

/-- An integer of 64 bits that has no place among the numbers of 64 bits equals the one that it is
rounded to, as its cast does. -/
theorem equal_of_rounded_cast :
    (int64 9007199254740993).type.promoteWith (double (Floating.ofInt 9007199254740992)).type =
        some .double ∧
      (int64 9007199254740993).binary .equal (double (Floating.ofInt 9007199254740992)) =
        .ok (boolean true) := by
  obtain ⟨p, -, hv, hw, hsame, -⟩ := binary_eq_binary_cast (int64 9007199254740993)
    (double (Floating.ofInt 9007199254740992)) .double rfl
  have hfirst : p.first = double (Floating.ofInt 9007199254740993) := (Except.ok.inj hv).symm
  have hsecond : p.second = double (Floating.ofInt 9007199254740992) := (Except.ok.inj hw).symm
  refine ⟨rfl, (hsame .equal (by simp)).trans ?_⟩
  have hrounded : ((Floating.ofInt 9007199254740993 : Double).compare?
      (Floating.ofInt 9007199254740992) == some .eq) = true := by decide +kernel
  rw [hfirst, hsecond]
  exact congrArg (fun equal ↦ Except.ok (boolean equal)) hrounded

end Value

end Formula
