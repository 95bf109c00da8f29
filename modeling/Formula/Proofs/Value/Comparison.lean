import Formula.Proofs.Value.Number
import Formula.Proofs.Value.Widening

/-!
# Comparisons agree with each other

A comparison of two numbers is an answer read off one ordering, that of the pair in which they meet
(`Value.binary_of_comparison`).  So laws that relate several comparisons of the same two numbers are
laws about orderings, of which there are three, and none where something is not a number.

Laws that turn the operands round need that the pair turns with them.  The type in which two values
meet is picked by an order of the types, not of the operands, and each number of the pair is a cast
of its own value, hence `NumberPair.ofValues?_swap`; and the ordering of a pair turned round is the
opposite one, `NumberPair.compare?_swap`.

Equality goes further than numbers.  `Value.equal?` is its answer for any two values, none where
their types cannot be compared, and does not depend on their order (`Value.equal?_comm`).
-/

set_option autoImplicit false

namespace Formula

/-! ## Pairs turned round -/

namespace NumberPair

variable {v w : Value} {p q : NumberPair}

/-- The pair with its numbers in the other order. -/
def swap : NumberPair → NumberPair
  | byte a b => byte b a
  | int16 a b => int16 b a
  | int32 a b => int32 b a
  | int64 a b => int64 b a
  | single a b => single b a
  | double a b => double b a
  | decimal a b => decimal b a

@[simp] theorem first_swap (p : NumberPair) : p.swap.first = p.second := by cases p <;> rfl

@[simp] theorem second_swap (p : NumberPair) : p.swap.second = p.first := by cases p <;> rfl

/-- A pair is known from its two numbers. -/
theorem eq_of_first_second (hfirst : p.first = q.first) (hsecond : p.second = q.second) :
    p = q := by
  cases p <;> cases q <;> cases hfirst <;> cases hsecond <;> rfl

theorem promoteWith_of_ofValues? (h : ofValues? v w = some p) :
    v.type.promoteWith w.type = some p.type := by
  rw [← ValueType.join?_eq_promoteWith, ← type_ofValues?, h, Option.map_some]

theorem ofValues?_eq_none_iff : ofValues? v w = none ↔ v.type.promoteWith w.type = none := by
  rw [← ValueType.join?_eq_promoteWith, ← type_ofValues?, Option.map_eq_none_iff]

/-- **Two values in the other order meet in the pair turned round.** -/
theorem ofValues?_swap (v w : Value) : ofValues? w v = (ofValues? v w).map swap := by
  cases h : ofValues? v w with
  | none =>
    rw [ofValues?_eq_none_iff, ValueType.promoteWith_comm] at h
    rw [ofValues?_eq_none_iff.2 h, Option.map_none]
  | some p =>
    -- The second pair is of the same type, and in that type each value has one cast.
    have hmeet := promoteWith_of_ofValues? h
    rw [ValueType.promoteWith_comm] at hmeet
    obtain ⟨q, hq, htype⟩ := exists_ofValues? hmeet
    obtain ⟨hv, hw⟩ := cast_of_ofValues? h
    obtain ⟨hw', hv'⟩ := cast_of_ofValues? hq
    rw [htype, hw] at hw'
    rw [htype, hv] at hv'
    have hswap : q = p.swap :=
      eq_of_first_second (by simpa using hw'.symm) (by simpa using hv'.symm)
    rw [hq, hswap, Option.map_some]

theorem ofValues?_eq_swap (h : ofValues? v w = some p) : ofValues? w v = some p.swap := by
  rw [ofValues?_swap, h, Option.map_some]

end NumberPair

theorem Floating.compare?_swap {f : Format} (x y : Floating f) :
    y.compare? x = (x.compare? y).map Ordering.swap := by
  rw [compare?, compare?]
  cases x.position? <;> cases y.position? <;> simp [← Std.OrientedOrd.eq_swap]

/-- Exactly what is not a number has no place in the order. -/
theorem Floating.compare?_eq_none_iff {f : Format} {x y : Floating f} :
    x.compare? y = none ↔ x.number = .nan ∨ y.number = .nan := by
  cases x <;> cases y <;> simp [compare?, position?, number]

namespace NumberPair

theorem compare?_swap (p : NumberPair) : p.swap.compare? = p.compare?.map Ordering.swap := by
  cases p with
  | byte a b => exact congrArg some Std.OrientedOrd.eq_swap
  | int16 a b | int32 a b | int64 a b => exact congrArg some Std.OrientedOrd.eq_swap
  | single a b | double a b => exact a.compare?_swap b
  | decimal a b => exact congrArg some Std.OrientedOrd.eq_swap

theorem compare?_eq_none_iff {p : NumberPair} :
    p.compare? = none ↔ p.first.number? = some .nan ∨ p.second.number? = some .nan := by
  cases p with
  | single a b | double a b => simp [compare?, first, second, Value.number?,
      Floating.compare?_eq_none_iff]
  | byte | int16 | int32 | int64 | decimal =>
    simp [compare?, first, second, Value.number?, Value.integral?]

end NumberPair

/-! ## One ordering, six answers -/

namespace BinaryOp

/-- The operators that compare numbers. -/
def comparisons : List BinaryOp := [less, lessEqual, greater, greaterEqual, equal, notEqual]

/-- The answer of a comparison to an ordering, or to there being none. -/
def answer (op : BinaryOp) (ordering : Option Ordering) : Bool :=
  match op with
  | equal => ordering == some .eq
  | notEqual => !(ordering == some .eq)
  | _ => ordering.any (Value.holds op)

/-- The comparison that asks for the opposite ordering. -/
def opposite : BinaryOp → BinaryOp
  | less => greater
  | greater => less
  | lessEqual => greaterEqual
  | greaterEqual => lessEqual
  | op => op

theorem opposite_mem {op : BinaryOp} (hop : op ∈ comparisons) : op.opposite ∈ comparisons := by
  revert hop
  cases op <;> decide

theorem answer_swap {op : BinaryOp} (hop : op ∈ comparisons) (ordering : Option Ordering) :
    op.opposite.answer (ordering.map Ordering.swap) = op.answer ordering := by
  simp only [comparisons, List.mem_cons, List.not_mem_nil, or_false] at hop
  rcases hop with rfl | rfl | rfl | rfl | rfl | rfl <;> rcases ordering with _ | _ | _ | _ <;> rfl

theorem answer_lessEqual (ordering : Option Ordering) :
    lessEqual.answer ordering = (less.answer ordering || equal.answer ordering) := by
  rcases ordering with _ | _ | _ | _ <;> rfl

/-- To no ordering, only one answer is that the comparison holds. -/
theorem answer_none_iff {op : BinaryOp} (hop : op ∈ comparisons) :
    op.answer none = true ↔ op = notEqual := by
  revert hop
  cases op <;> decide

/-- To each ordering, just one of three answers is that the comparison holds. -/
theorem existsUnique_answer (ordering : Ordering) :
    ∃! op, op ∈ [less, equal, greater] ∧ op.answer (some ordering) = true := by
  let found : BinaryOp := match ordering with
    | .lt => less
    | .eq => equal
    | .gt => greater
  refine ⟨found, by cases ordering <;> decide, ?_⟩
  rintro op ⟨hop, hanswer⟩
  simp only [List.mem_cons, List.not_mem_nil, or_false] at hop
  rcases hop with rfl | rfl | rfl <;> cases ordering <;> first | rfl | cases hanswer

end BinaryOp

namespace Value

variable {v w : Value} {p : NumberPair} {op : BinaryOp}

/-- Whether a comparison of two values has the answer that it holds. -/
def Affirms (op : BinaryOp) (v w : Value) : Prop := v.binary op w = .ok (boolean true)

instance (op : BinaryOp) (v w : Value) : Decidable (Affirms op v w) :=
  inferInstanceAs (Decidable (_ = _))

/-- **A comparison of two numbers goes by the order of the pair** in which they meet. -/
theorem binary_of_comparison (h : NumberPair.ofValues? v w = some p)
    (hop : op ∈ BinaryOp.comparisons) : v.binary op w = .ok (boolean (op.answer p.compare?)) := by
  refine binary_of_ofValues? h ?_
  simp only [BinaryOp.comparisons, List.mem_cons, List.not_mem_nil, or_false] at hop
  rcases hop with rfl | rfl | rfl | rfl | rfl | rfl <;> rfl

theorem affirms_iff (h : NumberPair.ofValues? v w = some p) (hop : op ∈ BinaryOp.comparisons) :
    Affirms op v w ↔ op.answer p.compare? = true := by
  rw [Affirms, binary_of_comparison h hop]
  simp

/-- **Turning the operands round turns the comparison round.** -/
theorem affirms_opposite_iff (h : NumberPair.ofValues? v w = some p)
    (hop : op ∈ BinaryOp.comparisons) : Affirms op v w ↔ Affirms op.opposite w v := by
  rw [affirms_iff h hop, affirms_iff (NumberPair.ofValues?_eq_swap h) (BinaryOp.opposite_mem hop),
    p.compare?_swap, BinaryOp.answer_swap hop]

theorem affirms_lessEqual_iff (h : NumberPair.ofValues? v w = some p) :
    Affirms .lessEqual v w ↔ Affirms .less v w ∨ Affirms .equal v w := by
  rw [affirms_iff h (by decide), affirms_iff h (by decide), affirms_iff h (by decide),
    BinaryOp.answer_lessEqual, Bool.or_eq_true]

theorem affirms_notEqual_iff (h : NumberPair.ofValues? v w = some p) :
    Affirms .notEqual v w ↔ ¬ Affirms .equal v w := by
  rw [affirms_iff h (by decide), affirms_iff h (by decide), Bool.not_eq_true]
  exact iff_of_eq (Bool.not_eq_true' _)

/-- Nothing holds of what is not a number but that it is not equal. -/
theorem affirms_of_nan (h : NumberPair.ofValues? v w = some p)
    (hnan : p.first.number? = some .nan ∨ p.second.number? = some .nan)
    (hop : op ∈ BinaryOp.comparisons) : Affirms op v w ↔ op = .notEqual := by
  rw [affirms_iff h hop, NumberPair.compare?_eq_none_iff.2 hnan, BinaryOp.answer_none_iff hop]

/-- **Of two numbers, one is less, or they are equal, or the other is less**, and only one of it. -/
theorem existsUnique_affirms (h : NumberPair.ofValues? v w = some p)
    (hnan : ¬ (p.first.number? = some .nan ∨ p.second.number? = some .nan)) :
    ∃! op, op ∈ [BinaryOp.less, .equal, .greater] ∧ Affirms op v w := by
  rw [← NumberPair.compare?_eq_none_iff] at hnan
  obtain ⟨ordering, hordering⟩ := Option.ne_none_iff_exists'.1 hnan
  have hmem : ∀ op ∈ [BinaryOp.less, .equal, .greater], op ∈ BinaryOp.comparisons := by decide
  obtain ⟨op, ⟨hop, hanswer⟩, hunique⟩ := BinaryOp.existsUnique_answer ordering
  rw [← hordering] at hanswer hunique
  refine ⟨op, ⟨hop, (affirms_iff h (hmem op hop)).2 hanswer⟩, fun op' h' ↦ ?_⟩
  exact hunique op' ⟨h'.1, (affirms_iff h (hmem op' h'.1)).1 h'.2⟩

/-! ## Values that do not meet -/

/-- A comparison by order of two values that do not meet fails: for a `null`, if there is one, and
otherwise for the types. -/
theorem binary_of_isRelational (hop : op.isRelational = true)
    (h : v.type.promoteWith w.type = none) :
    v.binary op w =
      if v = null ∨ w = null then .error (.nullOperand op.symbol)
      else .error (.unsupportedOperands op.symbol v.type w.type) := by
  have hnone := NumberPair.ofValues?_eq_none_iff.2 h
  have hrelational : v.binary op w =
      if v.isNull || w.isNull then .error (.nullOperand op.symbol) else relational op v w := by
    cases op <;> first | rfl | cases hop
  rw [hrelational, relational, hnone]
  simp only [Bool.or_eq_true, isNull_iff]
  rfl

/-! ## Equality of any two values -/

theorem equality_null_right (op : BinaryOp) (v : Value) :
    equality op v null = equality op null v := by
  cases v <;> rfl

theorem equality_boolean_comm (op : BinaryOp) (a b : Bool) :
    equality op (boolean a) (boolean b) = equality op (boolean b) (boolean a) := by
  simp only [equality, BEq.comm (a := a)]

theorem equality_string_comm (op : BinaryOp) (a b : String) :
    equality op (string a) (string b) = equality op (string b) (string a) := by
  simp only [equality, BEq.comm (a := a)]

theorem equality_comm_of_ofValues? (op : BinaryOp) (h : NumberPair.ofValues? v w = some p) :
    equality op v w = equality op w v := by
  have hequal : (p.swap.compare? == some .eq) = (p.compare? == some .eq) := by
    rw [p.compare?_swap]
    exact BinaryOp.answer_swap (by decide : BinaryOp.equal ∈ BinaryOp.comparisons) p.compare?
  rw [equality_of_ofValues? op h, equality_of_ofValues? op (NumberPair.ofValues?_eq_swap h), hequal]

/-- Two values of which neither is `null`, and which are not two truth values or two strings, have
to meet. -/
theorem equality_of_not_meet (op : BinaryOp) (hnull : ¬ (v = null ∨ w = null))
    (hboolean : ¬ ∃ a b, v = boolean a ∧ w = boolean b)
    (hstring : ¬ ∃ a b, v = string a ∧ w = string b) (h : NumberPair.ofValues? v w = none) :
    equality op v w = .error (.unsupportedOperands op.symbol v.type w.type) := by
  rw [equality.eq_def]
  dsimp only
  split
  · exact absurd (.inl rfl) hnull
  · exact absurd (.inr rfl) hnull
  · exact absurd ⟨_, _, rfl, rfl⟩ hboolean
  · exact absurd ⟨_, _, rfl, rfl⟩ hstring
  · rw [h]
    rfl

/-- **Equality does not depend on the order of its operands**, and where their types cannot be
compared, it is refused in either order. -/
theorem equality_comm (op : BinaryOp) (v w : Value) :
    (∃ b, equality op v w = .ok (boolean b) ∧ equality op w v = .ok (boolean b)) ∨
      (equality op v w = .error (.unsupportedOperands op.symbol v.type w.type) ∧
        equality op w v = .error (.unsupportedOperands op.symbol w.type v.type)) := by
  -- What is decided before any numbers: a `null` on either side has an answer, and truth values and
  -- strings have one among themselves.
  by_cases hnull : v = null ∨ w = null
  · rcases hnull with rfl | rfl
    · exact .inl ⟨_, rfl, equality_null_right op w⟩
    · exact .inl ⟨_, equality_null_right op v, rfl⟩
  by_cases hboolean : ∃ a b, v = boolean a ∧ w = boolean b
  · obtain ⟨a, b, rfl, rfl⟩ := hboolean
    exact .inl ⟨_, rfl, equality_boolean_comm op b a⟩
  by_cases hstring : ∃ a b, v = string a ∧ w = string b
  · obtain ⟨a, b, rfl, rfl⟩ := hstring
    exact .inl ⟨_, rfl, equality_string_comm op b a⟩
  match h : NumberPair.ofValues? v w with
  | some p =>
    have hcomm := equality_comm_of_ofValues? op h
    exact .inl ⟨_, equality_of_ofValues? op h, hcomm ▸ equality_of_ofValues? op h⟩
  | none =>
    have hswap : NumberPair.ofValues? w v = none := by
      rw [NumberPair.ofValues?_swap, h, Option.map_none]
    refine .inr ⟨equality_of_not_meet op hnull hboolean hstring h,
      equality_of_not_meet op (hnull ∘ Or.symm) ?_ ?_ hswap⟩
    · rintro ⟨a, b, hw, hv⟩
      exact hboolean ⟨b, a, hv, hw⟩
    · rintro ⟨a, b, hw, hv⟩
      exact hstring ⟨b, a, hv, hw⟩

/-- **The comparisons agree with each other.**  If the types of two values meet, all six have an
answer.  Turning the operands round turns `<` into `>` and `<=` into `>=` and leaves `==` alone,
`<=` is `<` or `==`, and `!=` is the opposite of `==`.  Just one of `<`, `==` and `>` holds, unless
one of the two is not a number, and then nothing but `!=` does.  If the types do not meet, the
comparisons by order fail.  Any two values are equal, or not, in either order, or `==` and `!=` are
refused in both. -/
theorem comparisons_consistent (v w : Value) :
    (∀ t, v.type.promoteWith w.type = some t →
      ∃ p, NumberPair.ofValues? v w = some p ∧ p.type = t ∧
        (∀ op ∈ BinaryOp.comparisons, ∃ b, v.binary op w = .ok (boolean b)) ∧
        (Affirms .less v w ↔ Affirms .greater w v) ∧
        (Affirms .lessEqual v w ↔ Affirms .greaterEqual w v) ∧
        (Affirms .lessEqual v w ↔ Affirms .less v w ∨ Affirms .equal v w) ∧
        (Affirms .notEqual v w ↔ ¬ Affirms .equal v w) ∧
        (Affirms .equal v w ↔ Affirms .equal w v) ∧
        (¬ (p.first.number? = some .nan ∨ p.second.number? = some .nan) →
          ∃! op, op ∈ [BinaryOp.less, .equal, .greater] ∧ Affirms op v w) ∧
        (p.first.number? = some .nan ∨ p.second.number? = some .nan →
          ∀ op ∈ BinaryOp.comparisons, Affirms op v w ↔ op = .notEqual)) ∧
    (v.type.promoteWith w.type = none →
      ∀ op ∈ [BinaryOp.less, .lessEqual, .greater, .greaterEqual],
        v.binary op w = if v = null ∨ w = null then .error (.nullOperand op.symbol)
          else .error (.unsupportedOperands op.symbol v.type w.type)) ∧
    ∀ op ∈ [BinaryOp.equal, .notEqual],
      (∃ b, v.binary op w = .ok (boolean b) ∧ w.binary op v = .ok (boolean b)) ∨
        (v.binary op w = .error (.unsupportedOperands op.symbol v.type w.type) ∧
          w.binary op v = .error (.unsupportedOperands op.symbol w.type v.type)) := by
  refine ⟨fun t ht ↦ ?_, fun h op hop ↦ ?_, fun op hop ↦ ?_⟩
  · obtain ⟨p, hp, htype⟩ := NumberPair.exists_ofValues? ht
    exact ⟨p, hp, htype, fun op hop ↦ ⟨_, binary_of_comparison hp hop⟩,
      affirms_opposite_iff hp (by decide), affirms_opposite_iff hp (by decide),
      affirms_lessEqual_iff hp, affirms_notEqual_iff hp, affirms_opposite_iff hp (by decide),
      existsUnique_affirms hp, fun hnan op ↦ affirms_of_nan hp hnan⟩
  · refine binary_of_isRelational ?_ h
    revert hop
    cases op <;> decide
  · have hbinary : ∀ v w : Value, v.binary op w = equality op v w := by
      simp only [List.mem_cons, List.not_mem_nil, or_false] at hop
      rcases hop with rfl | rfl <;> exact fun _ _ ↦ rfl
    rw [hbinary, hbinary]
    exact equality_comm op v w

end Value

end Formula
