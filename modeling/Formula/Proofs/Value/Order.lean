import Formula.Proofs.Value.Comparison
import Formula.Proofs.Value.Lossless
import Mathlib.Order.Defs.Unbundled

/-!
# Comparison without floating point

Integers and decimals of any two types are compared as the rational numbers that they stand for.
Nothing is rounded on the way: of two such types, each has all of its numbers in the type in which
they meet (`ValueType.exists_widenings`), so the pair stands for the same two numbers as the values.

Three values may be compared in up to three types, and the laws of an order are about three values.
They hold because none of the types shows in the answer (`ExactValue.affirms_iff`): `==` is an
equivalence, and `<` is a strict total order of its classes.
-/

set_option autoImplicit false

namespace Formula

/-- The types without binary floating point. -/
def ValueType.exact : List ValueType := [byte, int16, int32, int64, decimal]

/-- Two types without binary floating point meet in one that has all the numbers of both. -/
theorem ValueType.exists_widenings {s u : ValueType} (hs : s ∈ exact) (hu : u ∈ exact) :
    ∃ t, s.promoteWith u = some t ∧ t ∈ s.widenings ∧ t ∈ u.widenings := by
  simp only [exact, List.mem_cons, List.not_mem_nil, or_false] at hs hu
  rcases hs with rfl | rfl | rfl | rfl | rfl <;> rcases hu with rfl | rfl | rfl | rfl | rfl <;>
    exact ⟨_, rfl, by decide, by decide⟩

/-- A value that is an integer or a decimal. -/
def ExactValue := { v : Value // v.type ∈ ValueType.exact }

namespace BinaryOp

/-- The answer of a comparison to two rational numbers. -/
def compares (op : BinaryOp) (p q : ℚ) : Bool :=
  match op with
  | less => decide (p < q)
  | lessEqual => decide (p ≤ q)
  | greater => decide (p > q)
  | greaterEqual => decide (p ≥ q)
  | equal => decide (p = q)
  | notEqual => decide (p ≠ q)
  | _ => false

theorem answer_compare {op : BinaryOp} (hop : op ∈ comparisons) (p q : ℚ) :
    op.answer (some (compare p q)) = op.compares p q := by
  simp only [comparisons, List.mem_cons, List.not_mem_nil, or_false] at hop
  rcases lt_trichotomy p q with h | rfl | h
  · rw [compare_lt_iff_lt.2 h]
    rcases hop with rfl | rfl | rfl | rfl | rfl | rfl <;>
      simp [answer, Value.holds, compares, h, h.le, h.ne, h.not_ge, h.not_gt]
  · rw [compare_eq_iff_eq.2 rfl]
    rcases hop with rfl | rfl | rfl | rfl | rfl | rfl <;> simp [answer, Value.holds, compares]
  · rw [compare_gt_iff_gt.2 h]
    rcases hop with rfl | rfl | rfl | rfl | rfl | rfl <;>
      simp [answer, Value.holds, compares, h, h.le, h.ne', h.not_ge, h.not_gt]

end BinaryOp

/-! ## The answers -/

namespace ExactValue

/-- The rational number that a value stands for. -/
def rational (v : ExactValue) : ℚ :=
  match v.1.number? with
  | some (.rational q) => q
  | _ => 0

theorem number?_eq (v : ExactValue) : v.1.number? = some (.rational v.rational) := by
  obtain ⟨v, hv⟩ := v
  cases v with
  | byte | int16 | int32 | int64 | decimal => rfl
  | null | boolean | string | single | double =>
    exact absurd hv (by simp [Value.type, ValueType.exact])

/-- The pair in which two values meet is in the order of their rationals. -/
theorem exists_pair (v w : ExactValue) :
    ∃ p, NumberPair.ofValues? v.1 w.1 = some p ∧
      p.compare? = some (compare v.rational w.rational) := by
  obtain ⟨t, ht, hv, hw⟩ := ValueType.exists_widenings v.2 w.2
  obtain ⟨p, hp, rfl⟩ := NumberPair.exists_ofValues? ht
  obtain ⟨hfirst, hsecond⟩ := NumberPair.cast_of_ofValues? hp
  -- The numbers of the pair are the casts of the values, which keep what these stand for.
  obtain ⟨v', hv', hvnumber, -⟩ := Value.exists_cast_cast hv
  obtain ⟨w', hw', hwnumber, -⟩ := Value.exists_cast_cast hw
  obtain rfl := Except.ok.inj (hv'.symm.trans hfirst)
  obtain rfl := Except.ok.inj (hw'.symm.trans hsecond)
  exact ⟨p, hp, p.compare?_of_rational (hvnumber.trans v.number?_eq)
    (hwnumber.trans w.number?_eq)⟩

/-- **A comparison is that of the rationals.** -/
theorem binary_eq (v w : ExactValue) {op : BinaryOp} (hop : op ∈ BinaryOp.comparisons) :
    v.1.binary op w.1 = .ok (.boolean (op.compares v.rational w.rational)) := by
  obtain ⟨p, hp, hcompare⟩ := exists_pair v w
  rw [Value.binary_of_comparison hp hop, hcompare, BinaryOp.answer_compare hop]

theorem affirms_iff (v w : ExactValue) {op : BinaryOp} (hop : op ∈ BinaryOp.comparisons) :
    Value.Affirms op v.1 w.1 ↔ op.compares v.rational w.rational = true := by
  rw [Value.Affirms, binary_eq v w hop]
  simp

/-! ## The order -/

theorem equal_iff (v w : ExactValue) :
    Value.Affirms .equal v.1 w.1 ↔ v.rational = w.rational :=
  (affirms_iff v w (by decide)).trans decide_eq_true_iff

theorem less_iff (v w : ExactValue) :
    Value.Affirms .less v.1 w.1 ↔ v.rational < w.rational :=
  (affirms_iff v w (by decide)).trans decide_eq_true_iff

theorem equivalence_equal :
    Equivalence fun v w : ExactValue ↦ Value.Affirms .equal v.1 w.1 where
  refl v := (equal_iff v v).2 rfl
  symm h := (equal_iff ..).2 ((equal_iff ..).1 h).symm
  trans h h' := (equal_iff ..).2 (((equal_iff ..).1 h).trans ((equal_iff ..).1 h'))

/-- Two values are the same up to equality if `==` holds of them. -/
def setoid : Setoid ExactValue := ⟨_, equivalence_equal⟩

/-- The values up to equality. -/
def Class := Quotient setoid

/-- The order of the classes: `<` on any of their values. -/
def Class.Less : Class → Class → Prop :=
  Quotient.lift₂ (fun v w : ExactValue ↦ Value.Affirms .less v.1 w.1) fun v w v' w' hv hw ↦ by
    rw [less_iff, less_iff, (equal_iff v v').1 hv, (equal_iff w w').1 hw]

theorem isStrictTotalOrder_less : IsStrictTotalOrder Class Class.Less where
  irrefl := Quotient.ind fun v h ↦ lt_irrefl _ ((less_iff v v).1 h)
  trans a b c := by
    induction a, b, c using Quotient.inductionOn₃ with
    | h u v w =>
      intro huv hvw
      exact (less_iff u w).2 (((less_iff u v).1 huv).trans ((less_iff v w).1 hvw))
  trichotomous a b := by
    induction a, b using Quotient.inductionOn₂ with
    | h v w =>
      intro hvw hwv
      have hle : w.rational ≤ v.rational := not_lt.1 fun h ↦ hvw ((less_iff v w).2 h)
      have hge : v.rational ≤ w.rational := not_lt.1 fun h ↦ hwv ((less_iff w v).2 h)
      exact Quotient.sound ((equal_iff v w).2 (le_antisymm hge hle))

/-- **Without floating point, comparison is the order of the rationals.**  Every integer and every
decimal stands for a rational number, and each of the six comparisons of two of them succeeds and
gives the comparison of these numbers.  Hence `==` is an equivalence of the integers and decimals of
all types, and `<` a strict total order of its classes. -/
theorem comparison_rational :
    (∀ v : ExactValue, v.1.number? = some (.rational v.rational)) ∧
    (∀ v w : ExactValue, ∀ op ∈ BinaryOp.comparisons,
      v.1.binary op w.1 = .ok (.boolean (op.compares v.rational w.rational))) ∧
    Equivalence (fun v w : ExactValue ↦ Value.Affirms .equal v.1 w.1) ∧
    IsStrictTotalOrder Class Class.Less :=
  ⟨number?_eq, fun v w _ ↦ binary_eq v w, equivalence_equal, isStrictTotalOrder_less⟩

end ExactValue

end Formula
