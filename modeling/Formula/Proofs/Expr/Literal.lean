import Formula.Compiled
import Formula.Proofs.Expr.Spelling

/-!
# Literals come back as values

`Value.literal` writes a value as an expression.  Evaluating that text gives the value again, with
its type, the sign of a zero and the places of a decimal, and no context is needed for it.

A few values have no literal, `Value.Unwritable`: the text that is written for one of them is no
expression at all.  They are the binary numbers that are not finite, and the least integers of 32
and 64 bits.  A literal of these has a minus sign and digits behind it, and the digits alone are
beyond the type; the least integers of the narrow types are within the type that they are cast from.
-/

set_option autoImplicit false

namespace Formula

/-- The least integer of a signed type is the only one of which the magnitude is not of the type. -/
theorem IntegerType.eq_low_of_not_holds {bits : Nat} {i : Int} (hi : (signedOf bits).Holds i)
    (h : ¬ (signedOf bits).Holds i.natAbs) : i = (signedOf bits).low := by
  simp only [Holds, low, high, signedOf, if_true] at *
  omega

namespace Value

/-- The values that cannot be written. -/
inductive Unwritable : Value → Prop
  | leastInt32 : Unwritable (.int32 Int32.minValue)
  | leastInt64 : Unwritable (.int64 Int64.minValue)
  | singleNan : Unwritable (.single .nan)
  | singleInfinity (negative : Bool) : Unwritable (.single (.infinity negative))
  | doubleNan : Unwritable (.double .nan)
  | doubleInfinity (negative : Bool) : Unwritable (.double (.infinity negative))

/-- The values that cannot be written are those of which the body of the literal is not read. -/
theorem spellable_iff (v : Value) : v.Spellable ↔ ¬ v.Unwritable := by
  constructor
  · rintro h (_ | _ | _ | _ | _ | _)
    · exact absurd (IntegerType.holds_signedOf_iff.1 h) (by decide)
    · exact absurd (IntegerType.holds_signedOf_iff.1 h) (by decide)
    all_goals cases h
  · intro h
    cases v with
    | null | boolean | string | byte | int16 | decimal => trivial
    | int32 n =>
      by_contra hbeyond
      have hn : (IntegerType.signedOf 32).Holds n.toInt :=
        ⟨n.le_toInt, Int.le_sub_one_of_lt n.toInt_lt⟩
      obtain rfl : n = Int32.minValue :=
        Int32.toInt_inj.1 (IntegerType.eq_low_of_not_holds hn hbeyond)
      exact h .leastInt32
    | int64 n =>
      by_contra hbeyond
      have hn : (IntegerType.signedOf 64).Holds n.toInt :=
        ⟨n.le_toInt, Int.le_sub_one_of_lt n.toInt_lt⟩
      obtain rfl : n = Int64.minValue :=
        Int64.toInt_inj.1 (IntegerType.eq_low_of_not_holds hn hbeyond)
      exact h .leastInt64
    | single x =>
      cases x with
      | nan => exact absurd .singleNan h
      | infinity negative => exact absurd (.singleInfinity negative) h
      | finite => rfl
    | double x =>
      cases x with
      | nan => exact absurd .doubleNan h
      | infinity negative => exact absurd (.doubleInfinity negative) h
      | finite => rfl

/-- A cast and a sign are all that reading a literal can need of the budget. -/
theorem spellCost_le (v : Value) : v.spellCost ≤ 2 := by
  rw [spellCost]
  split <;> split <;> decide

/-- What a literal is read as, and when it is. -/
theorem parse_literal_eq_ok_iff {v : Value} {e : Expr} :
    Expr.parse v.literal = .ok e ↔ ¬ v.Unwritable ∧ v.spelled = e := by
  have hcost : groupCost + v.spellCost ≤ maxDepth :=
    Nat.le_trans (Nat.add_le_add_left v.spellCost_le groupCost) (by decide)
  rw [← spellable_iff]
  constructor
  · intro h
    obtain ⟨hlegible, hspelled, -⟩ := (Expr.parse_render_eq_ok_iff (e := .const v)).1 h
    exact ⟨hlegible, hspelled⟩
  · rintro ⟨hspellable, hspelled⟩
    exact (Expr.parse_render_eq_ok_iff (e := .const v)).2 ⟨hspellable, hspelled, hcost⟩

/-- **Literals read back.**  The literal of a value evaluates to exactly this value, without any
variables, unless the value is one of the few that cannot be written; the text of one of those does
not compile. -/
theorem evaluate_literal (v : Value) :
    (¬ v.Unwritable → evaluate v.literal .empty = .ok v) ∧
      (v.Unwritable → ∃ error, compile v.literal = .error error) := by
  constructor
  · intro h
    have hparse : Expr.parse v.literal = .ok v.spelled := parse_literal_eq_ok_iff.2 ⟨h, rfl⟩
    have hcompile : compile v.literal = .ok { source := v.literal, root := v.spelled } := by
      rw [compile, hparse]
    rw [evaluate, hcompile]
    simp only [Compiled.evaluate, eval_spelled]
  · intro h
    rw [compile]
    cases hparse : Expr.parse v.literal with
    | error error => exact ⟨error, rfl⟩
    | ok e => exact absurd h (parse_literal_eq_ok_iff.1 hparse).1

/-- The least narrow integer and a negative zero with places come back; the least integer of 64 bits
cannot be written. -/
theorem evaluate_literal_least :
    evaluate (Value.int16 Int16.minValue).literal .empty = .ok (.int16 Int16.minValue) ∧
      evaluate (Value.decimal { negative := true, mantissa := 0, scale := 2 }).literal .empty =
        .ok (.decimal { negative := true, mantissa := 0, scale := 2 }) ∧
      ∃ error, compile (Value.int64 Int64.minValue).literal = .error error :=
  ⟨(evaluate_literal _).1 (by rintro ⟨⟩), (evaluate_literal _).1 (by rintro ⟨⟩),
    (evaluate_literal _).2 .leastInt64⟩

end Value

end Formula
