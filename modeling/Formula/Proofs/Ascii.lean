/-!
# ASCII characters

Questions about the ASCII characters are settled by looking at all 128 of them: `forall_ascii`.
-/

set_option autoImplicit false

namespace Formula

/-- What holds of the first 128 code points holds of every ASCII character. -/
theorem forall_ascii {p : Char → Prop} (h : ∀ n : Fin 128, p (Char.ofNat n)) {c : Char}
    (hc : c.toNat < 128) : p c := by
  have := h ⟨c.toNat, hc⟩
  rwa [Char.ofNat_toNat] at this

/-- What holds of the digits among the first 128 code points holds of every digit. -/
theorem forall_isDigit {p : Char → Prop}
    (h : ∀ n : Fin 128, (Char.ofNat n).isDigit = true → p (Char.ofNat n)) {c : Char}
    (hc : c.isDigit = true) : p c := by
  refine forall_ascii (p := fun c ↦ c.isDigit = true → p c) h ?_ hc
  simp only [Char.isDigit, Bool.and_eq_true, decide_eq_true_eq, UInt32.le_iff_toNat_le] at hc
  exact Nat.lt_of_le_of_lt hc.2 (by decide)

end Formula
