import Formula.Text.Digits

/-!
# Digits that are written and read

What `Digits.write`, `Digits.padded` and `Digits.fixed` write, and how many characters of it; and
the value of digits that stand one after the other.
-/

set_option autoImplicit false

-- Powers of natural numbers are those of the core library, whatever else is imported.
attribute [local instance(high)] instPowNat

namespace Formula.Digits

/-! ## Values -/

theorem value_append (a b : List Char) : value (a ++ b) = value a * 10 ^ b.length + value b := by
  -- the value of the digits on the right, with any number accumulated before them
  have hfold : ∀ n, b.foldl (fun n c ↦ 10 * n + digitValue c) n = n * 10 ^ b.length + value b := by
    induction b with
    | nil => intro n; simp [value]
    | cons c b ih =>
      intro n
      have hcons : value (c :: b) = digitValue c * 10 ^ b.length + value b := by
        rw [value, List.foldl_cons, ih, Nat.mul_zero, Nat.zero_add]
      rw [List.foldl_cons, ih, hcons, List.length_cons, Nat.pow_succ, Nat.add_mul, Nat.add_assoc,
        Nat.mul_comm 10, Nat.mul_assoc, Nat.mul_comm 10]
  rw [value, List.foldl_append]
  exact hfold _

theorem value_replicate_zero (width : Nat) : value (List.replicate width '0') = 0 := by
  induction width with
  | zero => rfl
  | succ width ih => rw [List.replicate_succ', value_concat, ih]; rfl

theorem value_padded (width n : Nat) : value (padded width n) = n := by
  rw [padded, value_append, value_replicate_zero, value_write, Nat.zero_mul, Nat.zero_add]

/-! ## Lengths -/

theorem count_le {n width : Nat} (hpos : 0 < width) (h : n < 10 ^ width) : count n ≤ width := by
  induction width generalizing n with
  | zero => omega
  | succ width ih =>
    rw [count, write]
    split
    · simp
    · rename_i hlarge
      rw [List.length_append, List.length_singleton]
      have hwidth : 0 < width := by
        rcases Nat.eq_zero_or_pos width with rfl | hwidth
        · omega
        · exact hwidth
      have := ih hwidth (n := n / 10) (by rw [Nat.pow_succ] at h; omega)
      rw [count] at this
      omega

theorem lt_count {n places : Nat} (h : 10 ^ places ≤ n) : places < count n := by
  induction places generalizing n with
  | zero => exact List.length_pos_iff.2 (write_ne_nil n)
  | succ places ih =>
    have hpos := Nat.pow_pos (n := places) (show 0 < 10 by decide)
    rw [Nat.pow_succ] at h
    rw [count, write, if_neg (by omega), List.length_append, List.length_singleton]
    have := ih (n := n / 10) (by omega)
    rw [count] at this
    omega

theorem length_padded {width n : Nat} (hpos : 0 < width) (h : n < 10 ^ width) :
    (padded width n).length = width := by
  have := count_le hpos h
  rw [padded, List.length_append, List.length_replicate]
  rw [count] at *
  omega

/-! ## Characters -/

theorem isDigit_of_mem_padded {width n : Nat} {c : Char} (h : c ∈ padded width n) :
    c.isDigit = true := by
  rcases List.mem_append.1 h with h | h
  · rw [List.eq_of_mem_replicate h]
    decide
  · exact isDigit_of_mem_write h

/-- The characters of a number in plain notation: a digit, and then digits and points. -/
def Plain : List Char → Prop
  | [] => False
  | c :: rest => c.isDigit = true ∧ ∀ d ∈ rest, d.isDigit = true ∨ d = '.'

theorem Plain.mem {text : List Char} (h : Plain text) {c : Char} (hc : c ∈ text) :
    c.isDigit = true ∨ c = '.' := by
  cases text with
  | nil => exact h.elim
  | cons d rest =>
    rcases List.mem_cons.1 hc with rfl | hc
    · exact .inl h.1
    · exact h.2 c hc

theorem plain_append {digits rest : List Char} (hne : digits ≠ [])
    (hdigits : ∀ c ∈ digits, c.isDigit = true)
    (hrest : ∀ c ∈ rest, c.isDigit = true ∨ c = '.') : Plain (digits ++ rest) := by
  cases digits with
  | nil => exact absurd rfl hne
  | cons c digits =>
    refine ⟨hdigits c List.mem_cons_self, fun d hd ↦ ?_⟩
    rcases List.mem_append.1 hd with hd | hd
    · exact .inl (hdigits d (List.mem_cons_of_mem c hd))
    · exact hrest d hd

theorem plain_write (n : Nat) : Plain (write n) := by
  have := plain_append (write_ne_nil n) (fun c ↦ isDigit_of_mem_write) (show ∀ c ∈ [], _ by simp)
  rwa [List.append_nil] at this

theorem plain_fixed (m scale : Nat) : Plain (fixed m scale) := by
  rw [fixed]
  split
  · exact plain_write m
  · refine plain_append (write_ne_nil _) (fun c ↦ isDigit_of_mem_write) fun c hc ↦ ?_
    rcases List.mem_cons.1 hc with rfl | hc
    · exact .inr rfl
    · exact .inl (isDigit_of_mem_padded hc)

end Formula.Digits
