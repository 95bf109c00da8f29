/-!
# Digits

Numbers as digits in base ten and sixteen.  `Digits.value` reads decimal digits, `Digits.write`
writes them, and `value_write` says that reading undoes writing.  `Digits.fixed m s` is the number
`m / 10 ^ s` with exactly `s` places after the point.
-/

set_option autoImplicit false

-- Powers of natural numbers are those of the core library, whatever else is imported.
attribute [local instance(high)] instPowNat

namespace Formula.Digits

/-! ## Single digits -/

/-- The value of a decimal digit. -/
def digitValue (c : Char) : Nat := c.toNat - 48

/-- The decimal digit of a value below ten. -/
def digitChar (n : Nat) : Char := Char.ofNat (n + 48)

/-- Whether a character is a hexadecimal digit, in either case. -/
def isHexDigit (c : Char) : Bool :=
  c.isDigit || (decide ('a' ≤ c) && decide (c ≤ 'f')) || (decide ('A' ≤ c) && decide (c ≤ 'F'))

/-- The value of a hexadecimal digit, in either case. -/
def hexDigitValue (c : Char) : Nat :=
  if c.isDigit then c.toNat - 48 else if c ≤ 'F' then c.toNat - 55 else c.toNat - 87

theorem digitChar_isDigit {n : Nat} (h : n < 10) : (digitChar n).isDigit = true := by
  have : ∀ k : Fin 10, (digitChar k.val).isDigit = true := by decide
  exact this ⟨n, h⟩

theorem digitValue_digitChar {n : Nat} (h : n < 10) : digitValue (digitChar n) = n := by
  have : ∀ k : Fin 10, digitValue (digitChar k.val) = k.val := by decide
  exact this ⟨n, h⟩

/-! ## Reading -/

/-- The number that decimal digits stand for. -/
def value (digits : List Char) : Nat :=
  digits.foldl (fun n c ↦ 10 * n + digitValue c) 0

/-- The number that hexadecimal digits stand for. -/
def hexValue (digits : List Char) : Nat :=
  digits.foldl (fun n c ↦ 16 * n + hexDigitValue c) 0

theorem value_concat (digits : List Char) (c : Char) :
    value (digits ++ [c]) = 10 * value digits + digitValue c := by
  simp [value]

/-! ## Writing -/

/-- The decimal digits of a number, without leading zeros. -/
def write (n : Nat) : List Char :=
  if n < 10 then [digitChar n] else write (n / 10) ++ [digitChar (n % 10)]

/-- Reading the digits of a number gives the number. -/
theorem value_write (n : Nat) : value (write n) = n := by
  fun_induction write n with
  | case1 n h => simp [value, digitValue_digitChar h]
  | case2 n h ih =>
    rw [value_concat, ih, digitValue_digitChar (Nat.mod_lt _ (by decide))]
    omega

theorem isDigit_of_mem_write {n : Nat} {c : Char} (h : c ∈ write n) : c.isDigit = true := by
  fun_induction write n with
  | case1 n hn =>
    rw [List.mem_singleton] at h
    exact h ▸ digitChar_isDigit hn
  | case2 n hn ih =>
    rcases List.mem_append.1 h with h | h
    · exact ih h
    · rw [List.mem_singleton] at h
      exact h ▸ digitChar_isDigit (Nat.mod_lt _ (by decide))

theorem write_ne_nil (n : Nat) : write n ≠ [] := by
  rw [write]
  split <;> simp

/-- The number of decimal digits of a number. -/
def count (n : Nat) : Nat := (write n).length

/-- The digits of a number with as many zeros before them as make `width` characters. -/
def padded (width n : Nat) : List Char :=
  List.replicate (width - count n) '0' ++ write n

/-- The number `m / 10 ^ scale`, with exactly `scale` digits after the point and no point if there
are none. -/
def fixed (m scale : Nat) : List Char :=
  if scale = 0 then write m
  else write (m / 10 ^ scale) ++ '.' :: padded scale (m % 10 ^ scale)

end Formula.Digits
