import Formula.Proofs.Ascii
import Formula.Text.Digits
import Mathlib.Data.List.Forall2
import Mathlib.Data.Nat.Digits.Defs

/-!
# Positional notation

`Digits.Spells base text n` says that a text is the number `n` in a base: each character has a value
as a digit, and the values are the digits of `n`.  It is said without the readers of numbers, which
go through a text from left to right and have a way of their own to tell the value of a digit.

`Digits.spells_iff` is for such a reader of any base: where it tells digits as `Digits.digit?` does,
its result is the number that is spelled.  The two readers do, `Digits.digit?_ten` and
`Digits.digit?_sixteen`.
-/

set_option autoImplicit false

namespace Formula.Digits

/-- The digits, from the least; a base has as many of them as its size. -/
def alphabet : List Char :=
  ['0', '1', '2', '3', '4', '5', '6', '7', '8', '9', 'a', 'b', 'c', 'd', 'e', 'f']

/-- The value of a character as a digit of a base; the case of a letter does not count. -/
def digit? (base : Nat) (c : Char) : Option Nat := (alphabet.take base).idxOf? c.toLower

/-- A text stands for a number in a base, with the digit of the units at the end.  It has at least
one digit, and any number of zeros may stand in front. -/
def Spells (base : Nat) (text : List Char) (n : Nat) : Prop :=
  text ≠ [] ∧ ∃ values : List Nat,
    List.Forall₂ (fun c value ↦ digit? base c = some value) text values ∧
      Nat.ofDigits base values.reverse = n

/-! ## Single digits -/

/-- All digits are ASCII characters. -/
theorem digit?_eq_none (base : Nat) {c : Char} (h : 128 ≤ c.toNat) : digit? base c = none := by
  have hlower : c.toLower = c := by
    have hletter : ¬ (c.val ≥ 'A'.val ∧ c.val ≤ 'Z'.val) := by
      rintro ⟨-, hle⟩
      have hbound : c.toNat ≤ 90 := UInt32.le_iff_toNat_le.1 hle
      omega
    exact dif_neg hletter
  have hascii : ∀ d ∈ alphabet, d.toNat < 128 := by simp [alphabet]
  rw [digit?, hlower, List.idxOf?_eq_none_iff]
  intro hmem
  have := hascii c (List.mem_of_mem_take hmem)
  omega

/-- A description of the digits of a base that is right for the ASCII characters, and has no others,
is right. -/
theorem digit?_eq {base : Nat} {isDigit : Char → Bool} {value : Char → Nat}
    (h : ∀ n : Fin 128, digit? base (Char.ofNat n) =
      if isDigit (Char.ofNat n) then some (value (Char.ofNat n)) else none)
    (hascii : ∀ c, isDigit c = true → c.toNat < 128) (c : Char) :
    digit? base c = if isDigit c then some (value c) else none := by
  by_cases hc : c.toNat < 128
  · exact forall_ascii (p := fun c ↦ digit? base c = if isDigit c then some (value c) else none)
      h hc
  · rw [digit?_eq_none base (Nat.le_of_not_lt hc), if_neg (mt (hascii c) hc)]

theorem digit?_ten (c : Char) :
    digit? 10 c = if c.isDigit then some (digitValue c) else none := by
  refine digit?_eq (by decide) (fun c hc ↦ ?_) c
  exact forall_isDigit (p := fun c ↦ c.toNat < 128) (by decide) hc

theorem digit?_sixteen (c : Char) :
    digit? 16 c = if isHexDigit c then some (hexDigitValue c) else none := by
  refine digit?_eq (by decide) (fun c hc ↦ ?_) c
  simp only [isHexDigit, Bool.or_eq_true, Bool.and_eq_true, decide_eq_true_eq] at hc
  rcases hc with (hc | ⟨-, hc⟩) | ⟨-, hc⟩
  · exact forall_isDigit (p := fun c ↦ c.toNat < 128) (by decide) hc
  · exact Nat.lt_of_le_of_lt (UInt32.le_iff_toNat_le.1 hc) (by decide)
  · exact Nat.lt_of_le_of_lt (UInt32.le_iff_toNat_le.1 hc) (by decide)

/-! ## Texts -/

section Reader

variable {base : Nat} {isDigit : Char → Bool} {value : Char → Nat}

/-- The values of digits are the ones that a reader gives them. -/
theorem forall₂_digit?_iff (h : ∀ c, digit? base c = if isDigit c then some (value c) else none)
    {text : List Char} : ∀ values,
      List.Forall₂ (fun c k ↦ digit? base c = some k) text values ↔
        (∀ c ∈ text, isDigit c = true) ∧ values = text.map value := by
  have hdigit : ∀ c k, digit? base c = some k ↔ isDigit c = true ∧ k = value c := by
    intro c k
    rw [h c]
    split <;> simp [*, eq_comm]
  induction text with
  | nil => simp
  | cons c text ih =>
    intro values
    rw [List.forall₂_cons_left_iff, List.forall_mem_cons, List.map_cons]
    constructor
    · rintro ⟨k, values, hk, hvalues, rfl⟩
      obtain ⟨hc, rfl⟩ := (hdigit c k).1 hk
      obtain ⟨htext, rfl⟩ := (ih values).1 hvalues
      exact ⟨⟨hc, htext⟩, rfl⟩
    · rintro ⟨⟨hc, htext⟩, rfl⟩
      exact ⟨_, _, (hdigit c _).2 ⟨hc, rfl⟩, (ih _).2 ⟨htext, rfl⟩, rfl⟩

/-- **Reading from left to right is positional notation.** -/
theorem spells_iff (h : ∀ c, digit? base c = if isDigit c then some (value c) else none)
    {text : List Char} {n : Nat} :
    Spells base text n ↔ text ≠ [] ∧ (∀ c ∈ text, isDigit c = true) ∧
      text.foldl (fun n c ↦ base * n + value c) 0 = n := by
  have hsum : Nat.ofDigits base (text.map value).reverse =
      text.foldl (fun n c ↦ base * n + value c) 0 := by
    simp only [Nat.ofDigits_eq_foldr, List.foldr_reverse, List.foldl_map, Nat.cast_id,
      Nat.add_comm]
  refine and_congr_right fun _ ↦ ⟨?_, ?_⟩
  · rintro ⟨values, hspelled, rfl⟩
    obtain ⟨hall, rfl⟩ := (forall₂_digit?_iff h values).1 hspelled
    exact ⟨hall, hsum.symm⟩
  · rintro ⟨hall, rfl⟩
    exact ⟨_, (forall₂_digit?_iff h _).2 ⟨hall, rfl⟩, hsum⟩

end Reader

theorem spells_ten_iff {text : List Char} {n : Nat} :
    Spells 10 text n ↔ text ≠ [] ∧ (∀ c ∈ text, c.isDigit = true) ∧ value text = n :=
  spells_iff digit?_ten

theorem spells_sixteen_iff {text : List Char} {n : Nat} :
    Spells 16 text n ↔ text ≠ [] ∧ (∀ c ∈ text, isHexDigit c = true) ∧ hexValue text = n :=
  spells_iff digit?_sixteen

end Formula.Digits
