/-!
# Tables of code points

A character class is a list of ranges of code points in ascending order.  `inRanges` looks a code
point up and stops at the first range above it; `inRanges_eq_true_iff` says that on an ascending
table this loses nothing.  `byteLength` is the size of a text in UTF-8, which is the unit of every
position in a source text.
-/

set_option autoImplicit false

namespace Formula.Text

/-! ## Looking a code point up -/

/-- Whether a code point lies in one of the ranges, both ends included. -/
def inRanges : List (Nat × Nat) → Nat → Bool
  | [], _ => false
  | (low, high) :: rest, n =>
    if n < low then false else if n ≤ high then true else inRanges rest n

/-- On a table whose ranges ascend, a code point is found exactly if some range holds it. -/
theorem inRanges_eq_true_iff {table : List (Nat × Nat)} {n : Nat}
    (ascending : table.Pairwise fun r s ↦ r.1 ≤ s.1) :
    inRanges table n = true ↔ ∃ r ∈ table, r.1 ≤ n ∧ n ≤ r.2 := by
  induction table with
  | nil => simp [inRanges]
  | cons r rest ih =>
    obtain ⟨low, high⟩ := r
    obtain ⟨hfirst, hrest⟩ := List.pairwise_cons.1 ascending
    rw [inRanges]
    split
    · rename_i hlt
      refine ⟨by simp, ?_⟩
      rintro ⟨s, hs, hlo, _⟩
      rcases List.mem_cons.1 hs with rfl | hs
      · exact absurd hlo (Nat.not_le.2 hlt)
      · exact absurd (Nat.le_trans (hfirst s hs) hlo) (Nat.not_le.2 hlt)
    · split
      · rename_i hlt hle
        exact ⟨fun _ ↦ ⟨(low, high), by simp, Nat.not_lt.1 hlt, hle⟩, fun _ ↦ rfl⟩
      · rename_i hlt hle
        rw [ih hrest]
        simp [hle]

/-! ## Sizes -/

/-- The number of bytes a text takes in UTF-8. -/
def byteLength : List Char → Nat
  | [] => 0
  | c :: rest => c.utf8Size + byteLength rest

@[simp] theorem byteLength_append (a b : List Char) :
    byteLength (a ++ b) = byteLength a + byteLength b := by
  induction a with
  | nil => simp [byteLength]
  | cons c rest ih => simp [byteLength, ih, Nat.add_assoc]

end Formula.Text
