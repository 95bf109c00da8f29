import Formula.Expr.Stream

/-!
# The count of the nesting

The nesting in use is a machine word.  A descent adds to it without a check, so the word can wrap
around, while giving back stops at zero.  Here is what spending a cost of the parser and giving it
back comes to then.

If no cost wraps around, the word is as it was: giving back undoes spending.  The other words are
the `groupCost` last ones.  Their descents succeed if they wrap around, since little is in use then,
and what is given back afterwards is more than that, so that nothing is left in use.
`Nesting.Returns` has both cases.  It is what a construct that succeeds may do to the word.

A word that wraps around allows for some descents more than one that is zero.  `Nesting.room` counts
what may be spent from a word on, and the descents behind each other never spend more.
-/

set_option autoImplicit false

namespace Formula.Nesting

variable {before between after depth : UInt64} {cost taken : Nat}

/-- The nesting in use is as before, or it is none and it was so much that a cost wraps around. -/
def Returns (before after : UInt64) : Prop :=
  after = before ∨ UInt64.size ≤ before.toNat + groupCost ∧ after = 0

/-- The most that may still be spent, where a cost that wraps around begins again at zero. -/
def room (depth : UInt64) : Nat :=
  if depth.toNat ≤ maxDepth then maxDepth - depth.toNat
  else if UInt64.size ≤ depth.toNat + groupCost then maxDepth + (UInt64.size - depth.toNat)
  else 0

theorem toNat_spend : (depth + .ofNat cost).toNat = (depth.toNat + cost) % UInt64.size := by
  simp [UInt64.toNat_add, UInt64.size]

theorem toNat_spend_of_lt (h : depth.toNat + cost < UInt64.size) :
    (depth + .ofNat cost).toNat = depth.toNat + cost := by
  rw [toNat_spend, Nat.mod_eq_of_lt h]

theorem toNat_giveBack : (UInt64.ofNat (depth.toNat - cost)).toNat = depth.toNat - cost := by
  have := depth.toNat_lt
  rw [UInt64.toNat_ofNat', Nat.mod_eq_of_lt (by omega)]

/-- Giving nothing back does nothing. -/
theorem giveBack_zero : UInt64.ofNat (depth.toNat - 0) = depth := by
  rw [Nat.sub_zero, UInt64.ofNat_toNat]

/-! ## What may be spent -/

/-- A descent spends from what may be spent. -/
theorem room_spend (hcost : cost ≤ groupCost) (hfits : (depth + .ofNat cost).toNat ≤ maxDepth) :
    room (depth + .ofNat cost) + cost = room depth := by
  have := depth.toNat_lt
  simp only [toNat_spend, room, groupCost, maxDepth, UInt64.size] at *
  grind

theorem room_le (depth : UInt64) : room depth ≤ maxDepth + groupCost := by
  have := depth.toNat_lt
  simp only [room, groupCost, maxDepth, UInt64.size]
  grind

/-- As long as no cost wraps around, the word and what may be spent are the whole budget. -/
theorem toNat_add_room (h : depth.toNat + groupCost < UInt64.size) :
    depth.toNat + room depth ≤ maxDepth ∨ room depth = 0 := by
  simp only [room, groupCost, maxDepth, UInt64.size] at *
  grind

/-! ## What a construct leaves in use -/

namespace Returns

theorem refl (depth : UInt64) : Returns depth depth := .inl rfl

/-- Where no cost wraps around, there is one way to return. -/
theorem eq (h : Returns before after) (hlt : before.toNat + groupCost < UInt64.size) :
    after = before := by
  rcases h with h | ⟨hle, -⟩
  · exact h
  · omega

theorem trans (h : Returns before between) (h' : Returns between after) : Returns before after := by
  rcases h with rfl | ⟨hle, rfl⟩
  · exact h'
  · exact .inr ⟨hle, h'.eq (by decide)⟩

theorem room_le (h : Returns before after) : room after ≤ room before := by
  rcases h with rfl | ⟨hle, rfl⟩
  · exact Nat.le_refl _
  · have := before.toNat_lt
    have hzero : room 0 = maxDepth := by decide
    simp only [hzero]
    simp only [room, groupCost, maxDepth, UInt64.size] at *
    grind

/-- What a descent has spent is given back. -/
theorem giveBack (hcost : cost ≤ groupCost) (hfits : (before + .ofNat cost).toNat ≤ maxDepth)
    (h : Returns (before + .ofNat cost) after) : Returns before (.ofNat (after.toNat - cost)) := by
  obtain rfl := h.eq (by simp only [groupCost, maxDepth, UInt64.size] at *; omega)
  by_cases hlt : before.toNat + cost < UInt64.size
  · refine .inl (UInt64.toNat_inj.1 ?_)
    rw [toNat_giveBack, toNat_spend_of_lt hlt, Nat.add_sub_cancel]
  · have := before.toNat_lt
    refine .inr ⟨by omega, UInt64.toNat_inj.1 ?_⟩
    rw [toNat_giveBack, toNat_spend, UInt64.toNat_zero]
    simp only [UInt64.size] at *
    omega

/-- One turn more of a chain is given back with the others. -/
theorem turn (htaken : taken = 0 ∨ before.toNat ≤ maxDepth)
    (h : Returns (.ofNat ((before + .ofNat 1).toNat - (taken + 1))) after) :
    Returns (.ofNat (before.toNat - taken)) after := by
  by_cases hlt : before.toNat + 1 < UInt64.size
  · rwa [toNat_spend_of_lt hlt, Nat.add_sub_add_right] at h
  -- The word was the last one.  Nothing is in use behind the turn, and nothing when it is over.
  · have hlast : taken = 0 := by
      simp only [maxDepth, UInt64.size] at *
      omega
    have hnone : UInt64.ofNat ((before + .ofNat 1).toNat - (taken + 1)) = 0 := by
      have := before.toNat_lt
      refine UInt64.toNat_inj.1 ?_
      rw [toNat_giveBack, toNat_spend, UInt64.toNat_zero]
      simp only [UInt64.size] at *
      omega
    rw [hnone] at h
    rw [hlast, giveBack_zero]
    exact .inr ⟨by simp only [groupCost]; omega, h.eq (by decide)⟩

end Returns

end Formula.Nesting

namespace Formula.TokenStream

/-! ## What a call leaves in use -/

variable {s s' : TokenStream} {cost : Nat}

theorem depth_of_peek {reply : Except ParseError (Option PlacedToken)}
    (h : s.peek = (reply, s')) : s'.depth = s.depth := by
  obtain ⟨_ | ⟨t | e, rest⟩, stop, depth⟩ := s <;> cases h <;> rfl

theorem depth_of_next {reply : Except ParseError (Option PlacedToken)}
    (h : s.next = (reply, s')) : s'.depth = s.depth := by
  obtain ⟨_ | ⟨t | e, rest⟩, stop, depth⟩ := s <;> cases h <;> rfl

theorem depth_of_nextRequired {reply : Except ParseError PlacedToken}
    (h : s.nextRequired = (reply, s')) : s'.depth = s.depth := by
  obtain ⟨_ | ⟨t | e, rest⟩, stop, depth⟩ := s <;> cases h <;> rfl

theorem depth_of_expectSymbol {symbol : String} {reply : Except ParseError Unit}
    (h : s.expectSymbol symbol = (reply, s')) : s'.depth = s.depth := by
  obtain ⟨_ | ⟨t | e, rest⟩, stop, depth⟩ := s
  · cases h
    rfl
  · simp only [expectSymbol, nextRequired, next] at h
    split at h <;> cases h <;> rfl
  · cases h
    rfl

theorem depth_of_nextOperatorIf {accepts : BinaryOp → Bool}
    {reply : Except ParseError (Option BinaryOp)} (h : s.nextOperatorIf accepts = (reply, s')) :
    s'.depth = s.depth := by
  obtain ⟨_ | ⟨t | e, rest⟩, stop, depth⟩ := s
  · cases h
    rfl
  · simp only [nextOperatorIf, peek, next] at h
    cases hop : t.token.operator?.filter accepts <;> simp only [hop] at h <;> cases h <;> rfl
  · cases h
    rfl

/-- A descent beyond the budget fails. -/
theorem exists_descend_eq_error (h : ¬ (s.spend cost).depth.toNat ≤ maxDepth) :
    ∃ e s', s.descend cost = (.error e, s') := by
  rw [descend, if_neg h]
  rcases (s.spend cost).peek with ⟨_ | _ | _, _⟩ <;> exact ⟨_, _, rfl⟩

/-- A descent that succeeds is within the budget, and does nothing but spend. -/
theorem descend_eq_ok {u : Unit} (h : s.descend cost = (.ok u, s')) :
    (s.spend cost).depth.toNat ≤ maxDepth ∧ s' = s.spend cost := by
  by_cases hfits : (s.spend cost).depth.toNat ≤ maxDepth
  · rw [descend, if_pos hfits] at h
    cases h
    exact ⟨hfits, rfl⟩
  · obtain ⟨e, s'', hfailed⟩ := exists_descend_eq_error hfits
    rw [hfailed] at h
    cases h

end Formula.TokenStream
