import Formula.Proofs.Lexer
import Formula.Proofs.Parser.Completeness
import Mathlib.Data.Bool.Count

/-!
# What the budget bounds

The budget bounds the recursion of the parser, and so it would bound the height of the tree if every
operator were charged for on all paths through it.  It is not.  A chain parses its first operand
before it spends anything, an operand does not pay for the operators that follow it in its chain,
and a comparison by order is free.  What is paid for is a prefix operator, a cast, and the step to
a right operand: `Derives.count_true_le`.

The ten tiers nest without a group, so that the free operators of their chains add up.
`tallestTier` is how far: `Derives.length_path_le` says that no path is longer, and `Attains` that
some path is that long.  The bound of 256 on the height of a tree, which the budget is there for,
holds for a parse that begins with no more than 16 of the budget left, and for no other.

## What is here

* `Expr.paths` — the paths from the root to the leaves, with what is paid for on them.
* `tallestOperand`, `tallestTier`, `tallest` — the longest path that a budget allows.
* `Expr.ReadAt` — a whole text read by a parse that begins with some of the budget in use.
* `Expr.length_path_le_maxDepth_iff` — the exact condition for the bound.
-/

set_option autoImplicit false

namespace Formula

/-! ## Paths -/

/-- The paths from the root of a tree to its leaves.  A path has an entry for each operation on the
way: whether the parser, on its way to the operand where the path goes on, spends nesting on it. -/
def Expr.paths : Expr → List (List Bool)
  | const _ | var _ => [[]]
  | unary _ e | cast _ e => e.paths.map (true :: ·)
  | binary op l r => l.paths.map (false :: ·) ++ r.paths.map ((!op.isRelational) :: ·)

namespace Expr

variable {e l r : Expr} {path : List Bool}

@[simp] theorem mem_paths_const {v : Value} : path ∈ (const v).paths ↔ path = [] := by
  simp [paths]

@[simp] theorem mem_paths_var {i : Nat} : path ∈ (var i).paths ↔ path = [] := by
  simp [paths]

@[simp] theorem mem_paths_unary {op : UnaryOp} :
    path ∈ (unary op e).paths ↔ ∃ tail ∈ e.paths, true :: tail = path := by
  simp [paths]

@[simp] theorem mem_paths_cast {t : ValueType} :
    path ∈ (cast t e).paths ↔ ∃ tail ∈ e.paths, true :: tail = path := by
  simp [paths]

@[simp] theorem mem_paths_binary {op : BinaryOp} :
    path ∈ (binary op l r).paths ↔
      (∃ tail ∈ l.paths, false :: tail = path) ∨
        ∃ tail ∈ r.paths, (!op.isRelational) :: tail = path := by
  simp [paths]

end Expr

/-! ## What is paid for -/

/-- A chain needs one unit for each of its operators. -/
theorem Derives.count_le {lower count : Nat} {tokens : List Token} {e : Expr} {need : Nat}
    (h : Derives (.chain lower count) tokens e need) : count ≤ need := by
  cases h with
  | alone => exact Nat.zero_le _
  | more => omega

theorem BinaryOp.isRelational_of_mem {op : BinaryOp} {tier : Nat}
    (htier : tier = BinaryOp.relationalTier) (hop : op ∈ tierOperators tier) :
    op.isRelational = true := by
  rw [isRelational, mem_tierOperators_iff.1 hop, htier, beq_self_eq_true]

/-- **The budget bounds what is paid for on every path.** -/
theorem Derives.count_true_le {phrase : Phrase} {tokens : List Token} {e : Expr} {need : Nat}
    (h : Derives phrase tokens e need) : ∀ path ∈ e.paths, path.count true ≤ need := by
  induction h with
  | expression h ih => exact fun path hpath ↦ Nat.le_trans (ih path hpath) (Nat.le_add_left _ _)
  | chain htier h ih => exact ih
  | alone h ih => exact ih
  | more hop hl hr ihl ihr =>
    intro path hpath
    rcases Expr.mem_paths_binary.1 hpath with ⟨tail, htail, rfl⟩ | ⟨tail, htail, rfl⟩
    · have := ihl tail htail
      simp
      omega
    · have := ihr tail htail
      rw [List.count_cons]
      split <;> omega
  | operand htier h ih => exact ih
  | comparison htier hop hl hr ihl ihr =>
    intro path hpath
    rcases Expr.mem_paths_binary.1 hpath with ⟨tail, htail, rfl⟩ | ⟨tail, htail, rfl⟩
    · have := ihl tail htail
      simp
      omega
    · have := ihr tail htail
      rw [BinaryOp.isRelational_of_mem htier hop]
      simp
      omega
  | unary h ih => exact ih
  | operator h ih =>
    intro path hpath
    obtain ⟨tail, htail, rfl⟩ := Expr.mem_paths_unary.1 hpath
    have := ih tail htail
    simp
    omega
  | plus h ih => exact fun path hpath ↦ Nat.le_trans (ih path hpath) (Nat.le_add_left _ _)
  | base h ih => exact ih
  | cast hname h ih =>
    intro path hpath
    obtain ⟨tail, htail, rfl⟩ := Expr.mem_paths_cast.1 hpath
    have := ih tail htail
    simp
    omega
  | group hword h ih => exact ih
  | truth | number | string | null | var => simp

/-! ## The longest path -/

/-- The longest path in an operand that a budget allows.  With a budget of five or more it is in a
group, where nine chains use what the group leaves and a comparison comes for free; below that,
prefix operators do better. -/
def tallestOperand : Nat → Nat
  | budget + 5 => 9 * (budget + 1) + 1 + tallestOperand (budget + 1)
  | budget => budget

/-- The longest path in a phrase of a tier. -/
def tallestTier (budget : Nat) : Nat → Nat
  | 0 => tallestOperand budget
  | lower + 1 =>
    tallestTier budget lower + if lower + 1 = BinaryOp.relationalTier then 1 else budget

/-- The longest path in a phrase. -/
def tallest (budget : Nat) : Phrase → Nat
  | .expression => tallestTier (budget - groupCost) BinaryOp.loosestTier
  | .tier tier => tallestTier budget tier
  | .chain lower count => tallestTier budget lower + count
  | .unary | .base => tallestOperand budget

theorem tallestTier_loosest (budget : Nat) :
    tallestTier budget BinaryOp.loosestTier = 9 * budget + 1 + tallestOperand budget := by
  simp [tallestTier, BinaryOp.loosestTier, BinaryOp.relationalTier]
  omega

theorem tallestOperand_lt_succ (budget : Nat) :
    tallestOperand budget < tallestOperand (budget + 1) := by
  fun_induction tallestOperand budget with
  | case1 budget ih =>
    rw [tallestOperand]
    omega
  | case2 budget h =>
    match budget, h with
    | 0, _ | 1, _ | 2, _ | 3, _ | 4, _ => decide
    | budget + 5, h => exact absurd rfl (h budget)

theorem tallestOperand_mono {a b : Nat} (h : a ≤ b) : tallestOperand a ≤ tallestOperand b := by
  induction h with
  | refl => exact Nat.le_refl _
  | step _ ih => exact Nat.le_trans ih (Nat.le_of_lt (tallestOperand_lt_succ _))

theorem tallestTier_loosest_mono {a b : Nat} (h : a ≤ b) :
    tallestTier a BinaryOp.loosestTier ≤ tallestTier b BinaryOp.loosestTier := by
  have := tallestOperand_mono h
  rw [tallestTier_loosest, tallestTier_loosest]
  omega

/-- A group is one of the operands that its budget allows. -/
theorem tallest_expression_le {budget : Nat} (h : groupCost ≤ budget) :
    tallest budget .expression ≤ tallest budget .base := by
  rw [groupCost] at h
  obtain ⟨budget, rfl⟩ := Nat.exists_eq_add_of_le' h
  simp only [tallest, groupCost, Nat.add_sub_cancel]
  rw [tallestTier_loosest]
  cases budget with
  | zero => decide
  | succ budget => exact Nat.le_of_eq (by rw [tallestOperand])

theorem Derives.groupCost_le {tokens : List Token} {e : Expr} {need : Nat}
    (h : Derives .expression tokens e need) : groupCost ≤ need := by
  cases h
  exact Nat.le_add_right _ _

/-- **No path is longer than the budget allows.** -/
theorem Derives.length_path_le {phrase : Phrase} {tokens : List Token} {e : Expr} {need : Nat}
    (h : Derives phrase tokens e need) :
    ∀ budget, need ≤ budget → ∀ path ∈ e.paths, path.length ≤ tallest budget phrase := by
  induction h with
  | expression h ih => exact fun budget hneed ↦ ih (budget - groupCost) (by omega)
  | chain htier h ih =>
    intro budget hneed path hpath
    have hlength := ih budget hneed path hpath
    have hcount := h.count_le
    simp only [tallest, tallestTier, if_neg htier] at hlength ⊢
    omega
  | alone h ih => exact ih
  | more hop hl hr ihl ihr =>
    intro budget hneed path hpath
    rcases Expr.mem_paths_binary.1 hpath with ⟨tail, htail, rfl⟩ | ⟨tail, htail, rfl⟩
    · have := ihl budget (by omega) tail htail
      simp only [tallest, List.length_cons] at this ⊢
      omega
    · have := ihr budget (by omega) tail htail
      simp only [tallest, List.length_cons] at this ⊢
      omega
  | operand htier h ih =>
    exact fun budget hneed path hpath ↦
      Nat.le_trans (ih budget hneed path hpath) (Nat.le_add_right _ _)
  | comparison htier hop hl hr ihl ihr =>
    intro budget hneed path hpath
    simp only [tallest, tallestTier, if_pos htier] at ihl ihr ⊢
    rcases Expr.mem_paths_binary.1 hpath with ⟨tail, htail, rfl⟩ | ⟨tail, htail, rfl⟩
    · exact Nat.succ_le_succ (ihl budget (by omega) tail htail)
    · exact Nat.succ_le_succ (ihr budget (by omega) tail htail)
  | unary h ih => exact ih
  | operator h ih =>
    intro budget hneed path hpath
    obtain ⟨tail, htail, rfl⟩ := Expr.mem_paths_unary.1 hpath
    obtain ⟨budget, rfl⟩ := Nat.exists_eq_add_of_le' (Nat.le_trans (Nat.le_add_right 1 _) hneed)
    exact Nat.lt_of_le_of_lt (ih budget (by omega) tail htail) (tallestOperand_lt_succ budget)
  | plus h ih => exact fun budget hneed ↦ ih budget (by omega)
  | base h ih => exact ih
  | cast hname h ih =>
    intro budget hneed path hpath
    obtain ⟨tail, htail, rfl⟩ := Expr.mem_paths_cast.1 hpath
    obtain ⟨budget, rfl⟩ := Nat.exists_eq_add_of_le' (Nat.le_trans (Nat.le_add_right 1 _) hneed)
    exact Nat.lt_of_le_of_lt (ih budget (by omega) tail htail) (tallestOperand_lt_succ budget)
  | group hword h ih =>
    exact fun budget hneed path hpath ↦ Nat.le_trans (ih budget hneed path hpath)
      (tallest_expression_le (Nat.le_trans h.groupCost_le hneed))
  | truth | number | string | null | var => simp

/-! ## Paths that are as long -/

/-- The tokens that the longest trees are built of. -/
def plainTokens : List Token :=
  [.number "1", .symbol "-", .symbol "(", .symbol ")"] ++
    BinaryOp.all.map fun op ↦ .symbol op.symbol

theorem symbol_mem_plainTokens (op : BinaryOp) : .symbol op.symbol ∈ plainTokens :=
  List.mem_append_right _ (List.mem_map_of_mem (BinaryOp.mem_all op))

/-- Each of these tokens is read back in front of a blank. -/
theorem reads_of_mem_plainTokens {t : Token} (h : t ∈ plainTokens) (rest : List Char) :
    Lexer.Reads t.text.toList [t] (' ' :: rest) := by
  have hnumber : Lexer.Ends Lexer.continuesNumber (' ' :: rest) :=
    show Lexer.continuesNumber ' ' = false by decide
  have hsymbol : Lexer.Ends Lexer.continuesSymbol (' ' :: rest) :=
    show Lexer.continuesSymbol ' ' = false by decide
  rcases List.mem_append.1 h with h | h
  · simp only [List.mem_cons, List.not_mem_nil, or_false] at h
    rcases h with rfl | rfl | rfl | rfl
    · exact .number (by decide) (by simp) hnumber
    · exact .unaryOp .negate hsymbol
    · exact .bracket (by decide) _
    · exact .bracket (by decide) _
  · obtain ⟨op, -, rfl⟩ := List.mem_map.1 h
    exact .binaryOp op hsymbol

/-- Within a budget there is a phrase of plain tokens with a path of a given length. -/
def Attains (budget length : Nat) (phrase : Phrase) : Prop :=
  ∃ tokens e need, Derives phrase tokens e need ∧ need ≤ budget ∧
    (∃ path ∈ e.paths, path.length = length) ∧ ∀ t ∈ tokens, t ∈ plainTokens

theorem Derives.unaryOne : Derives .unary [.number "1"] (.const (.int32 1)) 0 :=
  .base (.number (by decide))

/-- The one token that is the right operand everywhere. -/
theorem Derives.one (tier : Nat) : Derives (.tier tier) [.number "1"] (.const (.int32 1)) 0 :=
  .tier_mono (.unary .unaryOne) (Nat.zero_le tier)

/-- An operator and its right operand, over and over. -/
def ones (op : BinaryOp) (count : Nat) : List Token :=
  (List.replicate count [.symbol op.symbol, .number "1"]).flatten

theorem ones_succ (op : BinaryOp) (count : Nat) :
    ones op (count + 1) = ones op count ++ [.symbol op.symbol, .number "1"] := by
  rw [ones, List.replicate_succ', List.flatten_append, List.flatten_singleton, ones]

theorem mem_plainTokens_of_mem_ones {op : BinaryOp} {count : Nat} {t : Token}
    (h : t ∈ ones op count) : t ∈ plainTokens := by
  obtain ⟨piece, hpiece, ht⟩ := List.mem_flatten.1 h
  rw [List.eq_of_mem_replicate hpiece] at ht
  simp only [List.mem_cons, List.not_mem_nil, or_false] at ht
  rcases ht with rfl | rfl
  · exact symbol_mem_plainTokens op
  · decide

theorem flatMap_ones (f : Token → List Char) (op : BinaryOp) (count : Nat) :
    (ones op count).flatMap f =
      (List.replicate count (f (.symbol op.symbol) ++ f (.number "1"))).flatten := by
  induction count with
  | zero => rfl
  | succ count ih =>
    rw [ones_succ, List.flatMap_append, ih, List.replicate_succ', List.flatten_append]
    simp

/-- A chain of any length on a first operand, which costs no more than either of them. -/
theorem Derives.ones {lower : Nat} {tokens : List Token} {e : Expr} {need : Nat}
    {path : List Bool} (h : Derives (.tier lower) tokens e need) (hpath : path ∈ e.paths)
    (op : BinaryOp) (hop : op ∈ tierOperators (lower + 1)) (count : Nat) :
    ∃ e' need', Derives (.chain lower count) (tokens ++ ones op count) e' need' ∧
      need' ≤ max need count ∧ ∃ path' ∈ e'.paths, path'.length = path.length + count := by
  induction count with
  | zero =>
    refine ⟨e, need, ?_, Nat.le_max_left _ _, path, hpath, rfl⟩
    simpa [Formula.ones] using .alone h
  | succ count ih =>
    obtain ⟨e', need', hderives, hneed, path', hpath', hlength⟩ := ih
    have hmore := Derives.more hop hderives (.one lower)
    rw [List.append_assoc, ← ones_succ] at hmore
    refine ⟨_, _, hmore, by omega, false :: path', ?_, ?_⟩
    · exact Expr.mem_paths_binary.2 (.inl ⟨path', hpath', rfl⟩)
    · rw [List.length_cons, hlength, Nat.add_assoc]

namespace Attains

variable {budget length lower : Nat}

/-- A chain of as many operators as the budget allows, on a first operand. -/
theorem chain {op : BinaryOp} (htier : lower + 1 ≠ BinaryOp.relationalTier)
    (hop : op ∈ tierOperators (lower + 1)) (h : Attains budget length (.tier lower)) :
    Attains budget (length + budget) (.tier (lower + 1)) := by
  obtain ⟨tokens, e, need, hderives, hneed, ⟨path, hpath, rfl⟩, hplain⟩ := h
  obtain ⟨e', need', hderives', hneed', hpath'⟩ := hderives.ones hpath op hop budget
  refine ⟨_, e', need', .chain htier hderives', by omega, hpath', fun t ht ↦ ?_⟩
  rcases List.mem_append.1 ht with ht | ht
  · exact hplain t ht
  · exact mem_plainTokens_of_mem_ones ht

/-- A comparison on a left operand. -/
theorem comparison (htier : lower + 1 = BinaryOp.relationalTier)
    (h : Attains budget length (.tier lower)) :
    Attains budget (length + 1) (.tier (lower + 1)) := by
  obtain ⟨tokens, e, need, hderives, hneed, ⟨path, hpath, rfl⟩, hplain⟩ := h
  have hop : .less ∈ tierOperators (lower + 1) := mem_tierOperators_iff.2 htier.symm
  refine ⟨_, _, _, .comparison htier hop hderives (.one lower), by omega, ?_, fun t ht ↦ ?_⟩
  · exact ⟨false :: path, Expr.mem_paths_binary.2 (.inl ⟨path, hpath, rfl⟩), rfl⟩
  · rcases List.mem_append.1 ht with ht | ht
    · exact hplain t ht
    · simp only [List.mem_cons, List.not_mem_nil, or_false] at ht
      rcases ht with rfl | rfl
      · exact symbol_mem_plainTokens .less
      · decide

/-- All tiers, on an operand. -/
theorem loosest (h : Attains budget (tallestOperand budget) .unary) :
    Attains budget (tallestTier budget BinaryOp.loosestTier) (.tier BinaryOp.loosestTier) := by
  obtain ⟨tokens, e, need, hderives, hrest⟩ := h
  have hzero : Attains budget (tallestTier budget 0) (.tier 0) :=
    ⟨tokens, e, need, .unary hderives, hrest⟩
  have hall : ∀ lower ≤ BinaryOp.loosestTier,
      Attains budget (tallestTier budget lower) (.tier lower) := by
    intro lower
    induction lower with
    | zero => exact fun _ ↦ hzero
    | succ lower ih =>
      intro hlower
      have hbelow := ih (Nat.le_of_lt hlower)
      rw [tallestTier]
      split
      · rename_i htier
        exact hbelow.comparison htier
      · rename_i htier
        have hne : ∀ lower < 10, tierOperators (lower + 1) ≠ [] := by decide
        obtain ⟨op, hop⟩ := List.exists_mem_of_ne_nil _ (hne lower hlower)
        exact hbelow.chain htier hop
  exact hall _ (Nat.le_refl _)

theorem expression (h : Attains budget length (.tier BinaryOp.loosestTier)) :
    Attains (budget + groupCost) length .expression := by
  obtain ⟨tokens, e, need, hderives, hneed, hrest⟩ := h
  exact ⟨tokens, e, _, .expression hderives, by omega, hrest⟩

/-- A group around an expression. -/
theorem group (h : Attains budget length .expression) : Attains budget length .unary := by
  obtain ⟨tokens, e, need, hderives, hneed, hpath, hplain⟩ := h
  have hword : ¬ StartsWithWord tokens := by
    rintro ⟨text, rest, rfl⟩
    have hmem := hplain _ List.mem_cons_self
    simp [plainTokens, Token.word, Token.number, Token.symbol] at hmem
  refine ⟨_, e, need, .base (.group hword hderives), hneed, hpath, fun t ht ↦ ?_⟩
  simp only [List.mem_cons, List.mem_append, List.not_mem_nil, or_false] at ht
  rcases ht with rfl | ht | rfl
  · decide
  · exact hplain t ht
  · decide

/-- Prefix operators on one token. -/
theorem prefixes (count : Nat) : Attains count count .unary := by
  induction count with
  | zero => exact ⟨_, _, 0, .unaryOne, Nat.le_refl _, by simp, by decide⟩
  | succ count ih =>
    obtain ⟨tokens, e, need, hderives, hneed, ⟨path, hpath, rfl⟩, hplain⟩ := ih
    have hnegate : Derives .unary _ (.unary .negate e) _ := .operator hderives
    refine ⟨_, _, _, hnegate, by omega, ?_, fun t ht ↦ ?_⟩
    · exact ⟨true :: path, Expr.mem_paths_unary.2 ⟨path, hpath, rfl⟩, rfl⟩
    · rcases List.mem_cons.1 ht with rfl | ht
      · decide
      · exact hplain t ht

/-- The longest operand that a budget allows. -/
theorem operand (budget : Nat) : Attains budget (tallestOperand budget) .unary := by
  fun_induction tallestOperand budget with
  | case1 budget ih =>
    rw [← tallestTier_loosest]
    exact (Attains.loosest ih).expression.group
  | case2 budget => exact .prefixes budget

end Attains

/-! ## Whole texts -/

namespace Expr

/-- A whole text is read as an expression by a parse that begins with `depth` of the nesting in
use. -/
def ReadAt (depth : UInt64) (source : String) (e : Expr) : Prop :=
  ∃ s', { TokenStream.ofSource source with depth }.parse .expression = (.ok e, s') ∧ s'.items = []

variable {depth : UInt64} {source : String} {e : Expr} {path : List Bool}

/-- What is in use within the expression is in the budget, and it is not read otherwise.  That sum
wraps around, and then less is in use within the expression than before it. -/
theorem readAt_iff_done :
    ReadAt depth source e ↔
      (depth + .ofNat groupCost).toNat ≤ maxDepth ∧
        Parser.parseTier BinaryOp.loosestTier (.ofSource source) (depth + .ofNat groupCost).toNat
          (Lexer.items source) = .done e [] := by
  let s : TokenStream := { TokenStream.ofSource source with depth }
  have hparse : s.parse .expression = TokenStream.andThen (s.descend groupCost) fun _ s ↦
      (s.parse (.tier BinaryOp.loosestTier)).map id (.ascend groupCost) := s.parseExpression_val
  rw [ReadAt, hparse]
  by_cases hfits : (s.spend groupCost).depth.toNat ≤ maxDepth
  · have hroom : (s.spend groupCost).depth.toNat + groupCost < UInt64.size := by
      simp only [groupCost, maxDepth, UInt64.size] at hfits ⊢
      omega
    have htier : (s.spend groupCost).parse (.tier BinaryOp.loosestTier) =
        (s.spend groupCost).comingTo (Parser.parseTier BinaryOp.loosestTier (.ofSource source)
          (depth + .ofNat groupCost).toNat (Lexer.items source)) := TokenStream.parse_eq _ hroom
    have hdescend : s.descend groupCost = (.ok (), s.spend groupCost) := if_pos hfits
    simp only [hdescend, TokenStream.andThen, htier]
    rcases Parser.parseTier BinaryOp.loosestTier _ _ _ with ⟨e', rest⟩ | ⟨error, rest, used⟩
    · constructor
      · rintro ⟨s', ⟨⟩, rfl⟩
        exact ⟨hfits, rfl⟩
      · rintro ⟨-, ⟨⟩⟩
        exact ⟨_, rfl, rfl⟩
    · constructor
      · rintro ⟨s', ⟨⟩, -⟩
      · rintro ⟨-, ⟨⟩⟩
  · obtain ⟨error, s', hdescend⟩ := TokenStream.exists_descend_eq_error hfits
    rw [hdescend]
    constructor
    · rintro ⟨_, ⟨⟩, -⟩
    · exact fun h ↦ absurd h.1 hfits

theorem readAt_iff_derives :
    ReadAt depth source e ↔
      ∃ tokens need, Takes (Lexer.items source) tokens [] ∧
        Derives (.tier BinaryOp.loosestTier) tokens e need ∧
        (depth + .ofNat groupCost).toNat + need ≤ maxDepth := by
  rw [readAt_iff_done]
  constructor
  · rintro ⟨hfits, hdone⟩
    have hsound := (Parser.sound (.ofSource source) (depth + .ofNat groupCost).toNat).2.1
      BinaryOp.loosestTier (Lexer.items source)
    rw [hdone] at hsound
    obtain ⟨tokens, need, htakes, hderives, hneed⟩ := hsound
    rw [Bounds.budget_ofSource] at hneed
    exact ⟨tokens, need, htakes, hderives, by omega⟩
  · rintro ⟨tokens, need, htakes, hderives, hneed⟩
    refine ⟨by omega, Parser.complete (.ofSource source) hderives _ _ [] htakes ?_ trivial⟩
    rw [Bounds.budget_ofSource]
    omega

/-- To read a whole text is to read it with no nesting in use. -/
theorem readAt_zero_iff : ReadAt 0 source e ↔ Expr.parse source = .ok e := by
  rw [readAt_iff_derives, parse_eq_ok_iff_derives]
  have hcost : ((0 : UInt64) + .ofNat groupCost).toNat = groupCost := by decide
  rw [hcost]
  constructor
  · rintro ⟨tokens, need, htakes, hderives, hneed⟩
    exact ⟨tokens, _, htakes, .expression hderives, hneed⟩
  · rintro ⟨tokens, need, htakes, hderives, hneed⟩
    cases hderives with
    | expression hderives => exact ⟨tokens, _, htakes, hderives, hneed⟩

/-- What is paid for on a path is in the budget, next to what is in use within the expression. -/
theorem count_true_add_le (h : ReadAt depth source e) (hpath : path ∈ e.paths) :
    (depth + .ofNat groupCost).toNat + path.count true ≤ maxDepth := by
  obtain ⟨tokens, need, -, hderives, hneed⟩ := readAt_iff_derives.1 h
  have := hderives.count_true_le path hpath
  omega

/-- No path is longer than what is left of the budget allows. -/
theorem length_path_le (h : ReadAt depth source e) (hpath : path ∈ e.paths) :
    path.length ≤
      tallestTier (maxDepth - (depth + .ofNat groupCost).toNat) BinaryOp.loosestTier := by
  obtain ⟨tokens, need, -, hderives, hneed⟩ := readAt_iff_derives.1 h
  exact hderives.length_path_le _ (by omega) path hpath

/-- Plain tokens with blanks between them are read as what they derive. -/
theorem readAt_of_plain {tokens : List Token} {need : Nat}
    (hplain : ∀ t ∈ tokens, t ∈ plainTokens)
    (hderives : Derives (.tier BinaryOp.loosestTier) tokens e need)
    (hneed : (depth + .ofNat groupCost).toNat + need ≤ maxDepth) :
    ReadAt depth (String.ofList (tokens.flatMap fun t ↦ t.text.toList ++ [' '])) e := by
  refine readAt_iff_derives.2 ⟨tokens, need, Lexer.Reads.takes ?_, hderives, hneed⟩
  rw [String.toList_ofList]
  exact .spaced (fun t ht rest ↦ reads_of_mem_plainTokens (hplain t ht) rest) []

/-- No smaller bound would do. -/
theorem exists_length_path_eq (h : (depth + .ofNat groupCost).toNat ≤ maxDepth) :
    ∃ source e path, ReadAt depth source e ∧ path ∈ e.paths ∧ path.length =
      tallestTier (maxDepth - (depth + .ofNat groupCost).toNat) BinaryOp.loosestTier := by
  obtain ⟨tokens, e, need, hderives, hneed, ⟨path, hpath, hlength⟩, hplain⟩ :=
    Attains.loosest (.operand (maxDepth - (depth + .ofNat groupCost).toNat))
  exact ⟨_, e, path, readAt_of_plain hplain hderives (by omega), hpath, hlength⟩

-- The longest path that a whole source text can have.
example : tallestTier (maxDepth - ((0 : UInt64) + .ofNat groupCost).toNat) BinaryOp.loosestTier =
    72643 := by decide

/-- **The height of a tree is bounded by the whole budget exactly where at most 16 of it are
left**, and no cost wraps around.  A parse that begins with less nesting in use, or with so much
that it wraps around, reads texts of which the tree has a longer path.  On each path the budget does
bound what is paid for, and the path exceeds it only if it has more free operators than that leaves
room for. -/
theorem length_path_le_maxDepth_iff (depth : UInt64) :
    ((∀ source e, ReadAt depth source e → ∀ path ∈ e.paths, path.length ≤ maxDepth) ↔
      240 ≤ depth.toNat ∧ depth.toNat + groupCost < UInt64.size) ∧
    ∀ source e, ReadAt depth source e → ∀ path ∈ e.paths,
      (depth + .ofNat groupCost).toNat + path.count true ≤ maxDepth ∧
        (path.length ≤ maxDepth ↔ path.count false ≤ maxDepth - path.count true) := by
  have hwithin : (240 ≤ depth.toNat ∧ depth.toNat + groupCost < UInt64.size) ↔
      244 ≤ (depth + .ofNat groupCost).toNat := by
    have := depth.toNat_lt
    rw [Nesting.toNat_spend]
    simp only [groupCost, UInt64.size]
    omega
  rw [hwithin]
  refine ⟨⟨fun h ↦ ?_, fun hdepth source e h path hpath ↦ ?_⟩, fun source e h path hpath ↦ ?_⟩
  · refine Nat.not_lt.1 fun hdepth ↦ ?_
    have hroom : (depth + .ofNat groupCost).toNat ≤ maxDepth := by
      simp only [maxDepth]
      omega
    obtain ⟨source, e, path, hread, hpath, hlength⟩ := exists_length_path_eq hroom
    have hmono : tallestTier 13 BinaryOp.loosestTier ≤ path.length :=
      hlength ▸ tallestTier_loosest_mono (by simp only [maxDepth]; omega)
    have htallest : tallestTier 13 BinaryOp.loosestTier = 257 := by decide
    have := h source e hread path hpath
    rw [maxDepth] at this
    omega
  · have hmono : path.length ≤ tallestTier 12 BinaryOp.loosestTier :=
      Nat.le_trans (length_path_le h hpath)
        (tallestTier_loosest_mono (by simp only [maxDepth]; omega))
    exact Nat.le_trans hmono (by decide)
  · have hpaid := count_true_add_le h hpath
    have hlength := List.count_false_add_count_true path
    exact ⟨hpaid, by omega⟩

/-- A chain of 129 sums whose first operand is a chain of 128 products. -/
theorem exists_length_path_gt :
    ∃ e, Expr.parse (String.ofList (['1', ' '] ++
        (List.replicate 128 ['*', ' ', '1', ' ']).flatten ++
        (List.replicate 129 ['+', ' ', '1', ' ']).flatten)) = .ok e ∧
      ∃ path ∈ e.paths, maxDepth < path.length := by
  have hone : [] ∈ (const (.int32 1)).paths := by simp
  obtain ⟨product, need, hproduct, hneed, path, hpath, hlength⟩ :=
    (Derives.one 0).ones hone .multiply (by decide) 128
  obtain ⟨sum, need', hsum, hneed', path', hpath', hlength'⟩ :=
    (Derives.chain (by decide) hproduct).ones hpath .add (by decide) 129
  have hderives : Derives (.tier BinaryOp.loosestTier) _ _ _ :=
    .tier_mono (.chain (by decide) hsum) (by decide)
  have hplain : ∀ t ∈ [.number "1"] ++ ones .multiply 128 ++ ones .add 129, t ∈ plainTokens := by
    intro t ht
    rcases List.mem_append.1 ht with ht | ht
    · rcases List.mem_append.1 ht with ht | ht
      · rw [List.mem_singleton.1 ht]
        decide
      · exact mem_plainTokens_of_mem_ones ht
    · exact mem_plainTokens_of_mem_ones ht
  have hcost : ((0 : UInt64) + .ofNat groupCost).toNat = 4 := by decide
  have hread := readAt_zero_iff.1 (readAt_of_plain hplain hderives (by
    rw [hcost, maxDepth]
    omega))
  rw [List.flatMap_append, List.flatMap_append, flatMap_ones, flatMap_ones] at hread
  refine ⟨sum, hread, path', hpath', ?_⟩
  rw [hlength', hlength]
  decide

end Expr

end Formula
