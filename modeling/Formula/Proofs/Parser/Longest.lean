import Formula.Proofs.Parser.Conservation
import Formula.Proofs.Parser.FirstOffence

/-!
# Every level takes its longest phrase

The levels of the grammar are a whole expression, the ten tiers, and the operands with and without
prefix operators.  A parse at any of them takes a phrase of the level, if it succeeds, and there is
none that is longer.

That it takes a phrase is soundness, `Parser.sound_parseLevel`.  It holds even if so much is in use
that a cost wraps around, since with a budget that is large enough the same phrase is taken.  That
there is no longer one has little to do with how a level is parsed.  Such a phrase would begin with
the tokens taken and the one behind them, and no phrase of the level does,
`Parser.not_viable_of_done`: one token behind its phrase is all that a level sees.  Hence the
comparisons by order need no case of their own, though they stop at a second operator while the
tiers around them go on.

What remains on a stream may hold an error.  A phrase cannot reach across it, and so there are
only the tokens in front of it to look at: `Items.leadingTokens`.
-/

set_option autoImplicit false

namespace Formula

/-! ## The tokens in front of an error -/

/-- The tokens that some items begin with, up to the first error. -/
def Items.leadingTokens : List Item → List Token
  | .token t :: rest => t.token :: leadingTokens rest
  | _ => []

namespace Takes

variable {items rest : List Item} {tokens : List Token}

/-- Tokens that are taken are the first of the leading ones. -/
theorem leadingTokens_eq (h : Takes items tokens rest) :
    Items.leadingTokens items = tokens ++ Items.leadingTokens rest := by
  induction h with
  | nil => rfl
  | cons t _ ih => rw [Items.leadingTokens, ih, List.cons_append]

/-- The token behind those that are taken is the next one among the leading tokens. -/
theorem exists_next {t : Token} {more : List Token} (h : Takes items tokens rest)
    (hlonger : tokens ++ t :: more <+: Items.leadingTokens items) :
    ∃ position rest', rest = .token { token := t, position } :: rest' := by
  rw [h.leadingTokens_eq, List.prefix_append_right_inj] at hlonger
  rcases rest with _ | ⟨⟨t', position⟩ | e, rest'⟩
  · simp [Items.leadingTokens] at hlonger
  · obtain ⟨rfl, -⟩ := List.cons_prefix_cons.1 hlonger
    exact ⟨position, rest', rfl⟩
  · simp [Items.leadingTokens] at hlonger

end Takes

/-! ## One level -/

namespace Parser

variable {bounds : Bounds} {depth : Nat} {items rest : List Item}
  {tokens longer : List Token} {e : Expr}

/-- Beyond what a level takes there is no longer phrase of it. -/
theorem not_derives_of_longer (level : Level)
    (hdone : parseLevel level bounds depth items = .done e rest) (htakes : Takes items tokens rest)
    (hlonger : longer <+: Items.leadingTokens items) (hlength : tokens.length < longer.length) :
    ¬ ∃ e' need, Derives level.phrase longer e' need := by
  rintro ⟨e', need, hderives⟩
  have htokens : tokens <+: Items.leadingTokens items := ⟨_, htakes.leadingTokens_eq.symm⟩
  obtain ⟨more, rfl⟩ := List.prefix_of_prefix_length_le htokens hlonger hlength.le
  cases more with
  | nil => simp at hlength
  | cons t more =>
    obtain ⟨position, rest', rfl⟩ := htakes.exists_next hlonger
    refine not_viable_of_done level hdone htakes ⟨more, e', need, ?_⟩
    simpa using hderives

end Parser

/-! ## Streams -/

namespace Lookahead

/-- **Every level takes exactly its longest phrase.**  If a parse at a level succeeds, whatever the
stream, then the tokens that the stream still had up to the first error are those of a phrase of the
level, for the tree that is returned, and those that it has left; the stream is left right behind
that phrase.  No phrase of the level is made of more of these tokens, whatever nesting it needs. -/
theorem parse_longest (more : Nat) (level : Parser.Level) (s s' : Lookahead) (e : Expr)
    (h : s.parse more level = some (.ok e, s')) :
    ∃ tokens need,
      Items.leadingTokens s.pending = tokens ++ Items.leadingTokens s'.pending ∧
      Derives level.phrase tokens e need ∧
      Takes s.pending tokens s'.pending ∧
      ∀ longer, longer <+: Items.leadingTokens s.pending → tokens.length < longer.length →
        ¬ ∃ e' need', Derives level.phrase longer e' need' := by
  obtain ⟨answer, after, hparse, hview⟩ := s.exists_parse more level
  rw [h] at hparse
  cases answer with
  | error error => cases hparse
  | ok e =>
    cases hparse
    have hdone : Parser.parseLevel level ⟨s.stop, Nesting.room s.depth⟩ 0 s.pending =
        .done e s'.pending := TokenStream.done_of_parse hview
    have hsound := Parser.sound_parseLevel level ⟨s.stop, Nesting.room s.depth⟩ 0 s.pending
    rw [hdone] at hsound
    obtain ⟨tokens, need, htakes, hderives, -⟩ := hsound
    exact ⟨tokens, need, htakes.leadingTokens_eq, hderives, htakes,
      fun longer ↦ Parser.not_derives_of_longer level hdone htakes⟩

/-- A second comparison by order is left, and the two are no phrase of their tier; the string behind
them, which is not closed, is out of reach. -/
theorem parse_longest_comparison :
    let s : Lookahead :=
      { cursor := { position := 0, text := ['1', '<', '2', '<', '3', '\x22'] }, peeked := none,
        stop := 6, depth := 0, cursor_at_end := by rintro ⟨⟩ }
    ∃ s', s.parse 0 (.tier BinaryOp.relationalTier) =
        some (.ok (.binary .less (.const (.int32 1)) (.const (.int32 2))), s') ∧
      Items.leadingTokens s'.pending = [.symbol "<", .number "3"] ∧
      ¬ ∃ e need, Derives (.tier BinaryOp.relationalTier)
        [.number "1", .symbol "<", .number "2", .symbol "<", .number "3"] e need := by
  intro s
  let placed (position : Nat) (token : Token) : Item := .token { token, position }
  have hpending : s.pending = [placed 0 (.number "1"), placed 1 (.symbol "<"),
      placed 2 (.number "2"), placed 3 (.symbol "<"), placed 4 (.number "3"),
      .error (.unterminatedString 5)] :=
    (Lexer.calls_itemsFrom 0 _).unique
      (.item rfl (.item rfl (.item rfl (.item rfl (.item rfl (.item rfl (.finish rfl)))))))
  have hparsed : s.view.parse (.tier BinaryOp.relationalTier) =
      (.ok (.binary .less (.const (.int32 1)) (.const (.int32 2))),
        { items := [placed 3 (.symbol "<"), placed 4 (.number "3"),
            .error (.unterminatedString 5)], stop := 6, depth := 0 }) := by
    rw [view, hpending]
    cbv
  obtain ⟨answer, s', hparse, hview⟩ := s.exists_parse 0 (.tier BinaryOp.relationalTier)
  rw [hparsed] at hview
  obtain ⟨rfl, hafter⟩ := Prod.mk.inj hview
  obtain ⟨tokens, need, htokens, -, -, hlongest⟩ := parse_longest 0 _ s s' _ hparse
  have hrest : Items.leadingTokens s'.pending = [.symbol "<", .number "3"] :=
    congrArg (Items.leadingTokens ∘ TokenStream.items) hafter.symm
  rw [hpending] at htokens hlongest
  have hlength : 5 = tokens.length + 2 := by
    have hcounted := congrArg List.length htokens
    rw [List.length_append, hrest] at hcounted
    exact hcounted
  exact ⟨s', hparse, hrest, hlongest _ ⟨[], rfl⟩ (by omega : tokens.length < 5)⟩

end Lookahead

end Formula
