/-
This file says what a token comes to when the memo stands in front of it, in terms of what is
remembered and what the token does. If what is remembered of all tokens of some names is what each
of them does, then the memo makes no difference to them, and it does not matter when it was told.
-/

import Rulebook.Proofs.Parse.Clearance
import Rulebook.Proofs.Rearrangement.Kinship

namespace Rulebook.Parse

open Match (Tree)

variable {environment : Environment} {first : Grammar} {before after state : State}
  {rule : Rule} {token : TokenRule} {parent : Nat}

/-! ### What is remembered -/

/-- What is remembered under a key. -/
def State.recollection (state : State) (key : MemoKey) : Option (Option Nat) :=
  state.memo.bind (·.entries[key]?)

/-- Whatever is remembered is what some token does that goes by the names of the key. -/
def State.Informed (environment : Environment) (first : Grammar) (state : State) : Prop :=
  ∀ key outcome, state.recollection key = some outcome → Recalls environment first key outcome

theorem Sound.informed (sound : Sound environment first state) :
    state.Informed environment first := by
  intro key outcome found
  obtain ⟨memo, present, found⟩ := Option.bind_eq_some_iff.mp found
  exact sound.memo memo present key outcome found

/-- The key under which a token is remembered at the end of a node. -/
def State.tokenKey (state : State) (rule : Rule) (parent : Nat) : MemoKey :=
  ⟨rule.grammar, state.tree.stop parent, rule.name⟩

/-- What a token comes to at the end of a node: what is remembered of it, or else what it does. -/
def State.answer (state : State) (source : Source) (rule : Rule) (token : TokenRule)
    (parent : Nat) : Option Nat :=
  (state.recollection (state.tokenKey rule parent)).getD
    (token.matchAt? source (state.tree.stop parent))

/-- A token comes to what it does, if all tokens of its names do the same. -/
theorem State.Informed.answer_eq (informed : state.Informed environment first)
    (goesBy : GoesBy environment first rule.grammar rule.name token)
    (unanimous : state.memo.isSome = true → Unanimous environment first rule.grammar rule.name) :
    state.answer environment.source rule token parent =
      token.matchAt? environment.source (state.tree.stop parent) := by
  rw [answer]
  cases found : state.recollection (state.tokenKey rule parent) with
  | none => rfl
  | some outcome =>
    obtain ⟨memo, present, -⟩ := Option.bind_eq_some_iff.mp found
    exact ((unanimous (Option.isSome_of_eq_some present)).recalled goesBy
      (informed _ _ found)).symm

/-- What a token comes to is what some token of its names does. -/
theorem State.Informed.recalls_answer (informed : state.Informed environment first)
    (known : Known environment first rule) (isToken : rule.token? = some token) :
    Recalls environment first (state.tokenKey rule parent)
      (state.answer environment.source rule token parent) := by
  rw [answer]
  cases found : state.recollection (state.tokenKey rule parent) with
  | none => exact ⟨rule, token, known, isToken, rfl, rfl, rfl⟩
  | some outcome => exact informed _ _ found

/-! ### Tokens behind the memo -/

/-- A token has been tried as the next child of a node. It came to what was remembered of it or to
what it does, and if tokens are remembered, then this is remembered now. -/
structure TokenAnswered (source : Source) (rule : Rule) (token : TokenRule) (parent : Nat)
    (before after : State) : Prop where
  tree_eq : after.tree =
    treeAfter before.tree parent rule (before.answer source rule token parent)
  grammar_eq : after.grammar = before.grammar
  stack_eq : after.stack = before.stack
  memoizing_eq : after.memo.isSome = before.memo.isSome
  recollection_eq : ∀ key, after.recollection key =
    if before.memo.isSome = true ∧ key = before.tokenKey rule parent then
      some (before.answer source rule token parent) else before.recollection key

/-- A token that is tried comes to what it does. -/
theorem outcome_tokenOutcome (environment : Environment) (rule : Rule) (token : TokenRule)
    (parent : Nat) (state : State) :
    tokenOutcome environment rule token parent state =
      .done (token.matchAt? environment.source (state.tree.stop parent)).isSome
        { state with
          tree := treeAfter state.tree parent rule
            (token.matchAt? environment.source (state.tree.stop parent)) } := by
  rw [tokenOutcome]
  cases token.matchAt? environment.source (state.tree.stop parent) <;> rfl

theorem State.recollection_of_memo {memo : Memo} (present : state.memo = some memo)
    (key : MemoKey) : state.recollection key = memo.entries[key]? := by
  rw [State.recollection, present, Option.bind_some]

/-- What a token took is what its node has taken, if it has one. -/
theorem lastConsumed_treeAfter {tree : Tree} (rising : tree.Rising) (inside : parent < tree.size)
    (outcome : Option Nat) :
    (if outcome.isSome = true then lastConsumed (treeAfter tree parent rule outcome) parent
      else none) = outcome := by
  cases outcome with
  | none => rfl
  | some length => exact lastConsumed_matchToken rising inside (.rule rule) length

/-- An outcome that is known already is as good as remembered again. -/
theorem tokenAnswered_recalled (source : Source) (token : TokenRule) {memo : Memo}
    (present : state.memo = some memo) {outcome : Option Nat}
    (known : state.recollection (state.tokenKey rule parent) = some outcome) :
    state.answer source rule token parent = outcome ∧
      TokenAnswered source rule token parent state { state with
        memo := some (memo.lookup (state.tokenKey rule parent)).2
        tree := treeAfter state.tree parent rule outcome } := by
  have answer_eq : state.answer source rule token parent = outcome := by
    rw [State.answer, known, Option.getD_some]
  refine ⟨answer_eq, by rw [answer_eq], rfl, rfl, by rw [present]; rfl, fun other => ?_⟩
  show (memo.lookup (state.tokenKey rule parent)).2.entries[other]? = _
  rw [Memo.lookup_entries, ← State.recollection_of_memo present, answer_eq]
  split
  · rename_i same
    rw [same.2, known]
  · rfl

/-- An outcome that is not known yet is remembered. -/
theorem tokenAnswered_remembered (source : Source) (token : TokenRule) {memo : Memo}
    (present : state.memo = some memo)
    (unknown : state.recollection (state.tokenKey rule parent) = none) {outcome : Option Nat}
    (outcome_eq : outcome = token.matchAt? source (state.tree.stop parent)) :
    state.answer source rule token parent = outcome ∧
      TokenAnswered source rule token parent state { state with
        memo := some ((memo.lookup (state.tokenKey rule parent)).2.store
          (state.tokenKey rule parent) outcome)
        tree := treeAfter state.tree parent rule outcome } := by
  have answer_eq : state.answer source rule token parent = outcome := by
    rw [State.answer, unknown, Option.getD_none, outcome_eq]
  refine ⟨answer_eq, by rw [answer_eq], rfl, rfl, by rw [present]; rfl, fun other => ?_⟩
  rw [answer_eq, State.recollection_of_memo present, present, Option.isSome_some]
  show ((memo.lookup _).2.store _ outcome).entries[other]? = _
  rw [Memo.store, Std.HashMap.getElem?_insert, Memo.lookup_entries]
  by_cases same : other = state.tokenKey rule parent
  · rw [if_pos (by rw [same, beq_self_eq_true]), if_pos ⟨rfl, same⟩]
  · rw [if_neg (by rw [beq_false_of_ne (Ne.symm same)]; exact Bool.false_ne_true),
      if_neg fun both => same both.2]

/-- The memo answers for a token, or the token is tried and remembered. -/
theorem tokenAnswered_attemptRemembering {attempt : Step Bool} {memo : Memo}
    (present : state.memo = some memo) (rising : state.tree.Rising)
    (inside : parent < state.tree.size)
    (outcome_eq : ∀ state : State, state.tree.Rising → parent < state.tree.size →
      (attempt state).outcome = tokenOutcome environment rule token parent state) :
    ∃ after, (attemptRemembering rule parent attempt state).outcome =
        .done (state.answer environment.source rule token parent).isSome after ∧
      TokenAnswered environment.source rule token parent state after := by
  have told : state.recollection (state.tokenKey rule parent) =
      (memo.lookup (state.tokenKey rule parent)).1 := by
    rw [State.recollection_of_memo present, Memo.lookup_fst]
  have key_eq : state.tokenKey rule parent =
      ⟨rule.grammar, state.tree.stop parent, rule.name⟩ := rfl
  rw [outcome_attemptRemembering present rule parent attempt key_eq]
  match known : (memo.lookup (state.tokenKey rule parent)).1 with
  | some (some length) =>
    obtain ⟨answer_eq, answered⟩ :=
      tokenAnswered_recalled environment.source token present (told.trans known)
    rw [answer_eq]
    exact ⟨_, rfl, answered⟩
  | some none =>
    obtain ⟨answer_eq, answered⟩ :=
      tokenAnswered_recalled environment.source token present (told.trans known)
    rw [answer_eq]
    exact ⟨_, rfl, answered⟩
  | none =>
    obtain ⟨answer_eq, answered⟩ :=
      tokenAnswered_remembered environment.source token present (told.trans known) rfl
    have tried := outcome_eq
      { state with memo := some (memo.lookup (state.tokenKey rule parent)).2 } rising inside
    rw [outcome_tokenOutcome] at tried
    dsimp only
    rw [(Step.bind_of_done _ tried).1, Step.outcome_read_bind]
    dsimp only
    rw [lastConsumed_treeAfter rising inside, answer_eq]
    exact ⟨_, rfl, answered⟩

/-- Trying a token comes to the same whether or not there is a memo, up to what is remembered. -/
theorem tokenAnswered_attemptMemoized (state : State) {attempt : Step Bool}
    (isToken : rule.token? = some token) (rising : state.tree.Rising)
    (inside : parent < state.tree.size)
    (outcome_eq : ∀ state : State, state.tree.Rising → parent < state.tree.size →
      (attempt state).outcome = tokenOutcome environment rule token parent state) :
    ∃ after, (attemptMemoized rule parent attempt state).outcome =
        .done (state.answer environment.source rule token parent).isSome after ∧
      TokenAnswered environment.source rule token parent state after := by
  rw [outcome_attemptMemoized, Rule.isToken_of_token? isToken, Bool.and_true]
  cases present : state.memo with
  | some memo =>
    rw [Option.isSome_some, if_pos rfl]
    exact tokenAnswered_attemptRemembering present rising inside outcome_eq
  | none =>
    have answer_eq : state.answer environment.source rule token parent =
        token.matchAt? environment.source (state.tree.stop parent) := by
      rw [State.answer, State.recollection, present]
      rfl
    rw [Option.isSome_none, if_neg Bool.false_ne_true, outcome_eq state rising inside,
      outcome_tokenOutcome, answer_eq]
    refine ⟨_, rfl, by rw [answer_eq], rfl, rfl, by rw [present], fun key => ?_⟩
    rw [present, if_neg fun both => Bool.false_ne_true both.1, State.recollection,
      State.recollection, present]

end Rulebook.Parse
