/-
This file compares a parse with one that has no registry, no memo and one grammar only. The
states of the second are those of the first with the rules of that grammar in the tree and
without anything remembered; so the second run of a step is known once the first is.

What the memo answers on the first side is what a token of the grammar on the second side does.
So tokens, and the whitespace that is skipped by trying them, come to the same on both sides.
-/

import Rulebook.Proofs.Inlining.Counterpart
import Rulebook.Proofs.Parse.Attempts
import Rulebook.Proofs.Tree.Outline

namespace Rulebook.Parse

open Match (Origin Tree)

variable {Value Result : Type} {environment : Environment} {first merged : Grammar}

/-! ### States and outcomes -/

/-- The same state under another grammar, with the rules of that grammar in the tree and with
nothing remembered. -/
def State.recast (merged : Grammar) (state : State) : State :=
  { state with grammar := merged, tree := state.tree.relabel merged.counterpart, memo := none }

/-- The same environment without published grammars and without a memo. -/
def Environment.plain (environment : Environment) : Environment :=
  { environment with
    registry := {}
    options := { environment.options with memoizeTokens := false } }

/-- An outcome is the other one under another grammar, and is as promised. -/
structure Outcome.Recasts (merged : Grammar) (ensures : Value → State → Prop)
    (outcome other : Outcome Value) : Prop where
  other_eq : other = outcome.mapState (State.recast merged)
  returns : ∀ value after, outcome = .done value after → ensures value after

namespace Outcome.Recasts

variable {between ensures weaker : Value → State → Prop} {left right : State}

theorem done {value : Value} {after : State} (holds : ensures value after) :
    Recasts merged ensures (.done value after) (.done value (after.recast merged)) where
  other_eq := rfl
  returns _ _ same := by
    cases same
    exact holds

theorem exhausted : Recasts merged ensures .exhausted .exhausted where
  other_eq := rfl
  returns _ _ absurd := by cases absurd

variable {outcome other : Outcome Value}

theorem imp (recasts : Recasts merged ensures outcome other)
    (implies : ∀ value after, ensures value after → weaker value after) :
    Recasts merged weaker outcome other where
  other_eq := recasts.other_eq
  returns value after ended := implies value after (recasts.returns value after ended)

/-- What the first run ensures by itself may be added. -/
theorem and {run : Run Value} {always : Moment → Prop} {excused : Prop}
    (recasts : Recasts merged ensures run.outcome other)
    (meets : run.Meets always excused weaker) :
    Recasts merged (fun value after => weaker value after ∧ ensures value after) run.outcome
      other where
  other_eq := recasts.other_eq
  returns value after ended :=
    ⟨meets.returns value after ended, recasts.returns value after ended⟩

theorem bind {first first' : Step Value} {second second' : Value → Step Result}
    {ensures : Result → State → Prop}
    (recasts : Recasts merged between (first left).outcome (first' right).outcome)
    (rest : ∀ value next, between value next →
      Recasts merged ensures (second value next).outcome
        (second' value (next.recast merged)).outcome) :
    Recasts merged ensures ((first >>= second) left).outcome
      ((first' >>= second') right).outcome := by
  have other_eq := recasts.other_eq
  cases ended : (first left).outcome with
  | done value next =>
    rw [ended] at other_eq
    rw [(Step.bind_of_done second ended).1, (Step.bind_of_done second' other_eq).1]
    exact rest value next (recasts.returns value next ended)
  | aborted error next =>
    rw [ended] at other_eq
    rw [(Step.bind_of_aborted second ended).1, (Step.bind_of_aborted second' other_eq).1]
    exact ⟨rfl, fun _ _ absurd => by cases absurd⟩
  | exhausted =>
    rw [ended] at other_eq
    rw [(Step.bind_of_exhausted second ended).1, (Step.bind_of_exhausted second' other_eq).1]
    exact .exhausted

/-- A change at the end that is the same under both grammars. -/
theorem mapState (recasts : Recasts merged between outcome other) {update update' : State → State}
    (commutes : ∀ state, update' (state.recast merged) = (update state).recast merged)
    (implies : ∀ value state, between value state → ensures value (update state)) :
    Recasts merged ensures (outcome.mapState update) (other.mapState update') where
  other_eq := by
    rw [recasts.other_eq]
    cases outcome with
    | done value state => exact congrArg _ (commutes state)
    | aborted error state => exact congrArg _ (commutes state)
    | exhausted => rfl
  returns value last mapped := by
    obtain ⟨next, ended, rfl⟩ := Outcome.mapState_eq_done.mp mapped
    exact implies value next (recasts.returns value next ended)

/-- A change that is not seen under the other grammar. -/
theorem mapState_unseen (recasts : Recasts merged between outcome other)
    {update : State → State}
    (unseen : ∀ state, (update state).recast merged = state.recast merged)
    (implies : ∀ value state, between value state → ensures value (update state)) :
    Recasts merged ensures (outcome.mapState update) other where
  other_eq := by
    rw [recasts.other_eq]
    cases outcome with
    | done value state => exact congrArg (Outcome.done value) (unseen state).symm
    | aborted error state => exact congrArg (Outcome.aborted error) (unseen state).symm
    | exhausted => rfl
  returns value last mapped := by
    obtain ⟨next, ended, rfl⟩ := Outcome.mapState_eq_done.mp mapped
    exact implies value next (recasts.returns value next ended)

end Outcome.Recasts

/-- Giving a value back makes no difference. -/
theorem outcome_bind_return {first : Step Value} {second : Value → Step Value} {state : State}
    (same : ∀ value next, (second value next).outcome = .done value next) :
    ((first >>= second) state).outcome = (first state).outcome := by
  cases ended : (first state).outcome with
  | done value next => rw [(Step.bind_of_done second ended).1, same]
  | aborted error next => rw [(Step.bind_of_aborted second ended).1]
  | exhausted => rw [(Step.bind_of_exhausted second ended).1]

section

variable {ensures : Value → State → Prop} {state : State} {update update' : State → State}

theorem recasts_change {ensures : Unit → State → Prop}
    (commutes : update' (state.recast merged) = (update state).recast merged)
    (holds : ensures () (update state)) :
    Outcome.Recasts merged ensures (Step.change update state).outcome
      (Step.change update' (state.recast merged)).outcome :=
  ⟨congrArg _ commutes, fun _ _ ended => by cases ended; exact holds⟩

theorem recasts_change_bind {second second' : Unit → Step Value}
    (commutes : update' (state.recast merged) = (update state).recast merged)
    (rest : Outcome.Recasts merged ensures (second () (update state)).outcome
      (second' () ((update state).recast merged)).outcome) :
    Outcome.Recasts merged ensures ((Step.change update >>= second) state).outcome
      ((Step.change update' >>= second') (state.recast merged)).outcome := by
  rw [Step.outcome_change_bind, Step.outcome_change_bind, commutes]
  exact rest

theorem recasts_read_bind {View : Type} {view view' : State → View}
    {second second' : View → Step Value} (same : view' (state.recast merged) = view state)
    (rest : Outcome.Recasts merged ensures (second (view state) state).outcome
      (second' (view state) (state.recast merged)).outcome) :
    Outcome.Recasts merged ensures ((Step.read view >>= second) state).outcome
      ((Step.read view' >>= second') (state.recast merged)).outcome := by
  rw [Step.outcome_read_bind, Step.outcome_read_bind, same]
  exact rest

theorem stop_recast (state : State) (node : Nat) :
    (state.recast merged).tree.stop node = state.tree.stop node :=
  Tree.stop_relabel node

theorem recast_attach (state : State) (parent : Nat) (origin : Origin) :
    ({ state with tree := state.tree.attach parent origin } : State).recast merged =
      { state.recast merged with
        tree := (state.recast merged).tree.attach parent (origin.relabel merged.counterpart) } := by
  rw [State.recast, Tree.relabel_attach]
  rfl

theorem recast_matchToken (state : State) (node length : Nat) :
    ({ state with tree := state.tree.matchToken node length } : State).recast merged =
      { state.recast merged with tree := (state.recast merged).tree.matchToken node length } := by
  rw [State.recast, Tree.relabel_matchToken]
  rfl

theorem recast_discardLast (state : State) (parent : Nat) :
    ({ state with tree := state.tree.discardLast parent } : State).recast merged =
      { state.recast merged with tree := (state.recast merged).tree.discardLast parent } := by
  rw [State.recast, Tree.relabel_discardLast]
  rfl

theorem recasts_abort (state : State) (cause : FailureCause) :
    Outcome.Recasts merged ensures (abort environment cause state).outcome
      (abort environment.plain cause (state.recast merged)).outcome := by
  have abortion_eq : (state.recast merged).abortion environment.plain cause =
      state.abortion environment cause := by
    rw [State.abortion, State.abortion, stop_recast]
    rfl
  refine ⟨?_, fun _ _ absurd => by cases absurd⟩
  show Outcome.aborted ((state.recast merged).abortion environment.plain cause) _ = _
  rw [abortion_eq]
  rfl

end

/-! ### Tokens -/

/-- What is remembered under the name of a rule is what the token of this name in a grammar
does. -/
def Truthful (environment : Environment) (merged : Grammar) (memo : Option Memo) : Prop :=
  ∀ known, memo = some known → ∀ (key : MemoKey) outcome, known.entries[key]? = some outcome →
    ∀ rule token, merged.rule? key.rule = some rule → rule.token? = some token →
      token.matchAt? environment.source key.offset = outcome

variable {rule other : Rule} {token : TokenRule} {parent : Nat} {state : State} {memo : Memo}

theorem Rule.token?_of_like (like : rule.kind.Like other.kind)
    (isToken : rule.token? = some token) : ∃ token', other.token? = some token' ∧
      ∀ source offset, token'.matchAt? source offset = token.matchAt? source offset := by
  rw [Rule.token?] at isToken ⊢
  generalize rule.kind = left, other.kind = right at like isToken
  cases like with
  | token matchAt?_eq =>
    cases isToken
    exact ⟨_, rfl, matchAt?_eq⟩
  | _ => cases isToken

/-- The token that stands for another one does the same. -/
theorem token?_counterpart (standsFor : merged.StandsFor rule)
    (isToken : rule.token? = some token) :
    ∃ token', merged.rule? rule.name = some (merged.counterpart rule) ∧
      (merged.counterpart rule).token? = some token' ∧
        ∀ source offset, token'.matchAt? source offset = token.matchAt? source offset := by
  obtain ⟨other, found, like⟩ := standsFor
  obtain ⟨token', isToken', same⟩ := Rule.token?_of_like like isToken
  rw [Grammar.counterpart_of_rule? found]
  exact ⟨token', found, isToken', same⟩

/-- A question to the memo leaves what is remembered as it is. -/
theorem Truthful.consult (truthful : Truthful environment merged (some memo)) (key : MemoKey) :
    Truthful environment merged (some (memo.lookup key).2) := by
  intro known same asked outcome found
  rw [← Option.some.inj same, Memo.lookup_entries] at found
  exact truthful memo rfl asked outcome found

/-- What a token does may be remembered. -/
theorem Truthful.store (truthful : Truthful environment merged (some memo))
    (standsFor : merged.StandsFor rule) (isToken : rule.token? = some token) (grammar : String)
    (offset : Nat) : Truthful environment merged
      (some (memo.store ⟨grammar, offset, rule.name⟩
        (token.matchAt? environment.source offset))) := by
  intro known same asked outcome found
  rw [← Option.some.inj same, Memo.store, Std.HashMap.getElem?_insert] at found
  split at found
  · rename_i key_eq
    obtain ⟨token', found', isToken', same⟩ := token?_counterpart standsFor isToken
    rw [← eq_of_beq key_eq, ← Option.some.inj found]
    intro rule token other isToken
    rw [found', Option.some.injEq] at other
    rw [← other, isToken', Option.some.injEq] at isToken
    rw [← isToken, same]
  · exact truthful memo rfl asked outcome found

/-- Whether the memo answers for a token or not, the token does what it does. -/
theorem outcome_attemptMemoized_of_truthful (truthful : Truthful environment merged state.memo)
    (standsFor : merged.StandsFor rule) (isToken : rule.token? = some token)
    (rising : state.tree.Rising) (inside : parent < state.tree.size) {attempt : Step Bool}
    (outcome_eq : ∀ state : State, state.tree.Rising → parent < state.tree.size →
      (attempt state).outcome = tokenOutcome environment rule token parent state) :
    ∃ memo, Truthful environment merged memo ∧ memo.isSome = state.memo.isSome ∧
      (attemptMemoized rule parent attempt state).outcome =
        tokenOutcome environment rule token parent { state with memo } := by
  rw [outcome_attemptMemoized, Rule.isToken_of_token? isToken, Bool.and_true]
  cases present : state.memo with
  | none =>
    refine ⟨state.memo, truthful, by rw [present], ?_⟩
    exact outcome_eq state rising inside
  | some memo =>
    let key : MemoKey := ⟨rule.grammar, state.tree.stop parent, rule.name⟩
    rw [present] at truthful
    rw [Option.isSome_some, if_pos rfl,
      outcome_attemptRemembering present rule parent attempt rfl]
    cases answer : (memo.lookup key).1 with
    | some outcome =>
      obtain ⟨token', found, isToken', same⟩ := token?_counterpart standsFor isToken
      rw [Memo.lookup_fst] at answer
      have told := truthful memo rfl key outcome answer _ token' found isToken'
      rw [same] at told
      refine ⟨_, truthful.consult key, rfl, ?_⟩
      rw [tokenOutcome, told]
      cases outcome <;> rfl
    | none =>
      refine ⟨_, (truthful.consult key).store standsFor isToken rule.grammar
        (state.tree.stop parent), rfl, ?_⟩
      have tried := outcome_eq { state with memo := some (memo.lookup key).2 } rising inside
      rw [tokenOutcome] at tried ⊢
      dsimp only at tried ⊢
      cases answered : token.matchAt? environment.source (state.tree.stop parent) with
      | none =>
        rw [answered] at tried
        rw [(Step.bind_of_done _ tried).1]
        rfl
      | some length =>
        rw [answered] at tried
        rw [(Step.bind_of_done _ tried).1, Step.outcome_read_bind]
        dsimp only
        rw [if_pos rfl, lastConsumed_matchToken rising inside]
        rfl

/-- A token comes to the same with the rules of another grammar. -/
theorem tokenOutcome_recast {token' : TokenRule}
    (same : ∀ source offset, token'.matchAt? source offset = token.matchAt? source offset)
    (state : State) :
    tokenOutcome environment.plain (merged.counterpart rule) token' parent
      (state.recast merged) =
      (tokenOutcome environment rule token parent state).mapState (State.recast merged) := by
  have source_eq : environment.plain.source = environment.source := rfl
  rw [tokenOutcome, tokenOutcome, same, stop_recast, source_eq]
  cases token.matchAt? environment.source (state.tree.stop parent) with
  | none => rfl
  | some length =>
    simp only [Outcome.mapState, State.recast, Tree.relabel_matchToken, Tree.relabel_attach,
      Tree.size_relabel]
    rfl

theorem rising_recast (rising : state.tree.Rising) : (state.recast merged).tree.Rising := by
  intro id above found
  rw [State.recast, Tree.node_relabel] at found
  exact rising id above found

theorem outcome_attemptMemoized_recast (rule : Rule) (parent : Nat) (attempt : Step Bool)
    (state : State) :
    (attemptMemoized rule parent attempt (state.recast merged)).outcome =
      (attempt (state.recast merged)).outcome := by
  rw [outcome_attemptMemoized]
  rfl

/-! ### Whitespace -/

/-- The first of some tokens that takes input at an offset, and what it takes. -/
def firstBlank? (source : Source) (offset : Nat) : List Rule → Option (Rule × Nat)
  | [] => none
  | rule :: rest =>
    match rule.token?.bind (·.matchAt? source offset) with
    | some (length + 1) => some (rule, length + 1)
    | _ => firstBlank? source offset rest

/-- What it comes to that one of some whitespace tokens is skipped. -/
def blankOutcome (environment : Environment) (tokens : List Rule) (parent : Nat)
    (state : State) : Outcome Bool :=
  match firstBlank? environment.source (state.tree.stop parent) tokens with
  | none => .done false state
  | some (rule, length) => .done true
      { state with
        tree := ((state.tree.attach parent (.rule rule)).matchToken state.tree.size
          length).skipLast parent }

/-- No whitespace of a grammar is left at an offset, or none is skipped. -/
def Rested (environment : Environment) (grammar : Grammar) (offset : Nat) : Prop :=
  grammar.whitespaceDisabled = false →
    firstBlank? environment.source offset grammar.whitespaceTokens = none

theorem mem_of_firstBlank? {source : Source} {offset length : Nat} {tokens : List Rule}
    (found : firstBlank? source offset tokens = some (rule, length)) : rule ∈ tokens := by
  induction tokens with
  | nil => cases found
  | cons head rest inductionHypothesis =>
    rw [firstBlank?] at found
    split at found
    · cases found
      exact List.mem_cons_self
    · exact List.mem_cons_of_mem _ (inductionHypothesis found)

/-- A token that takes nothing at a node that was attached for it leaves no trace. -/
theorem discardLast_matchToken_zero {tree : Tree} (rising : tree.Rising)
    (inside : parent < tree.size) (origin : Origin) :
    ((tree.attach parent origin).matchToken tree.size 0).discardLast parent = tree :=
  (Tree.grown_matchToken (Tree.rising_attach rising inside)
    (by rw [Tree.size_attach]; exact Nat.lt_succ_self _) 0).discardLast_eq rising inside

theorem stop_attach_matchToken {tree : Tree} (rising : tree.Rising) (inside : parent < tree.size)
    (origin : Origin) (length : Nat) :
    ((tree.attach parent origin).matchToken tree.size length).stop parent =
      tree.stop parent + length := by
  have attached : tree.size < (tree.attach parent origin).size := by
    rw [Tree.size_attach]
    exact Nat.lt_succ_self _
  rw [Tree.stop_matchToken (Tree.rising_attach rising inside) attached,
    Tree.lineage_attach_new rising inside,
    if_pos (List.mem_cons_of_mem _ (Tree.mem_lineage_self _ _)), Tree.stop_attach inside]

/-- The first token that takes input is skipped; the others leave no trace but in the memo. -/
theorem outcome_skipOne {tokens : List Rule}
    (standsFor : ∀ rule ∈ tokens, merged.StandsFor rule)
    (truthful : Truthful environment merged state.memo) (rising : state.tree.Rising)
    (inside : parent < state.tree.size) :
    ∃ memo, Truthful environment merged memo ∧ memo.isSome = state.memo.isSome ∧
      (skipOne environment parent tokens state).outcome =
        blankOutcome environment tokens parent { state with memo } := by
  induction tokens generalizing state with
  | nil => exact ⟨state.memo, truthful, rfl, rfl⟩
  | cons rule rest inductionHypothesis =>
    have rest_standsFor := fun rule member => standsFor rule (List.mem_cons_of_mem _ member)
    rw [skipOne, Step.stop, Step.outcome_read_bind]
    cases isToken : rule.token? with
    | none =>
      have untried : (attemptBlank environment parent rule state).outcome =
          .done false state := by
        rw [attemptBlank, isToken]
        rfl
      obtain ⟨memo, told, same, ended⟩ :=
        inductionHypothesis rest_standsFor truthful rising inside
      refine ⟨memo, told, same, ?_⟩
      rw [(Step.bind_of_done _ untried).1, blankOutcome, firstBlank?, isToken]
      exact ended
    | some token =>
      obtain ⟨known, truthful, isSome_eq, tried⟩ := outcome_attemptMemoized_of_truthful truthful
        (standsFor rule List.mem_cons_self) isToken rising inside
        fun state rising inside => outcome_attemptWith_token rising inside
      have tried : (attemptBlank environment parent rule state).outcome =
          tokenOutcome environment rule token parent { state with memo := known } := by
        rw [attemptBlank, isToken]
        exact tried
      obtain ⟨memo, told, same, ended⟩ := inductionHypothesis
        rest_standsFor truthful
          (show ({ state with memo := known } : State).tree.Rising from rising) inside
      rw [tokenOutcome] at tried
      dsimp only at tried
      cases answered : token.matchAt? environment.source (state.tree.stop parent) with
      | none =>
        rw [answered] at tried
        refine ⟨memo, told, same.trans isSome_eq, ?_⟩
        rw [(Step.bind_of_done _ tried).1, blankOutcome, firstBlank?, isToken, Option.bind_some,
          answered]
        exact ended
      | some length =>
        rw [answered] at tried
        cases length with
        | zero =>
          refine ⟨memo, told, same.trans isSome_eq, ?_⟩
          rw [(Step.bind_of_done _ tried).1, if_pos rfl, Step.outcome_read_bind, blankOutcome,
            firstBlank?, isToken, Option.bind_some, answered]
          dsimp only
          rw [stop_attach_matchToken rising inside, Nat.add_zero, if_neg (Nat.lt_irrefl _),
            Step.changeTree, Step.outcome_change_bind]
          dsimp only
          rw [discardLast_matchToken_zero rising inside]
          exact ended
        | succ length =>
          refine ⟨known, truthful, isSome_eq, ?_⟩
          rw [(Step.bind_of_done _ tried).1, if_pos rfl, Step.outcome_read_bind, blankOutcome,
            firstBlank?, isToken, Option.bind_some, answered]
          dsimp only
          rw [stop_attach_matchToken rising inside,
            if_pos (Nat.lt_add_of_pos_right length.succ_pos)]
          rfl

end Rulebook.Parse
