/-
This file is about trying a single rule as the next child of a node: attaching a node for it,
letting the rule work there, and detaching the node again on failure. A token may be answered
from the memo instead; that comes to the same, because what is remembered is what the token
does. Whitespace is skipped by trying tokens, as long as one of them takes input.
-/

import Rulebook.Proofs.Parse.Soundness

namespace Rulebook.Parse

open Match (Origin Tree)

variable {environment : Environment} {first : Grammar} {excused : Prop}
  {before middle state : State} {node parent : Nat} {rule : Rule} {token : TokenRule}

/-! ### Tokens -/

theorem Rule.isToken_of_token? (isToken : rule.token? = some token) : rule.isToken = true := by
  rw [Rule.isToken, isToken]
  rfl

theorem outcome_performToken (environment : Environment) (token : TokenRule) (node : Nat)
    (state : State) :
    (performToken environment token node state).outcome =
      match token.matchAt? environment.source (state.tree.stop node) with
      | some length => .done true { state with tree := state.tree.matchToken node length }
      | none => .done false state := by
  show ((match token.matchAt? environment.source (state.tree.stop node) with
    | some length => do
      Step.changeTree (·.matchToken node length)
      return true
    | none => return false : Step Bool) state).outcome = _
  cases token.matchAt? environment.source (state.tree.stop node) <;> rfl

/-- A token may match at a node that has just been attached for it. -/
theorem worked_matchToken (ready : Ready environment first node state)
    (childless : (state.tree.node node).children = #[])
    (isRule : (state.tree.node node).origin = .rule rule) (isToken : rule.isToken = true)
    {length : Nat} (boundary : Boundary environment.source.chars (state.tree.stop node + length)) :
    Worked environment first node state
      { state with tree := state.tree.matchToken node length } :=
  ⟨.of_tree ready.toSound (ready.tree.matchToken ready.isOpen childless isRule isToken boundary),
    Tree.grown_matchToken ready.tree.rising ready.isOpen.inside length⟩

theorem meets_performToken (faithful : environment.source.Faithful)
    (ready : Ready environment first node state)
    (childless : (state.tree.node node).children = #[])
    (isRule : (state.tree.node node).origin = .rule rule) (isToken : rule.token? = some token) :
    (performToken environment token node state).Meets (Proper environment first) excused
      fun _ after => Worked environment first node state after := by
  unfold performToken
  refine meets_read_bind ?_
  cases found : token.matchAt? environment.source (state.tree.stop node) with
  | none => exact meets_pure ⟨.refl ready.toSound, .refl ready.tree.rising ready.isOpen.inside⟩
  | some length =>
    have worked := worked_matchToken ready childless isRule (Rule.isToken_of_token? isToken)
      (token.boundary_of_matchAt? faithful found).2
    exact meets_change_bind worked.sound.proper (meets_pure worked)

/-! ### Attempts -/

/-- A node attached for a rule is open. -/
theorem ready_attach (ready : Ready environment first parent state) (origin : Origin) :
    Ready environment first state.tree.size
      { state with tree := state.tree.attach parent origin } :=
  ⟨⟨ready.tree.attach ready.isOpen _, ready.grammar, ready.memoizing, ready.memo⟩,
    Tree.open_attach ready.tree ready.isOpen⟩

/-- Detaching a child undoes all that was done since it was attached. -/
theorem still_discardLast (ready : Ready environment first parent before)
    (kept : Kept environment first before state) {origin : Origin}
    (grown : Tree.Grown before.tree.size (before.tree.attach parent origin) state.tree) :
    Still environment first before { state with tree := state.tree.discardLast parent } := by
  have restored : state.tree.discardLast parent = before.tree :=
    grown.discardLast_eq ready.tree.rising ready.isOpen.inside
  refine ⟨kept.trans (.of_tree kept.sound ?_), restored⟩
  rw [restored]
  exact ready.tree

/-- An attempt meets its contract if the rule works at the node attached for it. -/
theorem meets_attemptWith (ready : Ready environment first parent state)
    {perform : Nat → Step Bool}
    (performs : (perform state.tree.size
        { state with tree := state.tree.attach parent (.rule rule) }).Meets
      (Proper environment first) excused fun _ after => Worked environment first state.tree.size
        { state with tree := state.tree.attach parent (.rule rule) } after) :
    (attemptWith rule parent perform state).Meets (Proper environment first) excused
      (Attempted environment first rule parent state) := by
  have attached := ready_attach ready (.rule rule)
  unfold attemptWith
  refine meets_read_bind (meets_change_bind attached.toSound.proper ?_)
  refine performs.bind fun matched next worked => ?_
  have kept : Kept environment first state next :=
    (Kept.of_tree ready.toSound attached.tree).trans worked.toKept
  cases matched with
  | true => exact meets_pure (.succeeded kept worked.grown)
  | false =>
    have still := still_discardLast ready kept worked.grown
    exact meets_change_bind still.sound.proper (meets_pure (.failed still))

/-- What trying a token comes to. -/
def tokenOutcome (environment : Environment) (rule : Rule) (token : TokenRule) (parent : Nat)
    (state : State) : Outcome Bool :=
  match token.matchAt? environment.source (state.tree.stop parent) with
  | some length => .done true
      { state with
        tree := (state.tree.attach parent (.rule rule)).matchToken state.tree.size length }
  | none => .done false state

theorem outcome_attemptWith_token (rising : state.tree.Rising) (inside : parent < state.tree.size) :
    (attemptWith rule parent (performToken environment token) state).outcome =
      tokenOutcome environment rule token parent state := by
  have performed := outcome_performToken environment token state.tree.size
    { state with tree := state.tree.attach parent (.rule rule) }
  rw [Tree.stop_attach_new inside] at performed
  rw [attemptWith, Step.outcome_read_bind, Step.changeTree, Step.outcome_change_bind,
    tokenOutcome]
  cases found : token.matchAt? environment.source (state.tree.stop parent) with
  | some length =>
    rw [found] at performed
    exact (Step.bind_of_done _ performed).1
  | none =>
    rw [found] at performed
    have restored := Tree.discardLast_attach rising inside (.rule rule)
    refine (Step.bind_of_done _ performed).1.trans ?_
    show Outcome.done false { state with
      tree := (state.tree.attach parent (.rule rule)).discardLast parent } = _
    rw [restored]

/-- The tree after a token has matched at a node attached for it. -/
theorem attempted_matchToken (ready : Ready environment first parent state)
    (isToken : rule.isToken = true) {length : Nat}
    (boundary : Boundary environment.source.chars (state.tree.stop parent + length)) :
    Attempted environment first rule parent state true
      { state with
        tree := (state.tree.attach parent (.rule rule)).matchToken state.tree.size length } := by
  have attached := ready_attach ready (.rule rule)
  have new := Tree.node_attach_new ready.isOpen.inside (.rule rule)
  have stop_eq : (state.tree.attach parent (.rule rule)).stop state.tree.size =
      state.tree.stop parent := Tree.stop_attach_new ready.isOpen.inside
  rw [← stop_eq] at boundary
  have worked := worked_matchToken attached (by rw [new]) (by rw [new]) isToken boundary
  exact .succeeded ((Kept.of_tree ready.toSound attached.tree).trans worked.toKept) worked.grown

theorem stop_attached_matchToken (ready : Ready environment first parent state) (rule : Rule)
    (length : Nat) :
    ((state.tree.attach parent (.rule rule)).matchToken state.tree.size length).stop parent =
      state.tree.stop parent + length := by
  have rising := ready.tree.rising
  have inside := ready.isOpen.inside
  have attached := ready_attach ready (.rule rule)
  rw [Tree.stop_matchToken attached.tree.rising attached.isOpen.inside,
    Tree.lineage_attach_new rising inside,
    if_pos (List.mem_cons_of_mem _ (Tree.mem_lineage_self _ _)), Tree.stop_attach inside]

theorem terminal_attached_matchToken (ready : Ready environment first parent state)
    (rule : Rule) (length : Nat) :
    (((state.tree.attach parent (.rule rule)).matchToken state.tree.size length).node
      state.tree.size).terminal = true := by
  have attached := ready_attach ready (.rule rule)
  rw [Tree.terminal_matchToken attached.tree.rising attached.isOpen.inside, if_pos rfl]

/-- A token that answers for a rule decides what is taken. -/
theorem took_matchToken (ready : Ready environment first parent state) {rule other : Rule}
    {length : Nat} (standsIn : StandsIn environment first rule other)
    (isToken : other.token? = some token)
    (answer : token.matchAt? environment.source (state.tree.stop parent) = some length) :
    Took environment first rule (state.tree.stop parent)
      (((state.tree.attach parent (.rule rule)).matchToken state.tree.size length).stop
        parent) := by
  intro _
  rw [stop_attached_matchToken ready rule length]
  exact ⟨other, token, length, standsIn, isToken, answer, Nat.le_refl _⟩

/-! ### The memo -/

/-- A way of trying a rule of a grammar that the memo may stand in for. What excuses it may
depend on the height of the stack. -/
structure Tries (environment : Environment) (first grammar : Grammar) (excused : Nat → Prop)
    (rule : Rule) (parent : Nat) (attempt : Step Bool) : Prop where
  meets : ∀ state, Ready environment first parent state → state.grammar = grammar →
    (attempt state).Meets (Proper environment first) (excused state.stack.length)
      (Attempted environment first rule parent state)
  outcome_eq : ∀ token, rule.token? = some token → ∀ state,
    state.tree.Rising → parent < state.tree.size →
      (attempt state).outcome = tokenOutcome environment rule token parent state

theorem tries_token (faithful : environment.source.Faithful) {grammar : Grammar}
    {excused : Nat → Prop} (isToken : rule.token? = some token) :
    Tries environment first grammar excused rule parent
      (attemptWith rule parent (performToken environment token)) where
  meets state ready _ := by
    have attached := ready_attach ready (.rule rule)
    have new := Tree.node_attach_new ready.isOpen.inside (.rule rule)
    exact meets_attemptWith ready
      (meets_performToken faithful attached (by rw [new]) (by rw [new]) isToken)
  outcome_eq other same state rising inside := by
    obtain rfl := Option.some.inj (isToken.symm.trans same)
    exact outcome_attemptWith_token rising inside

/-- What the memo answers is what some token does that goes by the key. -/
theorem meets_consult (sound : Sound environment first state) (key : MemoKey) :
    (consult key state).Meets (Proper environment first) excused fun known after =>
      Still environment first state after ∧
        ∀ outcome, known = some outcome → Recalls environment first key outcome := by
  unfold consult
  cases present : state.memo with
  | none => exact meets_pure ⟨.refl sound, fun outcome absurd => by cases absurd⟩
  | some memo =>
    have same := memo.lookup_entries key
    have told : ∀ outcome, (memo.lookup key).1 = some outcome →
        memo.entries[key]? = some outcome := by
      intro outcome answer
      rw [Memo.lookup_fst] at answer
      exact answer
    have after : Sound environment first { state with memo := some (memo.lookup key).2 } := by
      refine ⟨sound.tree, sound.grammar, ?_, fun other isMemo => ?_⟩
      · rw [← sound.memoizing, present]
        rfl
      · rw [← Option.some.inj isMemo, same]
        exact sound.memo memo present
    exact meets_of_single after.proper ⟨⟨⟨after, rfl, rfl, rfl⟩, rfl⟩,
      fun outcome answer => sound.memo memo present key outcome (told outcome answer)⟩

theorem meets_remember (sound : Sound environment first state) {key : MemoKey}
    {outcome : Option Nat} (recalls : Recalls environment first key outcome) :
    (remember key outcome state).Meets (Proper environment first) excused fun _ after =>
      Still environment first state after := by
  have after : Sound environment first
      { state with memo := state.memo.map (·.store key outcome) } := by
    refine ⟨sound.tree, sound.grammar, Option.isSome_map.trans sound.memoizing,
      fun other isMemo => ?_⟩
    obtain ⟨memo, present, rfl⟩ := Option.map_eq_some_iff.mp isMemo
    intro asked answer found
    rw [Memo.store, Std.HashMap.getElem?_insert] at found
    split at found
    · rename_i same
      rw [← eq_of_beq same, ← Option.some.inj found]
      exact recalls
    · exact sound.memo memo present asked answer found
  exact meets_change after.proper ⟨⟨after, rfl, rfl, rfl⟩, rfl⟩

/-- What the latest child of a node took, after a token has matched there. -/
theorem lastConsumed_matchToken {tree : Tree} (rising : tree.Rising)
    (inside : parent < tree.size) (origin : Origin) (length : Nat) :
    lastConsumed ((tree.attach parent origin).matchToken tree.size length) parent =
      some length := by
  have attached : (tree.attach parent origin).Rising := Tree.rising_attach rising inside
  have grown := Tree.grown_matchToken attached
    (by rw [Tree.size_attach]; exact Nat.lt_succ_self _) length
  rw [lastConsumed, grown.back?_parent rising inside, Option.map_some, Match.Node.consumed]
  rw [Tree.node_matchToken (Tree.rising_attach rising inside)
    (by rw [Tree.size_attach]; exact Nat.lt_succ_self _), if_pos rfl,
    Tree.node_attach_new inside]
  simp [Match.Node.lengthen]

/-- What is remembered of a token is what the token does. -/
theorem consumed_tokenOutcome (ready : Ready environment first parent before) {matched : Bool}
    (done : tokenOutcome environment rule token parent before = .done matched state) :
    (if matched = true then lastConsumed state.tree parent else none) =
      token.matchAt? environment.source (before.tree.stop parent) := by
  unfold tokenOutcome at done
  cases answered : token.matchAt? environment.source (before.tree.stop parent) with
  | none =>
    rw [answered] at done
    obtain ⟨rfl, -⟩ := Outcome.done.inj done
    exact if_neg Bool.false_ne_true
  | some length =>
    rw [answered] at done
    obtain ⟨rfl, rfl⟩ := Outcome.done.inj done
    rw [if_pos rfl, lastConsumed_matchToken ready.tree.rising ready.isOpen.inside]

/-- A token that is tried takes what it takes. -/
theorem Tries.tried {grammar : Grammar} {excused : Nat → Prop} {attempt : Step Bool}
    (tries : Tries environment first grammar excused rule parent attempt)
    (ready : Ready environment first parent state) (same : state.grammar = grammar) :
    (attempt state).Meets (Proper environment first) (excused state.stack.length)
      (Tried environment first rule parent state) := by
  refine (tries.meets state ready same).and_done.imp fun matched after ended => ?_
  obtain ⟨attempted, done⟩ := ended
  -- If the rule is a token, the tree after a match is known.
  have matches_eq : matched = true → ∀ token, rule.token? = some token → ∃ length,
      token.matchAt? environment.source (state.tree.stop parent) = some length ∧
        after.tree =
          (state.tree.attach parent (.rule rule)).matchToken state.tree.size length := by
    intro success token found
    subst success
    rw [tries.outcome_eq token found state ready.tree.rising ready.isOpen.inside,
      tokenOutcome] at done
    cases answered : token.matchAt? environment.source (state.tree.stop parent) with
    | none =>
      rw [answered] at done
      cases done
    | some length =>
      rw [answered] at done
      obtain ⟨-, rfl⟩ := Outcome.done.inj done
      exact ⟨length, rfl, rfl⟩
  refine ⟨attempted, fun success isToken => ?_, fun success isToken => ?_⟩
  · obtain ⟨token, found⟩ := Option.isSome_iff_exists.mp isToken
    obtain ⟨length, answered, tree_eq⟩ := matches_eq success token found
    rw [tree_eq]
    exact took_matchToken ready (.inl rfl) found answered isToken
  · obtain ⟨token, found⟩ := Option.isSome_iff_exists.mp isToken
    obtain ⟨length, -, tree_eq⟩ := matches_eq success token found
    rw [tree_eq]
    exact terminal_attached_matchToken ready rule length

/-- What is remembered of a token that was tried is right. -/
theorem Tries.recalls {grammar : Grammar} {excused : Nat → Prop} {attempt : Step Bool}
    (tries : Tries environment first grammar excused rule parent attempt)
    (ready : Ready environment first parent before) (known : Known environment first rule)
    (isToken : rule.isToken = true) {matched : Bool}
    (done : (attempt before).outcome = .done matched state) :
    Recalls environment first ⟨rule.grammar, before.tree.stop parent, rule.name⟩
      (if matched = true then lastConsumed state.tree parent else none) := by
  obtain ⟨token, found⟩ := Option.isSome_iff_exists.mp isToken
  rw [tries.outcome_eq token found before ready.tree.rising ready.isOpen.inside] at done
  exact ⟨rule, token, known, found, rfl, rfl, (consumed_tokenOutcome ready done).symm⟩

/-- Wherever the memo answers, it answers as the token would. -/
theorem meets_attemptRemembering (faithful : environment.source.Faithful)
    (ready : Ready environment first parent state) (known : Known environment first rule)
    (memoizing : state.memo.isSome = true) (isToken : rule.isToken = true)
    {excused : Nat → Prop} {attempt : Step Bool}
    (tries : Tries environment first state.grammar excused rule parent attempt) :
    (attemptRemembering rule parent attempt state).Meets (Proper environment first)
      (excused state.stack.length) (Tried environment first rule parent state) := by
  unfold attemptRemembering
  refine meets_read_bind ((meets_consult ready.toSound _).bind fun answer next told => ?_)
  obtain ⟨still, recalls⟩ := told
  have nextReady := still.ready ready
  match answer with
  | some (some length) =>
    obtain ⟨other, token, otherKnown, otherToken, grammar_eq, name_eq, remembered⟩ :=
      recalls (some length) rfl
    rw [← still.tree_eq] at remembered
    have attempted := attempted_matchToken nextReady isToken
      (token.boundary_of_matchAt? faithful remembered).2
    have standsIn : StandsIn environment first rule other :=
      .inr ⟨ready.memoizing.symm.trans memoizing, otherKnown, grammar_eq.symm, name_eq.symm⟩
    have took := took_matchToken nextReady standsIn otherToken remembered
    have tried : Tried environment first rule parent next true { next with
        tree := (next.tree.attach parent (.rule rule)).matchToken next.tree.size length } := by
      refine ⟨attempted, fun _ => ?_, fun _ _ => ?_⟩
      · dsimp only
        exact took
      · exact terminal_attached_matchToken nextReady rule length
    exact meets_read_bind (meets_change_bind tried.sound.proper
      (meets_pure (.of_still still tried)))
  | some none => exact meets_pure (.failed still)
  | none =>
    have tried := (tries.tried nextReady still.grammar_eq).and_done
    rw [still.height_eq] at tried
    refine tried.bind fun matched after ended => meets_read_bind ?_
    obtain ⟨tried, done⟩ := ended
    have recalls := tries.recalls nextReady known isToken done
    rw [still.tree_eq] at recalls
    exact (meets_remember tried.sound recalls).bind fun _ last noted =>
      meets_pure (.of_still still (tried.still noted))

theorem meets_attemptMemoized (faithful : environment.source.Faithful)
    (ready : Ready environment first parent state) (known : Known environment first rule)
    {excused : Nat → Prop} {attempt : Step Bool}
    (tries : Tries environment first state.grammar excused rule parent attempt) :
    (attemptMemoized rule parent attempt state).Meets (Proper environment first)
      (excused state.stack.length) (Tried environment first rule parent state) := by
  unfold attemptMemoized
  refine meets_note_bind (ready.proper_tried known) (meets_read_bind ?_)
  cases both : state.memo.isSome && rule.isToken with
  | false => exact tries.tried ready rfl
  | true =>
    obtain ⟨memoizing, isToken⟩ := Bool.and_eq_true_iff.mp both
    exact meets_attemptRemembering faithful ready known memoizing isToken tries

theorem outcome_consult {memo : Memo} (present : state.memo = some memo) (key : MemoKey) :
    (consult key state).outcome =
      .done (memo.lookup key).1 { state with memo := some (memo.lookup key).2 } := by
  rw [consult, present]

/-- The memo is asked first; what it does not know is tried and remembered. -/
theorem outcome_attemptRemembering {memo : Memo} (present : state.memo = some memo)
    (rule : Rule) (parent : Nat) (attempt : Step Bool) {key : MemoKey}
    (key_eq : key = ⟨rule.grammar, state.tree.stop parent, rule.name⟩) :
    (attemptRemembering rule parent attempt state).outcome =
      match (memo.lookup key).1 with
      | some (some length) => .done true { state with
          memo := some (memo.lookup key).2
          tree := (state.tree.attach parent (.rule rule)).matchToken state.tree.size length }
      | some none => .done false { state with memo := some (memo.lookup key).2 }
      | none => ((attempt >>= fun matched => do
          let outcome ← Step.read fun state =>
            if matched then lastConsumed state.tree parent else none
          remember key outcome
          return matched) { state with memo := some (memo.lookup key).2 }).outcome := by
  unfold attemptRemembering
  show ((Step.read _ >>= _) state).outcome = _
  rw [Step.outcome_read_bind, ← key_eq, (Step.bind_of_done _ (outcome_consult present key)).1]
  match (memo.lookup key).1 with
  | some (some length) => rfl
  | some none => rfl
  | none => rfl

theorem outcome_attemptMemoized (rule : Rule) (parent : Nat) (attempt : Step Bool)
    (state : State) : (attemptMemoized rule parent attempt state).outcome =
      if state.memo.isSome && rule.isToken then
        (attemptRemembering rule parent attempt state).outcome
      else (attempt state).outcome := by
  rw [attemptMemoized, Step.outcome_note_bind, Step.outcome_read_bind]
  split <;> rfl

/-! ### Whitespace -/

theorem meets_attemptBlank (faithful : environment.source.Faithful)
    (ready : Ready environment first parent state) (known : Known environment first rule) :
    (attemptBlank environment parent rule state).Meets (Proper environment first) excused
      (BlankTried environment first rule parent state) := by
  unfold attemptBlank
  cases isToken : rule.token? with
  | none => exact meets_pure ⟨.failed (.refl ready.toSound), fun absurd => by cases absurd⟩
  | some token =>
    have tries : Tries environment first state.grammar (fun _ => excused) rule parent
        (attemptWith rule parent (performToken environment token)) :=
      tries_token faithful isToken
    exact (meets_attemptMemoized faithful ready known tries).imp fun _ _ tried =>
      ⟨tried.toAttempted, fun success => tried.terminal success (Rule.isToken_of_token? isToken)⟩

/-- A token that has matched may be marked as skipped. -/
theorem skipped_skipLast (ready : Ready environment first parent before)
    (attempted : Attempted environment first rule parent before true state)
    (terminal : (state.tree.node before.tree.size).terminal = true) :
    Skipped environment first parent before
      { state with tree := state.tree.skipLast parent } := by
  have rising := ready.tree.rising
  have inside := ready.isOpen.inside
  have below := attempted.grown rfl
  have latest := below.back?_parent rising inside
  have notSkipped : (state.tree.node before.tree.size).whitespace = false := by
    rw [(below.start_eq (by rw [Tree.size_attach]; omega)).2.2, Tree.node_attach_new inside]
  obtain ⟨grown, semantic_eq, terminal_eq⟩ := below.skipLast rising inside attempted.sound.tree
  have kept := Kept.of_tree attempted.sound (attempted.sound.tree.skipLast latest notSkipped)
  exact ⟨⟨⟨attempted.toKept.trans kept, grown⟩,
    ready.isOpen.of_grown grown (terminal_eq.trans ready.isOpen.unmatched)⟩, semantic_eq,
    below.trailed_skipLast rising inside attempted.sound.tree terminal⟩

theorem meets_skipOne (faithful : environment.source.Faithful)
    (ready : Ready environment first parent state) {tokens : List Rule}
    (known : ∀ rule ∈ tokens, Known environment first rule) :
    (skipOne environment parent tokens state).Meets (Proper environment first) excused
      (SkippedOne environment first parent state) := by
  induction tokens generalizing state with
  | nil => exact meets_pure (.of_still (.refl ready.toSound))
  | cons rule rest inductionHypothesis =>
    have rest_known := fun rule member => known rule (List.mem_cons_of_mem _ member)
    -- A token that takes nothing is as good as one that does not match.
    have goOn : ∀ next, Still environment first state next →
        (skipOne environment parent rest next).Meets (Proper environment first) excused
          (SkippedOne environment first parent state) := fun next still =>
      (inductionHypothesis (still.ready ready) rest_known).imp fun _ _ round =>
        .after_still ready still round
    rw [skipOne]
    refine meets_read_bind ?_
    refine (meets_attemptBlank faithful ready (known rule List.mem_cons_self)).bind
      fun matched next attempted => ?_
    cases matched with
    | false => exact goOn next ⟨attempted.toKept, attempted.restored rfl⟩
    | true =>
      refine meets_read_bind ?_
      by_cases further : state.tree.stop parent < next.tree.stop parent
      · have skipped := skipped_skipLast ready attempted.toAttempted (attempted.terminal rfl)
        have longer : state.tree.stop parent < (next.tree.skipLast parent).stop parent :=
          (attempted.sound.tree.stop_skipLast parent).symm ▸ further
        rw [if_pos further]
        exact meets_change_bind skipped.sound.proper (meets_pure (.of_skipped skipped longer))
      · have still := still_discardLast ready attempted.toKept (attempted.grown rfl)
        rw [if_neg further]
        exact meets_change_bind still.sound.proper (goOn _ still)

/-- Every round takes input, so whitespace is skipped to its end in no more rounds than there
are bytes left, and one. -/
theorem meets_skipAll (faithful : environment.source.Faithful)
    (ready : Ready environment first parent state) {tokens : List Rule}
    (known : ∀ rule ∈ tokens, Known environment first rule) {rounds : Nat}
    (enough : environment.source.size < state.tree.stop parent + rounds) :
    (skipAll environment parent tokens rounds state).Meets (Proper environment first) excused
      fun _ after => Skipped environment first parent state after := by
  induction rounds generalizing state with
  | zero =>
    have bound := ready.stop_le faithful
    omega
  | succ rounds inductionHypothesis =>
    rw [skipAll]
    refine (meets_skipOne faithful ready known).bind fun skipped next round => ?_
    have soFar := round.skipped ready
    cases skipped with
    | false => exact meets_pure soFar
    | true =>
      have further := (round.skips rfl).2
      exact (inductionHypothesis soFar.ready (by omega)).imp fun _ _ later => soFar.trans later

theorem known_whitespaceTokens {grammar : Grammar} (active : Active environment first grammar) :
    ∀ rule ∈ grammar.whitespaceTokens, Known environment first rule := by
  intro rule member
  obtain ⟨name, -, found⟩ := List.mem_filterMap.mp member
  exact ⟨grammar, name, active, found⟩

theorem meets_skipWhitespace (faithful : environment.source.Faithful)
    (ready : Ready environment first parent state) :
    (skipWhitespace environment parent state).Meets (Proper environment first) excused
      fun _ after => Skipped environment first parent state after := by
  unfold skipWhitespace
  refine meets_read_bind ?_
  cases state.grammar.whitespaceDisabled with
  | true => exact meets_pure (.refl ready)
  | false =>
    exact meets_skipAll faithful ready (known_whitespaceTokens ready.grammar)
      (Nat.lt_of_lt_of_le (Nat.lt_succ_self _) (Nat.le_add_left _ _))

end Rulebook.Parse
