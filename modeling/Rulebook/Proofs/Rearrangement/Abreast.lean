/-
This file holds a small logic for two parses whose grammars declare the items of some sets in
another order. The parses do not go through the same states: what they report and what they count
differs, and the memo of one of them may have been told of items that the other never tried. What
they have in common is the tree, the height of the stack, and all that is remembered, except of
tokens about which all are agreed anyway.

The invariants of a parse are known of the first of the two. Those that are needed of the second
follow.
-/

import Rulebook.Proofs.Parse.Conduct
import Rulebook.Proofs.Rearrangement.Recollection

namespace Rulebook

open Match (Origin Tree)

/-- A token that is tried comes to the same in trees that are the same but for their rules. -/
theorem Match.Tree.Paired.treeAfter {kin : Rule → Rule → Prop} {left right : Tree}
    {rule rule' : Rule} (paired : left.Paired kin right) (related : kin rule rule') (parent : Nat)
    (outcome : Option Nat) :
    (Parse.treeAfter left parent rule outcome).Paired kin
      (Parse.treeAfter right parent rule' outcome) := by
  cases outcome with
  | none => exact paired
  | some length =>
    rw [Parse.treeAfter, Parse.treeAfter, paired.size_eq]
    exact (paired.attach parent (.rule related)).matchToken left.size length

namespace Parse

variable {Value Result View : Type} {environment : Environment} {first grammar : Grammar}
  {left right next next' : State} {node : Nat}

/-! ### States -/

/-- Two states of parses whose grammars are reordered. -/
structure State.Abreast (environment : Environment) (first : Grammar) (left right : State) :
    Prop where
  grammar : left.grammar.Reordered environment first right.grammar
  tree : left.tree.Paired Rule.Rearranged right.tree
  height_eq : right.stack.length = left.stack.length
  memoizing_eq : right.memo.isSome = left.memo.isSome
  /-- The same is remembered, except where it does not matter what is. -/
  recollections : ∀ key, Unanimous environment first key.grammar key.rule ∨
    right.recollection key = left.recollection key
  informed : right.Informed environment first

namespace State.Abreast

theorem stop_eq (abreast : left.Abreast environment first right) (id : Nat) :
    right.tree.stop id = left.tree.stop id :=
  abreast.tree.stop_eq id

/-- States stay abreast after a change of the same in both trees. -/
theorem changeTree (abreast : left.Abreast environment first right) {tree tree' : Tree}
    (paired : tree.Paired Rule.Rearranged tree') :
    State.Abreast environment first { left with tree } { right with tree := tree' } where
  grammar := abreast.grammar
  tree := paired
  height_eq := abreast.height_eq
  memoizing_eq := abreast.memoizing_eq
  recollections := abreast.recollections
  informed := abreast.informed

theorem changeGrammar (abreast : left.Abreast environment first right) {grammar grammar' : Grammar}
    (reordered : grammar.Reordered environment first grammar') :
    State.Abreast environment first { left with grammar } { right with grammar := grammar' } where
  grammar := reordered
  tree := abreast.tree
  height_eq := abreast.height_eq
  memoizing_eq := abreast.memoizing_eq
  recollections := abreast.recollections
  informed := abreast.informed

theorem changeStack (abreast : left.Abreast environment first right) {stack stack' : List Frame}
    (height_eq : stack'.length = stack.length) :
    State.Abreast environment first { left with stack } { right with stack := stack' } where
  grammar := abreast.grammar
  tree := abreast.tree
  height_eq := height_eq
  memoizing_eq := abreast.memoizing_eq
  recollections := abreast.recollections
  informed := abreast.informed

end State.Abreast

/-- A change of nothing that matters to a comparison. -/
structure Discreet (update : State → State) : Prop where
  grammar_eq : ∀ state, (update state).grammar = state.grammar
  tree_eq : ∀ state, (update state).tree = state.tree
  tail_eq : ∀ state, (update state).stack.tail = state.stack.tail
  height_eq : ∀ state, (update state).stack.length = state.stack.length
  memo_eq : ∀ state, (update state).memo = state.memo

theorem State.Abreast.discreet (abreast : left.Abreast environment first right)
    {update update' : State → State} (discreet : Discreet update) (discreet' : Discreet update') :
    (update left).Abreast environment first (update' right) where
  grammar := by
    rw [discreet.grammar_eq, discreet'.grammar_eq]
    exact abreast.grammar
  tree := by
    rw [discreet.tree_eq, discreet'.tree_eq]
    exact abreast.tree
  height_eq := by rw [discreet.height_eq, discreet'.height_eq, abreast.height_eq]
  memoizing_eq := by rw [discreet.memo_eq, discreet'.memo_eq, abreast.memoizing_eq]
  recollections key := by
    rw [State.recollection, State.recollection, discreet.memo_eq, discreet'.memo_eq]
    exact abreast.recollections key
  informed key outcome found := by
    rw [State.recollection, discreet'.memo_eq] at found
    exact abreast.informed key outcome found

/-! ### Tokens -/

section Tokens

variable {rule rule' : Rule} {token : TokenRule} {parent : Nat}

theorem State.Abreast.tokenKey_eq (abreast : left.Abreast environment first right)
    (rearranged : rule.Rearranged rule') (parent : Nat) :
    right.tokenKey rule' parent = left.tokenKey rule parent := by
  rw [State.tokenKey, State.tokenKey, rearranged.grammar_eq, rearranged.name_eq, abreast.stop_eq]

/-- A token comes to the same on both sides. -/
theorem State.Abreast.answer_eq (abreast : left.Abreast environment first right)
    (sound : Sound environment first left) (known : Known environment first rule)
    (rearranged : rule.Rearranged rule') (isToken : rule.token? = some token) :
    right.answer environment.source rule' token parent =
      left.answer environment.source rule token parent := by
  have key_eq := abreast.tokenKey_eq rearranged parent
  rcases abreast.recollections (left.tokenKey rule parent) with unanimous | same
  · have goesBy : GoesBy environment first rule.grammar rule.name token :=
      ⟨rule, known, rfl, rfl, isToken⟩
    rw [sound.informed.answer_eq goesBy fun _ => unanimous, ← abreast.stop_eq]
    rw [← rearranged.grammar_eq, ← rearranged.name_eq] at goesBy
    refine abreast.informed.answer_eq goesBy fun _ => ?_
    rw [rearranged.grammar_eq, rearranged.name_eq]
    exact unanimous
  · rw [State.answer, State.answer, key_eq, same, abreast.stop_eq]

/-- After a token has been tried on both sides, it is remembered on both sides. -/
theorem State.Abreast.tokenAnswered (abreast : left.Abreast environment first right)
    (sound : Sound environment first left) (known : Known environment first rule)
    (rearranged : rule.Rearranged rule') (isToken : rule.token? = some token)
    (answered : TokenAnswered environment.source rule token parent left next)
    (answered' : TokenAnswered environment.source rule' token parent right next') :
    next.Abreast environment first next' := by
  have answer_eq : right.answer environment.source rule' token parent =
      left.answer environment.source rule token parent :=
    abreast.answer_eq sound known rearranged isToken
  have key_eq := abreast.tokenKey_eq rearranged parent
  have recollection_eq := answered'.recollection_eq
  rw [answer_eq, key_eq, abreast.memoizing_eq] at recollection_eq
  refine ⟨?_, ?_, ?_, ?_, fun key => ?_, fun key outcome found => ?_⟩
  · rw [answered.grammar_eq, answered'.grammar_eq]
    exact abreast.grammar
  · rw [answered.tree_eq, answered'.tree_eq, answer_eq]
    exact abreast.tree.treeAfter rearranged parent _
  · rw [answered.stack_eq, answered'.stack_eq]
    exact abreast.height_eq
  · rw [answered.memoizing_eq, answered'.memoizing_eq]
    exact abreast.memoizing_eq
  · rw [answered.recollection_eq, recollection_eq]
    split
    · exact .inr rfl
    · exact abreast.recollections key
  · rw [recollection_eq] at found
    split at found
    · rename_i same
      rw [same.2, ← Option.some.inj found]
      exact sound.informed.recalls_answer known isToken
    · exact abreast.informed key outcome found

end Tokens

/-! ### Outcomes -/

/-- Two outcomes are of the same sort, with related values if there are any, and states abreast. -/
inductive Outcome.Abreast (environment : Environment) (first : Grammar)
    (relate : Value → Value → Prop) : Outcome Value → Outcome Value → Prop where
  | done {value value' : Value} {left right : State} (related : relate value value')
    (abreast : left.Abreast environment first right) :
    Abreast environment first relate (.done value left) (.done value' right)
  | aborted {error error' : ParseError} {left right : State} :
    Abreast environment first relate (.aborted error left) (.aborted error' right)
  | exhausted : Abreast environment first relate .exhausted .exhausted

variable {relate : Value → Value → Prop} {relate' : Result → Result → Prop}

theorem Outcome.Abreast.bind {step step' : Step Value} {second second' : Value → Step Result}
    {always : Moment → Prop} {between : Value → State → Prop}
    (met : Outcome.Abreast environment first relate (step left).outcome (step' right).outcome)
    (meets : (step left).Meets always True between)
    (rest : ∀ value value' next next', relate value value' → between value next →
      next.Abreast environment first next' → Outcome.Abreast environment first relate'
        (second value next).outcome (second' value' next').outcome) :
    Outcome.Abreast environment first relate' ((step >>= second) left).outcome
      ((step' >>= second') right).outcome := by
  generalize ended : (step left).outcome = outcome at met
  generalize ended' : (step' right).outcome = outcome' at met
  cases met with
  | done related abreast =>
    rw [(Step.bind_of_done second ended).1, (Step.bind_of_done second' ended').1]
    exact rest _ _ _ _ related (meets.returns _ _ ended) abreast
  | aborted =>
    rw [(Step.bind_of_aborted second ended).1, (Step.bind_of_aborted second' ended').1]
    exact .aborted
  | exhausted =>
    rw [(Step.bind_of_exhausted second ended).1, (Step.bind_of_exhausted second' ended').1]
    exact .exhausted

theorem Outcome.Abreast.mapState {outcome outcome' : Outcome Value}
    (abreast : Outcome.Abreast environment first relate outcome outcome')
    {update update' : State → State} (change : ∀ left right : State,
      left.Abreast environment first right →
        (update left).Abreast environment first (update' right)) :
    Outcome.Abreast environment first relate (outcome.mapState update)
      (outcome'.mapState update') := by
  cases abreast with
  | done related abreast => exact .done related (change _ _ abreast)
  | aborted => exact .aborted
  | exhausted => exact .exhausted

/-! ### Steps at a node -/

/-- Something may be matched as the next child of a node, under a grammar. -/
structure ReadyIn (environment : Environment) (first current : Grammar) (node : Nat)
    (state : State) : Prop extends Ready environment first node state where
  grammar_eq : state.grammar = current

/-- After a step at a node, more can be matched there. -/
def Step.Remains (environment : Environment) (first grammar : Grammar) (node : Nat)
    (step : Step Value) : Prop :=
  ∀ state, ReadyIn environment first grammar node state →
    (step state).Meets (Proper environment first) True fun _ after =>
      ReadyIn environment first grammar node after

/-- Two steps at a node come to outcomes of the same sort. -/
def Step.Abreast (environment : Environment) (first grammar : Grammar) (node : Nat)
    (relate : Value → Value → Prop) (step step' : Step Value) : Prop :=
  ∀ left right, ReadyIn environment first grammar node left →
    left.Abreast environment first right →
      Outcome.Abreast environment first relate (step left).outcome (step' right).outcome

theorem ReadyIn.of_working {before after : State}
    (ready : ReadyIn environment first grammar node before)
    (working : Working environment first node before after) :
    ReadyIn environment first grammar node after :=
  ⟨working.ready, working.grammar_eq.trans ready.grammar_eq⟩

theorem ReadyIn.of_still {before after : State}
    (ready : ReadyIn environment first grammar node before)
    (still : Still environment first before after) :
    ReadyIn environment first grammar node after :=
  ⟨still.ready ready.toReady, still.grammar_eq.trans ready.grammar_eq⟩

theorem Step.remains_of_working {step : Step Value} (meets : ∀ state,
    Working environment first node state state →
      (step state).Meets (Proper environment first) True fun _ after =>
        Working environment first node state after) :
    Step.Remains environment first grammar node step :=
  fun state ready => (meets state (.refl ready.toReady)).imp fun _ _ working =>
    ready.of_working working

namespace Step.Abreast

theorem pure {value value' : Value} (related : relate value value') :
    Step.Abreast environment first grammar node relate (Pure.pure value : Step Value)
      (Pure.pure value') :=
  fun _ _ _ abreast => .done related abreast

theorem exhausted : Step.Abreast environment first grammar node relate
    (Step.exhausted : Step Value) Step.exhausted :=
  fun _ _ _ _ => .exhausted

/-- A parse is given up on both sides, perhaps for another reason. -/
theorem abort {environment' : Environment} (cause cause' : FailureCause) :
    Step.Abreast environment first grammar node relate
      (Parse.abort environment cause : Step Value) (Parse.abort environment' cause') :=
  fun _ _ _ _ => .aborted

theorem bind {step step' : Step Value} {second second' : Value → Step Result}
    (abreast : Step.Abreast environment first grammar node relate step step')
    (remains : Step.Remains environment first grammar node step)
    (rest : ∀ value value', relate value value' →
      Step.Abreast environment first grammar node relate' (second value) (second' value')) :
    Step.Abreast environment first grammar node relate' (step >>= second) (step' >>= second') :=
  fun left right ready states => (abreast left right ready states).bind (remains left ready)
    fun value value' next next' related ready states =>
      rest value value' related next next' ready states

/-- What is read off the two sides may be related in any way. -/
theorem readRelated {view view' : State → View} {related : View → View → Prop}
    {second second' : View → Step Result}
    (same : ∀ left right : State, ReadyIn environment first grammar node left →
      left.Abreast environment first right → related (view left) (view' right))
    (rest : ∀ value value', related value value' →
      Step.Abreast environment first grammar node relate' (second value) (second' value')) :
    Step.Abreast environment first grammar node relate' (Step.read view >>= second)
      (Step.read view' >>= second') := by
  intro left right ready states
  rw [Step.outcome_read_bind, Step.outcome_read_bind]
  exact rest _ _ (same left right ready states) left right ready states

/-- The same is read off the two sides. -/
theorem read {view view' : State → View} {second second' : View → Step Result}
    (same : ∀ left right : State, ReadyIn environment first grammar node left →
      left.Abreast environment first right → view' right = view left)
    (rest : ∀ value, Step.Abreast environment first grammar node relate' (second value)
      (second' value)) :
    Step.Abreast environment first grammar node relate' (Step.read view >>= second)
      (Step.read view' >>= second') :=
  readRelated (fun left right ready states => (same left right ready states).symm)
    fun value _ (equal : value = _) => equal ▸ rest value

/-- Nothing changes on either side that matters. -/
theorem discreet {update update' : State → State} (discreet : Discreet update)
    (discreet' : Discreet update') :
    Step.Abreast environment first grammar node Eq (Step.change update) (Step.change update') :=
  fun _ _ _ states => .done rfl (states.discreet discreet discreet')

end Step.Abreast

theorem Discreet.still {update : State → State} (discreet : Discreet update) {state : State}
    (sound : Sound environment first state) : Still environment first state (update state) :=
  .of_eq sound (discreet.tree_eq state) (discreet.grammar_eq state) (discreet.tail_eq state)
    (discreet.height_eq state) (discreet.memo_eq state)

theorem Discreet.remains {update : State → State} (discreet : Discreet update) :
    Step.Remains environment first grammar node (Step.change update) :=
  fun _ ready => (meets_still (discreet.still ready.toSound)).imp fun _ _ still =>
    ready.of_still still

end Parse

end Rulebook
