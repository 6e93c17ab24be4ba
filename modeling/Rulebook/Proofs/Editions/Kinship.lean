/-
This file relates two parses whose grammars have the same rules in other editions. A parse does
not look at editions, with one exception: an operator asks whether it is being matched already,
and finds itself by its name and its edition. So nothing is seen of the other editions as long
as an operator finds itself on one side just when it does so on the other.

Which rule may stand in the place of which other is left open here; what matters about it is
said by `Kinship`.
-/

import Rulebook.Parse.Run
import Rulebook.Proofs.Grammar.References
import Rulebook.Proofs.Parse.Contract
import Rulebook.Proofs.Tree.Pairing

namespace Rulebook

open Match (Origin Tree)

variable {kin : Rule → Rule → Prop}

/-! ### Grammars -/

/-- Two grammars have the same settings, and what is found in one of them is related to what is
found in the other under the same name. -/
structure Grammar.Allied (kin : Rule → Rule → Prop) (left right : Grammar) : Prop where
  name_eq : right.name = left.name
  whitespace_eq : right.whitespace = left.whitespace
  startSymbol_eq : right.startSymbol = left.startSymbol
  depthLimit_eq : right.depthLimit = left.depthLimit
  whitespaceDisabled_eq : right.whitespaceDisabled = left.whitespaceDisabled
  rules : ∀ name, Option.Rel kin (left.rule? name) (right.rule? name)

theorem Grammar.Allied.whitespaceTokens {left right : Grammar} (allied : left.Allied kin right) :
    List.Forall₂ kin left.whitespaceTokens right.whitespaceTokens := by
  rw [Grammar.whitespaceTokens, Grammar.whitespaceTokens, allied.whitespace_eq]
  induction left.whitespace with
  | nil => exact .nil
  | cons name rest inductionHypothesis =>
    have found := allied.rules name
    rw [List.filterMap_cons, List.filterMap_cons]
    generalize left.rule? name = first, right.rule? name = second at found
    cases found with
    | none => exact inductionHypothesis
    | some related => exact .cons related inductionHypothesis

/-- What makes it possible to put rules in the place of others. -/
structure Kinship (registry : Registry) (kin : Rule → Rule → Prop) : Prop where
  /-- Only the edition is another one. -/
  right_eq : ∀ {left right}, kin left right → right = { left with edition := right.edition }
  /-- Whether an operator finds itself is the same on both sides. -/
  same_eq : ∀ {left right other other'}, kin left right → kin other other' →
    left.isOperator = true → other'.same right = other.same left
  /-- A grammar that is imported is used on both sides. -/
  imported : ∀ {left right target grammar}, kin left right → left.kind = .imported target →
    registry.lookup? target.grammar = some grammar → grammar.Allied kin grammar

namespace Parse

variable {Value Result View : Type} {environment : Environment} {left right : State}

/-! ### States and outcomes -/

/-- Two states are the same, but for the grammar and the rules in the tree, which are related. -/
structure State.Twins (kin : Rule → Rule → Prop) (left right : State) : Prop where
  grammar : left.grammar.Allied kin right.grammar
  tree : left.tree.Paired kin right.tree
  right_eq : right = { left with grammar := right.grammar, tree := right.tree }

/-- Two outcomes are the same, but for the states, which are twins. -/
inductive Outcome.Twins (kin : Rule → Rule → Prop) : Outcome Value → Outcome Value → Prop where
  | done (value : Value) {left right : State} (twins : left.Twins kin right) :
    Twins kin (.done value left) (.done value right)
  | aborted (error : ParseError) {left right : State} (twins : left.Twins kin right) :
    Twins kin (.aborted error left) (.aborted error right)
  | exhausted : Twins kin .exhausted .exhausted

namespace State.Twins

/-- Twins look the same to whatever looks neither at the grammar nor at the tree. -/
theorem view_eq (twins : left.Twins kin right) (view : State → View)
    (blind : ∀ (state : State) grammar tree, view { state with grammar, tree } = view state) :
    view right = view left := by
  rw [twins.right_eq, blind]

/-- Twins stay so after a change that looks neither at the grammar nor at the tree. -/
theorem change (twins : left.Twins kin right) {update : State → State}
    (blind : ∀ (state : State) grammar tree,
      update { state with grammar, tree } = { update state with grammar, tree }) :
    (update left).Twins kin (update right) := by
  have kept : ∀ state : State, (update state).grammar = state.grammar ∧
      (update state).tree = state.tree := by
    intro state
    have same : update state =
        { update state with grammar := state.grammar, tree := state.tree } :=
      blind state state.grammar state.tree
    rw [same]
    exact ⟨rfl, rfl⟩
  refine ⟨?_, ?_, ?_⟩
  · rw [(kept left).1, (kept right).1]
    exact twins.grammar
  · rw [(kept left).2, (kept right).2]
    exact twins.tree
  · rw [(kept right).1, (kept right).2, ← blind, ← twins.right_eq]

/-- Twins stay so after the same change of the tree. -/
theorem changeTree (twins : left.Twins kin right) {tree tree' : Tree}
    (paired : tree.Paired kin tree') :
    State.Twins kin { left with tree } { right with tree := tree' } where
  grammar := twins.grammar
  tree := paired
  right_eq := by
    rw [twins.right_eq]

theorem changeGrammar (twins : left.Twins kin right) {grammar grammar' : Grammar}
    (allied : grammar.Allied kin grammar') :
    State.Twins kin { left with grammar } { right with grammar := grammar' } where
  grammar := allied
  tree := twins.tree
  right_eq := by
    rw [twins.right_eq]

end State.Twins

theorem Outcome.Twins.mapState {outcome outcome' : Outcome Value}
    (twins : Outcome.Twins kin outcome outcome') {update update' : State → State}
    (change : ∀ left right : State, left.Twins kin right →
      (update left).Twins kin (update' right)) :
    Outcome.Twins kin (outcome.mapState update) (outcome'.mapState update') := by
  cases twins with
  | done value twins => exact .done value (change _ _ twins)
  | aborted error twins => exact .aborted error (change _ _ twins)
  | exhausted => exact .exhausted

/-! ### Steps -/

/-- Two steps come to the same, one of them from each twin. -/
def Parallel (kin : Rule → Rule → Prop) (step step' : Step Value) : Prop :=
  ∀ left right, left.Twins kin right →
    Outcome.Twins kin (step left).outcome (step' right).outcome

/-- A step comes to the same from twins. -/
abbrev Impartial (kin : Rule → Rule → Prop) (step : Step Value) : Prop :=
  Parallel kin step step

namespace Parallel

theorem pure (value : Value) : Impartial kin (Pure.pure value : Step Value) :=
  fun _ _ twins => .done value twins

theorem exhausted : Impartial kin (Step.exhausted : Step Value) :=
  fun _ _ _ => .exhausted

theorem note {happening happening' : Happening} :
    Parallel kin (Step.note happening) (Step.note happening') :=
  fun _ _ twins => .done () twins

theorem bind {first first' : Step Value} {second second' : Value → Step Result}
    (parallel : Parallel kin first first')
    (rest : ∀ value, Parallel kin (second value) (second' value)) :
    Parallel kin (first >>= second) (first' >>= second') := by
  intro left right twins
  have met := parallel left right twins
  generalize ended : (first left).outcome = outcome at met
  generalize ended' : (first' right).outcome = outcome' at met
  cases met with
  | done value twins =>
    rw [(Step.bind_of_done second ended).1, (Step.bind_of_done second' ended').1]
    exact rest value _ _ twins
  | aborted error twins =>
    rw [(Step.bind_of_aborted second ended).1, (Step.bind_of_aborted second' ended').1]
    exact .aborted error twins
  | exhausted =>
    rw [(Step.bind_of_exhausted second ended).1, (Step.bind_of_exhausted second' ended').1]
    exact .exhausted

/-- What is read off the two sides may be related in any way. -/
theorem readRelated {view : State → View} {relate : View → View → Prop}
    {second second' : View → Step Value}
    (related : ∀ left right : State, left.Twins kin right → relate (view left) (view right))
    (rest : ∀ value value', relate value value' → Parallel kin (second value) (second' value')) :
    Parallel kin (Step.read view >>= second) (Step.read view >>= second') := by
  intro left right twins
  rw [Step.outcome_read_bind, Step.outcome_read_bind]
  exact rest _ _ (related left right twins) left right twins

theorem read {view view' : State → View}
    (same : ∀ left right : State, left.Twins kin right → view' right = view left) :
    Parallel kin (Step.read view) (Step.read view') := by
  intro left right twins
  show Outcome.Twins kin (.done (view left) left) (.done (view' right) right)
  rw [same left right twins]
  exact .done _ twins

/-- Something is read that depends neither on the grammar nor on the tree. -/
theorem readBlind {view : State → View}
    (blind : ∀ (state : State) grammar tree, view { state with grammar, tree } = view state) :
    Impartial kin (Step.read view) :=
  read fun _ _ twins => twins.view_eq view blind

theorem stop (id : Nat) : Impartial kin (Step.stop id) :=
  read fun _ _ twins => twins.tree.stop_eq id

theorem change {update update' : State → State}
    (change : ∀ left right : State, left.Twins kin right →
      (update left).Twins kin (update' right)) :
    Parallel kin (Step.change update) (Step.change update') :=
  fun left right twins => .done () (change left right twins)

/-- A change is made that has nothing to do with the grammar and the tree. -/
theorem changeBlind {update : State → State} (blind : ∀ (state : State) grammar tree,
    update { state with grammar, tree } = { update state with grammar, tree }) :
    Impartial kin (Step.change update) :=
  change fun _ _ twins => twins.change blind

theorem changeTree {update update' : Tree → Tree}
    (paired : ∀ left right : Tree, left.Paired kin right →
      (update left).Paired kin (update' right)) :
    Parallel kin (Step.changeTree update) (Step.changeTree update') :=
  change fun _ _ twins => twins.changeTree (paired _ _ twins.tree)

theorem ensuring {update update' : State → State} {body body' : Step Value}
    (change : ∀ left right : State, left.Twins kin right → (update left).Twins kin (update' right))
    (inner : Parallel kin body body') :
    Parallel kin (Step.ensuring update body) (Step.ensuring update' body') :=
  fun left right twins => (inner left right twins).mapState change

theorem ensuringBlind {update : State → State} {body body' : Step Value}
    (blind : ∀ (state : State) grammar tree,
      update { state with grammar, tree } = { update state with grammar, tree })
    (inner : Parallel kin body body') :
    Parallel kin (Step.ensuring update body) (Step.ensuring update body') :=
  ensuring (fun _ _ twins => twins.change blind) inner

/-- A parse is given up with the same failure. -/
theorem abort (cause : FailureCause) :
    Impartial kin (Parse.abort environment cause : Step Value) := by
  intro left right twins
  have abortion_eq : right.abortion environment cause = left.abortion environment cause := by
    rw [State.abortion, State.abortion, twins.tree.stop_eq,
      twins.view_eq (·.diagnostics) fun _ _ _ => rfl, twins.view_eq (·.stack) fun _ _ _ => rfl]
  show Outcome.Twins kin (.aborted (left.abortion environment cause) left)
    (.aborted (right.abortion environment cause) right)
  rw [abortion_eq]
  exact .aborted _ twins

end Parallel

end Parse

end Rulebook
