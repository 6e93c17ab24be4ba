/-
This file is about what work at a node keeps. A rule works at its node by asking for rules there,
by noting which of its parts it is trying, and by marking items that matched nothing. What these
three keep is therefore kept by rules of every kind, apart from tokens, which ask for nothing, and
imports, which ask in another grammar.

A request for a rule is then taken apart into its stages: the attempt of the rule, and the
whitespace that is skipped after a match. Between the stages the books are kept, which concerns
neither the tree nor the memo.
-/

import Rulebook.Proofs.Grammar.References
import Rulebook.Proofs.Parse.Request

namespace Rulebook.Parse

open Match (Tree)

variable {Value Result : Type} {environment : Environment} {consume : Consume}
  {property : State → Prop} {state before middle after : State} {node parent : Nat} {rule : Rule}
  {name : String} {matched : Bool}

/-! ### Steps that keep a property -/

namespace Step

/-- A compound step passes through the moments of its first part. -/
theorem moments_first_subset (first : Step Value) (second : Value → Step Result) (state : State) :
    (first state).trail.moments ⊆ ((first >>= second) state).trail.moments := by
  cases ended : (first state).outcome with
  | done value next =>
    rw [(bind_of_done second ended).2]
    exact List.subset_append_left _ _
  | aborted error next =>
    rw [(bind_of_aborted second ended).2]
    exact List.Subset.refl _
  | exhausted =>
    rw [(bind_of_exhausted second ended).2]
    exact List.Subset.refl _

/-- A compound step passes through the moments of its second part, if the first part is done. -/
theorem moments_second_subset {first : Step Value} (second : Value → Step Result) {value : Value}
    (done : (first state).outcome = .done value middle) :
    (second value middle).trail.moments ⊆ ((first >>= second) state).trail.moments := by
  rw [(bind_of_done second done).2]
  exact List.subset_append_right _ _

/-- If a step returns, then a property of the state has been kept. -/
def Keeps (property : State → Prop) (step : Step Value) : Prop :=
  ∀ state value after, property state → (step state).outcome = .done value after → property after

/-- From a state with a property a step passes through proper moments only, and if it returns, then
the property has been kept. -/
def Upholds (always : Moment → Prop) (property : State → Prop) (step : Step Value) : Prop :=
  ∀ state, property state → (step state).Meets always True fun _ after => property after

theorem Keeps.upholds {step : Step Value} (keeps : Keeps property step) :
    Upholds (fun _ => True) property step := fun state holds =>
  (Run.meets_trivial (step state)).and_done.imp fun value after ended =>
    keeps state value after holds ended.2

namespace Upholds

variable {always : Moment → Prop}

theorem keeps {step : Step Value} (upholds : Upholds always property step) :
    Keeps property step :=
  fun state value after holds done => (upholds state holds).returns value after done

theorem pure (value : Value) : Upholds always property (Pure.pure value : Step Value) :=
  fun _ holds => meets_pure holds

theorem read (view : State → Value) : Upholds always property (Step.read view) :=
  fun _ holds => meets_read holds

theorem exhausted : Upholds always property (Step.exhausted : Step Value) :=
  fun _ _ => meets_exhausted trivial

theorem bind {first : Step Value} {second : Value → Step Result}
    (left : Upholds always property first)
    (right : ∀ value, Upholds always property (second value)) :
    Upholds always property (first >>= second) :=
  fun state holds => (left state holds).bind fun value next kept => right value next kept

end Upholds

end Step

/-! ### Work at a node -/

/-- What rules keep that work at a node. -/
structure KeptAt (environment : Environment) (consume : Consume) (node : Nat)
    (property : State → Prop) : Prop where
  asking : ∀ name, Step.Keeps property (consume node name)
  noting : ∀ index, Step.Keeps property (Step.setAlternative index)
  leaving : ∀ name, Step.Keeps property (leaveOut environment node name)

/-- What rules uphold that work at a node. A parse may end at any time. -/
structure UpheldAt (environment : Environment) (consume : Consume) (node : Nat)
    (always : Moment → Prop) (property : State → Prop) : Prop where
  asking : ∀ name, Step.Upholds always property (consume node name)
  noting : ∀ index, Step.Upholds always property (Step.setAlternative index)
  leaving : ∀ name, Step.Upholds always property (leaveOut environment node name)
  ending : ∀ state, property state → always ⟨.changed, state⟩

namespace UpheldAt

variable {always : Moment → Prop}
  (upheld : UpheldAt environment consume node always property)
include upheld

theorem consumeOptional (asked : Option String) (otherwise : Bool) :
    Step.Upholds always property (consumeOptional consume node asked otherwise) := by
  cases asked with
  | none => exact .pure otherwise
  | some name => exact upheld.asking name

theorem performSequence (index : Nat) (items : List SequenceItem) :
    Step.Upholds always property (performSequence environment consume node index items) := by
  induction items generalizing index with
  | nil => exact .pure true
  | cons item rest inductionHypothesis =>
    refine (upheld.noting index).bind fun _ => (upheld.asking item.rule).bind fun matched => ?_
    cases matched with
    | true => exact inductionHypothesis (index + 1)
    | false =>
      cases item.required with
      | true => exact .pure false
      | false => exact (upheld.leaving item.rule).bind fun _ => inductionHypothesis (index + 1)

theorem performChoice (index : Nat) (alternatives : List String) :
    Step.Upholds always property (performChoice consume node index alternatives) := by
  induction alternatives generalizing index with
  | nil => exact .pure false
  | cons alternative rest inductionHypothesis =>
    refine (upheld.noting index).bind fun _ => (upheld.asking alternative).bind fun matched => ?_
    cases matched with
    | true => exact .pure true
    | false => exact inductionHypothesis (index + 1)

theorem listRounds (name : String) (list : ListRule) (budget round : Nat) (last : Option Nat) :
    Step.Upholds always property
      (listRounds environment consume name list node budget round last) := by
  induction budget generalizing round last with
  | zero => exact .exhausted
  | succ budget inductionHypothesis =>
    refine (upheld.consumeOptional list.separator true).bind fun separated => ?_
    cases separated with
    | false => exact upheld.consumeOptional list.closing true
    | true =>
      refine (Step.Upholds.read _).bind fun position => ?_
      cases last.any (position ≤ ·) with
      | true => exact fun state holds => meets_abort (upheld.ending state holds)
      | false =>
        refine (upheld.noting (round + 1)).bind fun _ =>
          (upheld.consumeOptional list.closing false).bind fun closed => ?_
        cases closed with
        | true => exact .pure _
        | false =>
          refine (upheld.asking list.item).bind fun matched => ?_
          cases matched with
          | true => exact inductionHypothesis (round + 1) (some position)
          | false => exact .pure _

theorem performList (budget : Nat) (name : String) (list : ListRule) :
    Step.Upholds always property (performList environment consume budget name list node) := by
  refine (upheld.consumeOptional list.opening true).bind fun opened => ?_
  cases opened with
  | false => exact .pure false
  | true =>
    refine (upheld.consumeOptional list.closing false).bind fun closed => ?_
    cases closed with
    | true => exact .pure _
    | false =>
      refine (upheld.asking list.item).bind fun matched => ?_
      cases matched with
      | true => exact upheld.listRounds name list budget 0 none
      | false => exact .pure _

theorem firstMatch (items : List (Nat × String)) :
    Step.Upholds always property (firstMatch consume node items) := by
  induction items with
  | nil => exact .pure none
  | cons item rest inductionHypothesis =>
    refine (upheld.noting item.1).bind fun _ => (upheld.asking item.2).bind fun matched => ?_
    cases matched with
    | true => exact .pure _
    | false => exact inductionHypothesis

theorem setRounds (set : SetRule) (rounds : Nat) (available : List (Nat × String))
    (pending : Bool) :
    Step.Upholds always property (setRounds consume set node rounds available pending) := by
  induction rounds generalizing available pending with
  | zero => exact .pure pending
  | succ rounds inductionHypothesis =>
    refine (upheld.firstMatch available).bind fun matched => ?_
    cases matched with
    | none => exact .pure pending
    | some index =>
      cases set.separator with
      | none => exact inductionHypothesis _ false
      | some separator =>
        refine (upheld.asking separator).bind fun separated => ?_
        cases separated with
        | true => exact inductionHypothesis _ true
        | false => exact .pure false

theorem performSet (set : SetRule) :
    Step.Upholds always property (performSet consume set node) := by
  refine (upheld.consumeOptional set.opening true).bind fun opened => ?_
  cases opened with
  | false => exact .pure false
  | true =>
    refine (upheld.setRounds set _ _ false).bind fun pending => ?_
    cases pending with
    | true => exact .pure false
    | false => exact upheld.consumeOptional set.closing true

theorem operatorRounds (operator : OperatorRule) (budget : Nat) :
    Step.Upholds always property (operatorRounds consume operator node budget) := by
  induction budget with
  | zero => exact .exhausted
  | succ budget inductionHypothesis =>
    refine (upheld.asking operator.operator).bind fun signed => ?_
    cases signed with
    | false => exact .pure true
    | true =>
      refine (upheld.asking operator.operand).bind fun matched => ?_
      cases matched with
      | true => exact inductionHypothesis
      | false => exact .pure false

theorem performOperator (budget : Nat) (self : Rule) (operator : OperatorRule) :
    Step.Upholds always property (performOperator consume budget self operator node) := by
  refine (Step.Upholds.read _).bind fun repeating => ?_
  cases repeating with
  | true => exact .pure false
  | false =>
    refine (upheld.asking operator.operand).bind fun matched => ?_
    cases matched with
    | true => exact upheld.operatorRounds operator budget
    | false => exact .pure false

/-- What the steps at a node uphold is upheld by any rule that works there with them alone. -/
theorem perform (budget : Nat) (notToken : rule.isToken = false)
    (notImport : rule.isImport = false) :
    Step.Upholds always property (perform environment consume budget rule node) := by
  unfold Parse.perform
  cases kind : rule.kind with
  | token token =>
    rw [Rule.isToken, Rule.token?, kind] at notToken
    cases notToken
  | sequence items => exact upheld.performSequence 0 items
  | choice choice => exact upheld.performChoice 0 choice.alternatives
  | list list => exact upheld.performList budget rule.name list
  | set set => exact upheld.performSet set
  | operator operator => exact upheld.performOperator budget rule operator
  | imported target =>
    rw [Rule.isImport, kind] at notImport
    cases notImport

end UpheldAt

/-- So it is with what the steps keep when they return. -/
theorem KeptAt.perform (kept : KeptAt environment consume node property) (budget : Nat)
    (notToken : rule.isToken = false) (notImport : rule.isImport = false) :
    Step.Keeps property (perform environment consume budget rule node) := by
  have upheld : UpheldAt environment consume node (fun _ => True) property :=
    ⟨fun name => (kept.asking name).upholds, fun index => (kept.noting index).upholds,
      fun name => (kept.leaving name).upholds, fun _ _ => trivial⟩
  exact (upheld.perform budget notToken notImport).keeps

/-! ### The stages of a request -/

/-- A state differs from another in its books alone. -/
structure SameBut (before after : State) : Prop where
  tree_eq : after.tree = before.tree
  grammar_eq : after.grammar = before.grammar
  memo_eq : after.memo = before.memo

namespace SameBut

theorem trans (left : SameBut before middle) (right : SameBut middle after) :
    SameBut before after :=
  ⟨right.tree_eq.trans left.tree_eq, right.grammar_eq.trans left.grammar_eq,
    right.memo_eq.trans left.memo_eq⟩

theorem ready (same : SameBut before after) {first : Grammar}
    (ready : Ready environment first node before) : Ready environment first node after where
  tree := by
    rw [same.tree_eq]
    exact ready.tree
  grammar := by
    rw [same.grammar_eq]
    exact ready.grammar
  memoizing := by
    rw [same.memo_eq]
    exact ready.memoizing
  memo := by
    rw [same.memo_eq]
    exact ready.memo
  isOpen := by
    rw [same.tree_eq]
    exact ready.isOpen

end SameBut

theorem sameBut_of_traceAttempt {offset : Nat} {event : Position → Nat → Log.Event}
    (done : (traceAttempt environment offset event state).outcome = .done () after) :
    SameBut state after := by
  rw [traceAttempt] at done
  cases tracing : environment.tracing with
  | false =>
    rw [tracing] at done
    cases done
    exact ⟨rfl, rfl, rfl⟩
  | true =>
    rw [tracing] at done
    cases done
    exact ⟨rfl, rfl, rfl⟩

theorem sameBut_of_setAlternative {index : Nat}
    (done : (Step.setAlternative index state).outcome = .done () after) :
    SameBut state after := by
  cases done
  exact ⟨rfl, rfl, rfl⟩

/-- A missing item is marked, and nothing else is done but to keep the books. -/
theorem sameBut_of_leaveOut
    (done : (leaveOut environment node name state).outcome = .done () after) :
    SameBut { state with tree := state.tree.attach node (.lambda name) } after := by
  rw [leaveOut, Step.changeTree, Step.outcome_change_bind] at done
  cases tracing : environment.tracing with
  | false =>
    rw [tracing] at done
    cases done
    exact ⟨rfl, rfl, rfl⟩
  | true =>
    rw [tracing] at done
    cases done
    exact ⟨rfl, rfl, rfl⟩

/-- Once the attempt of a rule has been noted, the rule is tried within the limit, and whitespace
is skipped after a match. -/
theorem stages_of_pursue {attempt : Rule → Nat → Step Bool} {offset : Nat}
    (done : (pursue environment attempt node name offset rule state).outcome =
      .done matched after) :
    ∃ entered middle, SameBut state entered ∧
      (attemptMemoized rule node (attempt rule node) entered).outcome = .done matched middle ∧
      (attemptMemoized rule node (attempt rule node) entered).trail.moments ⊆
        (pursue environment attempt node name offset rule state).trail.moments ∧
      (matched = false → SameBut middle after) ∧
      (matched = true → ∃ skipped,
        (skipWhitespace environment node middle).outcome = .done () skipped ∧
          SameBut skipped after) := by
  rw [pursue, Step.outcome_read_bind] at done
  cases limit : exceededLimit? environment state with
  | some limit =>
    rw [limit] at done
    cases done
  | none =>
    rw [limit] at done
    dsimp only at done
    obtain ⟨_, entered, tracing, done⟩ := Step.done_of_bind done
    obtain ⟨answer, middle, attempted, settled⟩ := Step.done_of_bind done
    have within : (attemptMemoized rule node (attempt rule node) entered).trail.moments ⊆
        (pursue environment attempt node name offset rule state).trail.moments := by
      rw [pursue, Step.moments_read_bind, limit]
      refine List.Subset.trans ?_ (Step.moments_second_subset _ tracing)
      exact Step.moments_first_subset _ _ entered
    refine ⟨entered, middle, sameBut_of_traceAttempt tracing, ?_⟩
    cases answer with
    | false =>
      cases settled
      exact ⟨attempted, within, fun _ => ⟨rfl, rfl, rfl⟩, fun absurd => by cases absurd⟩
    | true =>
      obtain ⟨_, skipped, skipping, settled⟩ := Step.done_of_bind settled
      obtain ⟨_, counted, counting, settled⟩ := Step.done_of_bind settled
      obtain ⟨_, traced, noting, settled⟩ := Step.done_of_bind settled
      have counted_same : SameBut skipped counted := by
        cases counting
        exact ⟨rfl, rfl, rfl⟩
      have books : SameBut skipped traced := counted_same.trans (sameBut_of_traceAttempt noting)
      cases settled
      exact ⟨attempted, within, fun absurd => (by cases absurd),
        fun _ => ⟨skipped, skipping, books⟩⟩

/-- The stages of a request that is done. A rule has been found and tried, and after a match
whitespace has been skipped. -/
structure Stages (environment : Environment) (first : Grammar) (fuel node : Nat) (name : String)
    (state : State) (matched : Bool) (after : State) (rule : Rule) (entered middle : State) :
    Prop where
  found : state.grammar.rule? name = some rule
  noted : SameBut state entered
  ready : Ready environment first node entered
  attempted : (attemptMemoized rule node (attemptWith rule node
    (perform environment (Parse.consume environment fuel) fuel rule)) entered).outcome =
      .done matched middle
  within : (attemptMemoized rule node (attemptWith rule node
    (perform environment (Parse.consume environment fuel) fuel rule)) entered).trail.moments ⊆
      (Parse.consume environment (fuel + 1) node name state).trail.moments
  tried : Tried environment first rule node entered matched middle
  failed : matched = false → SameBut middle after
  succeeded : matched = true → ∃ skipped,
    (skipWhitespace environment node middle).outcome = .done () skipped ∧ SameBut skipped after

theorem exists_stages (faithful : environment.source.Faithful) {first : Grammar} {fuel : Nat}
    (ready : Ready environment first node state)
    (done : (Parse.consume environment (fuel + 1) node name state).outcome =
      .done matched after) :
    ∃ rule entered middle,
      Stages environment first fuel node name state matched after rule entered middle := by
  rw [(consume_succ environment fuel node name state).1] at done
  obtain ⟨last, invoked, rfl⟩ := Outcome.mapState_eq_done.mp done
  have popped : ∀ {earlier}, SameBut earlier last → SameBut earlier last.popped :=
    fun same => same.trans ⟨rfl, rfl, rfl⟩
  cases found : state.grammar.rule? name with
  | none =>
    rw [(invoke_of_absent environment _ node found).1] at invoked
    cases invoked
  | some rule =>
    rw [(invoke_of_found environment _ node found).1] at invoked
    obtain ⟨entered, middle, noted, attempted, within, failed, matched⟩ :=
      stages_of_pursue invoked
    have begun : SameBut state (state.entered node name rule) := ⟨rfl, rfl, rfl⟩
    have there := (begun.trans noted).ready ready
    have known : Known environment first rule := ⟨state.grammar, name, ready.grammar, found⟩
    have tries : Tries environment first entered.grammar (fun _ => True) rule node
        (attemptWith rule node
          (perform environment (Parse.consume environment fuel) fuel rule)) :=
      tries_perform faithful (reliable_consume faithful (excuses_always environment first) fuel)
        _ fuel rule node fun _ => .inl trivial
    refine ⟨rule, entered, middle, found, begun.trans noted, there, attempted,
      fun moment member => ?_,
      (meets_attemptMemoized faithful there known tries).returns _ _ attempted,
      fun failure => popped (failed failure), fun success => ?_⟩
    · rw [(consume_succ environment fuel node name state).2,
        (invoke_of_found environment _ node found).2]
      have later := within member
      simp only [List.mem_cons, List.mem_append]
      exact .inr (.inr (.inl (.inr (.inr later))))
    · obtain ⟨skipped, skipping, settled⟩ := matched success
      exact ⟨skipped, skipping, popped settled⟩

/-- What is done at the node that is attached for a rule is done in the attempt of the rule. -/
theorem moments_attempt_subset (act : Nat → Step Bool) (notToken : rule.isToken = false)
    (state : State) : (act state.tree.size
      { state with tree := state.tree.attach node (.rule rule) }).trail.moments ⊆
        (attemptMemoized rule node (attemptWith rule node act) state).trail.moments := by
  have attempted : (attemptWith rule node act state).trail.moments ⊆
      (attemptMemoized rule node (attemptWith rule node act) state).trail.moments := by
    rw [attemptMemoized, Step.moments_note_bind, Step.moments_read_bind, notToken, Bool.and_false,
      if_neg Bool.false_ne_true]
    exact List.subset_cons_self _ _
  refine List.Subset.trans ?_ attempted
  rw [attemptWith, Step.moments_read_bind, Step.changeTree, Step.moments_change_bind]
  exact List.Subset.trans (Step.moments_first_subset _ _ _) (List.subset_cons_self _ _)

/-- A rule that is no token is tried at a node attached for it, which is detached on failure. -/
theorem attempt_of_done {act : Nat → Step Bool} (notToken : rule.isToken = false)
    (done : (attemptMemoized rule node (attemptWith rule node act) state).outcome =
      .done matched after) :
    ∃ next, (act state.tree.size
        { state with tree := state.tree.attach node (.rule rule) }).outcome =
          .done matched next ∧
      after.memo = next.memo ∧ after.grammar = next.grammar ∧
      (matched = true → after = next) := by
  rw [outcome_attemptMemoized, notToken, Bool.and_false, if_neg Bool.false_ne_true, attemptWith,
    Step.outcome_read_bind, Step.changeTree, Step.outcome_change_bind] at done
  obtain ⟨answer, next, performed, done⟩ := Step.done_of_bind done
  cases answer with
  | false =>
    cases done
    exact ⟨next, performed, rfl, rfl, fun absurd => by cases absurd⟩
  | true =>
    cases done
    exact ⟨after, performed, rfl, rfl, fun _ => rfl⟩

/-- An import skips the whitespace of another grammar and asks there for its rule. -/
theorem import_of_done {first : Grammar} {budget : Nat} (isImport : rule.isImport = true)
    (ready : Ready environment first node state)
    (done : (perform environment consume budget rule node state).outcome =
      .done matched after) :
    ∃ grammar name skipped next, Ready environment first node { state with grammar } ∧
      (skipWhitespace environment node { state with grammar }).outcome = .done () skipped ∧
      (consume node name skipped).outcome = .done matched next ∧
      after = { next with grammar := state.grammar } := by
  cases kind : rule.kind with
  | imported target =>
    rw [perform, kind] at done
    dsimp only at done
    rw [performImport] at done
    cases found : environment.registry.lookup? target.grammar with
    | none =>
      rw [found] at done
      cases done
    | some grammar =>
      rw [found] at done
      obtain ⟨next, inner, restored⟩ := Step.done_of_withGrammar done
      obtain ⟨_, skipped, skipping, asking⟩ := Step.done_of_bind inner
      exact ⟨grammar, target.rule, skipped, next,
        ⟨⟨ready.tree, .inr ⟨_, found⟩, ready.memoizing, ready.memo⟩, ready.isOpen⟩,
        skipping, asking, restored⟩
  | _ =>
    rw [Rule.isImport, kind] at isImport
    cases isImport

end Rulebook.Parse
