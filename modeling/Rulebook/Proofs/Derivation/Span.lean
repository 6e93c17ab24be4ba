/-
This file reads the rules of a grammar as a context-free language. A name spans a stretch of the
input if its rule is a token that matches there, or if the rule admits names that span stretches
one after another; the whitespace after a stretch belongs to it. Whatever a parse finds for a
name is a stretch that the name spans, whichever rules are above. The converse does not hold,
since the order of alternatives and the guards of operators are left out of account.

Lists, sets and imports are not considered here.
-/

import Rulebook.Proofs.Grammar.References
import Rulebook.Proofs.Parse.Request
import Rulebook.Proofs.Recognition.Following

namespace Rulebook

/-! ### The language of a grammar -/

/-- Names are those of the items of a sequence, in order. Items that are not required may be
missing. -/
def SequenceItem.Admits : List SequenceItem → List String → Prop
  | [], names => names = []
  | item :: rest, names =>
    (∃ later, names = item.rule :: later ∧ Admits rest later) ∨
      (item.required = false ∧ Admits rest names)

/-- If all items are required, the names are their own. -/
theorem SequenceItem.eq_of_admits {items : List SequenceItem} {names : List String}
    (required : ∀ item ∈ items, item.required = true) (admits : Admits items names) :
    names = items.map (·.rule) := by
  induction items generalizing names with
  | nil => exact admits
  | cons item rest inductionHypothesis =>
    obtain ⟨here, later⟩ := List.forall_mem_cons.mp required
    rcases admits with ⟨others, rfl, admits⟩ | ⟨missing, -⟩
    · rw [inductionHypothesis later admits]
      rfl
    · rw [here] at missing
      cases missing

/-- The names that a number of rounds of an operator ask for. -/
def OperatorRule.asked (rule : OperatorRule) : Nat → List String
  | 0 => []
  | rounds + 1 => rule.operator :: rule.operand :: rule.asked rounds

/-- A rule of this kind can be matched by names in order. -/
def RuleKind.Admits : RuleKind → List String → Prop
  | .sequence items, names => SequenceItem.Admits items names
  | .choice rule, names => ∃ name ∈ rule.alternatives, names = [name]
  | .operator rule, names => ∃ rounds, names = rule.operand :: rule.asked rounds
  | _, _ => False

/-- Rules of this kind are tokens, sequences, choices or operators. -/
def RuleKind.isSimple : RuleKind → Bool
  | .token _ | .sequence _ | .choice _ | .operator _ => true
  | _ => false

namespace Parse

open Match (Origin Tree)
open Recognition (afterBlanks accept)

/-- Names span stretches that follow one another. -/
def Path (spans : String → Nat → Nat → Prop) : List String → Nat → Nat → Prop
  | [], start, stop => stop = start
  | name :: rest, start, stop => ∃ middle, spans name start middle ∧ Path spans rest middle stop

/-- A rule reaches from one offset to another, without the whitespace after it. -/
def Reaches (source : Source) (spans : String → Nat → Nat → Prop) (rule : Rule)
    (start stop : Nat) : Prop :=
  (∃ token length, rule.token? = some token ∧ token.matchAt? source start = some length ∧
    stop = start + length) ∨
  ∃ names, rule.kind.Admits names ∧ Path spans names start stop

/-- A name spans a stretch, looking a number of rules down. -/
def Spans (source : Source) (grammar : Grammar) : Nat → String → Nat → Nat → Prop
  | 0, _, _, _ => False
  | depth + 1, name, start, stop => ∃ rule inner, grammar.rule? name = some rule ∧
    Reaches source (Spans source grammar depth) rule start inner ∧
      stop = afterBlanks source grammar inner

variable {Value Result : Type} {environment : Environment} {grammar : Grammar}
  {spans : String → Nat → Nat → Prop} {consume : Consume} {excused : Nat → Prop}
  {state last after : State} {node parent offset : Nat} {rule : Rule} {name : String}

/-! ### What a parse finds -/

/-- A way of matching rules that can be relied on, and that finds what names span. -/
structure Finds (environment : Environment) (grammar : Grammar)
    (spans : String → Nat → Nat → Prop) (consume : Consume) : Prop where
  reliable : Reliable environment grammar (fun _ => True) consume
  finds : ∀ node name state after, Ready environment grammar node state →
    state.grammar = grammar → (consume node name state).outcome = .done true after →
      spans name (state.tree.stop node) (after.tree.stop node)

/-- A request that is done has found a stretch and goes on behind it, or stays where it was. -/
theorem Finds.request (finds : Finds environment grammar spans consume)
    (here : Situated environment grammar grammar node offset state) {matched : Bool}
    (done : (consume node name state).outcome = .done matched after) :
    (matched = true ∧ ∃ stop, spans name offset stop ∧
        Situated environment grammar grammar node stop after) ∨
      (matched = false ∧ Situated environment grammar grammar node offset after) := by
  have answered := (finds.reliable node name state here.toReady).returns matched after done
  cases matched with
  | true =>
    have spanned := finds.finds node name state after here.toReady here.grammar_eq done
    rw [here.stop_eq] at spanned
    exact .inl ⟨rfl, _, spanned,
      here.working ((Working.refl here.toReady).answered answered) rfl⟩
  | false => exact .inr ⟨rfl, here.still ⟨answered.toKept, answered.restored rfl⟩⟩

section

variable (finds : Finds environment grammar spans consume)
  (here : Situated environment grammar grammar node offset state)
include finds here

theorem path_performSequence {index : Nat} {items : List SequenceItem}
    (done : (performSequence environment consume node index items state).outcome =
      .done true after) :
    ∃ names, SequenceItem.Admits items names ∧ Path spans names offset (after.tree.stop node) := by
  induction items generalizing index offset state with
  | nil =>
    cases done
    exact ⟨[], rfl, here.stop_eq⟩
  | cons item rest inductionHypothesis =>
    obtain ⟨noted, set, there⟩ := here.setAlternative index
    rw [performSequence, (Step.bind_of_done _ set).1] at done
    obtain ⟨matched, next, asked, done⟩ := Step.done_of_bind done
    rcases finds.request there asked with ⟨rfl, stop, spanned, further⟩ | ⟨rfl, unmoved⟩
    · rw [if_pos rfl] at done
      obtain ⟨names, admits, path⟩ := inductionHypothesis further done
      exact ⟨item.rule :: names, .inl ⟨names, rfl, admits⟩, stop, spanned, path⟩
    · rw [if_neg Bool.false_ne_true] at done
      cases required : item.required with
      | true =>
        rw [required, if_pos rfl] at done
        cases done
      | false =>
        rw [required, if_neg Bool.false_ne_true] at done
        obtain ⟨left, leaves, leftOut⟩ := unmoved.leaveOut item.rule
        rw [(Step.bind_of_done _ leaves).1] at done
        obtain ⟨names, admits, path⟩ := inductionHypothesis leftOut done
        exact ⟨names, .inr ⟨required, admits⟩, path⟩

theorem path_performChoice {index : Nat} {alternatives : List String}
    (done : (performChoice consume node index alternatives state).outcome = .done true after) :
    ∃ name ∈ alternatives, Path spans [name] offset (after.tree.stop node) := by
  induction alternatives generalizing index state with
  | nil => cases done
  | cons alternative rest inductionHypothesis =>
    obtain ⟨noted, set, there⟩ := here.setAlternative index
    rw [performChoice, (Step.bind_of_done _ set).1] at done
    obtain ⟨matched, next, asked, done⟩ := Step.done_of_bind done
    rcases finds.request there asked with ⟨rfl, stop, spanned, further⟩ | ⟨rfl, unmoved⟩
    · rw [if_pos rfl] at done
      cases done
      exact ⟨alternative, List.mem_cons_self, stop, spanned, further.stop_eq⟩
    · rw [if_neg Bool.false_ne_true] at done
      obtain ⟨name, member, path⟩ := inductionHypothesis unmoved done
      exact ⟨name, List.mem_cons_of_mem _ member, path⟩

theorem path_operatorRounds {operator : OperatorRule} {budget : Nat}
    (done : (operatorRounds consume operator node budget state).outcome = .done true after) :
    ∃ rounds, Path spans (operator.asked rounds) offset (after.tree.stop node) := by
  induction budget generalizing offset state with
  | zero => cases done
  | succ budget inductionHypothesis =>
    rw [operatorRounds] at done
    obtain ⟨matched, next, asked, done⟩ := Step.done_of_bind done
    rcases finds.request here asked with ⟨rfl, middle, sign, there⟩ | ⟨rfl, unmoved⟩
    · rw [if_pos rfl] at done
      obtain ⟨matched, next, asked, done⟩ := Step.done_of_bind done
      rcases finds.request there asked with ⟨rfl, stop, operand, further⟩ | ⟨rfl, unmoved⟩
      · obtain ⟨rounds, path⟩ := inductionHypothesis further done
        exact ⟨rounds + 1, middle, sign, stop, operand, path⟩
      · cases done
    · cases done
      exact ⟨0, unmoved.stop_eq⟩

theorem path_performOperator {operator : OperatorRule} {budget : Nat}
    (done : (performOperator consume budget rule operator node state).outcome =
      .done true after) :
    ∃ rounds, Path spans (operator.operand :: operator.asked rounds) offset
      (after.tree.stop node) := by
  rw [performOperator, Step.outcome_read_bind] at done
  split at done
  · cases done
  · obtain ⟨matched, next, asked, done⟩ := Step.done_of_bind done
    rcases finds.request here asked with ⟨rfl, stop, operand, there⟩ | ⟨rfl, -⟩
    · obtain ⟨rounds, path⟩ := path_operatorRounds finds there done
      exact ⟨rounds, stop, operand, path⟩
    · cases done

/-- A rule that matches at a node reaches where the node ends. -/
theorem reaches_perform (simple : rule.kind.isSimple = true) {budget : Nat}
    (done : (perform environment consume budget rule node state).outcome = .done true after) :
    Reaches environment.source spans rule offset (after.tree.stop node) := by
  cases kind : rule.kind with
  | token token =>
    have isToken : rule.token? = some token := by rw [Rule.token?, kind]
    rw [perform_of_token? isToken, outcome_performToken, here.stop_eq] at done
    cases matched : token.matchAt? environment.source offset with
    | none =>
      rw [matched] at done
      cases done
    | some length =>
      rw [matched] at done
      cases done
      refine .inl ⟨token, length, isToken, matched, ?_⟩
      dsimp only
      rw [Tree.stop_matchToken here.tree.rising here.isOpen.inside,
        if_pos (Tree.mem_lineage_self _ _), here.stop_eq]
  | sequence items =>
    rw [perform, kind] at done
    obtain ⟨names, admits, path⟩ := path_performSequence finds here done
    exact .inr ⟨names, by rw [kind]; exact admits, path⟩
  | choice choice =>
    rw [perform, kind] at done
    obtain ⟨name, member, path⟩ := path_performChoice finds here done
    exact .inr ⟨[name], by rw [kind]; exact ⟨name, member, rfl⟩, path⟩
  | operator operator =>
    rw [perform, kind] at done
    obtain ⟨rounds, path⟩ := path_performOperator finds here done
    exact .inr ⟨_, by rw [kind]; exact ⟨rounds, rfl⟩, path⟩
  | _ =>
    rw [kind] at simple
    cases simple

end

/-- A rule that is tried and matches reaches where its parent ends. -/
theorem reaches_attemptWith (faithful : environment.source.Faithful)
    (finds : Finds environment grammar spans consume)
    (here : Situated environment grammar grammar parent offset state)
    (simple : rule.kind.isSimple = true) {budget : Nat}
    (done : (attemptWith rule parent (perform environment consume budget rule) state).outcome =
      .done true after) :
    Reaches environment.source spans rule offset (after.tree.stop parent) ∧
      Situated environment grammar grammar parent (after.tree.stop parent) after := by
  have attached := ready_attach here.toReady (.rule rule)
  have new := Tree.node_attach_new here.isOpen.inside (.rule rule)
  have begun : Situated environment grammar grammar state.tree.size offset
      { state with tree := state.tree.attach parent (.rule rule) } :=
    ⟨attached, here.grammar_eq, (Tree.stop_attach_new here.isOpen.inside).trans here.stop_eq⟩
  have performs := meets_perform faithful finds.reliable budget attached (by rw [new])
    (by rw [new]) (.inl trivial)
  have attempted := (meets_attemptWith here.toReady performs).returns true after done
  rw [attemptWith, Step.outcome_read_bind, Step.changeTree, Step.outcome_change_bind] at done
  obtain ⟨matched, next, performed, done⟩ := Step.done_of_bind done
  cases matched with
  | false => cases done
  | true =>
    cases done
    refine ⟨?_, here.working (attempted.working here.toReady).1 rfl⟩
    rw [(attempted.grown rfl).stop_parent here.tree.rising here.isOpen.inside]
    exact reaches_perform finds begun simple performed

/-- What a request finds for a name is a stretch that the name spans. -/
theorem spans_of_consume (faithful : environment.source.Faithful)
    (forgetful : Forgetful environment)
    (simple : ∀ rule ∈ grammar.rules, rule.kind.isSimple = true) (fuel : Nat) :
    Finds environment grammar (Spans environment.source grammar fuel)
      (Parse.consume environment fuel) := by
  refine ⟨reliable_consume faithful (excuses_always environment grammar) fuel, ?_⟩
  induction fuel with
  | zero => exact fun _ _ _ _ _ _ done => by cases done
  | succ fuel inductionHypothesis =>
    intro node name state after ready same done
    have finds : Finds environment grammar (Spans environment.source grammar fuel)
        (Parse.consume environment fuel) :=
      ⟨reliable_consume faithful (excuses_always environment grammar) fuel, inductionHypothesis⟩
    rw [(consume_succ environment fuel node name state).1] at done
    obtain ⟨next, invoked, rfl⟩ := Outcome.mapState_eq_done.mp done
    cases found : state.grammar.rule? name with
    | none =>
      rw [(invoke_of_absent environment _ node found).1] at invoked
      cases invoked
    | some rule =>
      have entered : Situated environment grammar grammar node (state.tree.stop node)
          (state.entered node name rule) := ⟨ready.entered name rule, same, rfl⟩
      rw [(invoke_of_found environment _ node found).1, pursue, Step.outcome_read_bind] at invoked
      cases limit : exceededLimit? environment (state.entered node name rule) with
      | some limit =>
        rw [limit] at invoked
        cases invoked
      | none =>
        rw [limit] at invoked
        dsimp only at invoked
        obtain ⟨traced, trace, there⟩ := entered.traceAttempt (state.tree.stop node)
          (.tried · · name)
        rw [(Step.bind_of_done _ trace).1] at invoked
        obtain ⟨matched, middle, attempted, settled⟩ := Step.done_of_bind invoked
        rw [outcome_attemptMemoized_of_forgetful forgetful there.toReady] at attempted
        cases matched with
        | false => cases settled
        | true =>
          rw [same] at found
          obtain ⟨reaches, here⟩ := reaches_attemptWith faithful finds there
            (simple rule (Grammar.mem_rules_of_rule? found)) attempted
          obtain ⟨blanked, skip, behind⟩ := here.skipWhitespace faithful forgetful
          rw [if_pos rfl, (Step.bind_of_done _ skip).1] at settled
          obtain ⟨counted, count, behind⟩ := behind.count
            fun statistics => { statistics with found := statistics.found + 1 }
          rw [(Step.bind_of_done _ count).1] at settled
          obtain ⟨last, trace, behind⟩ := behind.traceAttempt (state.tree.stop node)
            (.matched · · name)
          rw [(Step.bind_of_done _ trace).1] at settled
          cases settled
          exact ⟨rule, _, found, reaches, behind.stop_eq⟩

end Parse

end Rulebook
