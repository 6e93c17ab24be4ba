/-
This file takes two parses through the seven kinds of rules whose grammars have the same rules
in other editions. Each step comes to the same on both sides, whatever the state is that they
begin in; in the end so does the operation that matches a rule by its name.

An operator is the only one to look at editions. It searches the nodes above it for itself, and
these nodes are the same on both sides but for the rules they are of.
-/

import Rulebook.Proofs.Editions.Kinship

namespace Rulebook.Parse

open Match (Origin Tree)

variable {kin : Rule → Rule → Prop} {environment : Environment} {rule rule' : Rule}

/-! ### Tokens and whitespace -/

theorem parallel_attemptWith (related : kin rule rule') (parent : Nat)
    {perform perform' : Nat → Step Bool}
    (performs : ∀ node, Parallel kin (perform node) (perform' node)) :
    Parallel kin (attemptWith rule parent perform) (attemptWith rule' parent perform') := by
  refine (Parallel.read fun _ _ twins => twins.tree.size_eq).bind fun node => ?_
  refine (Parallel.changeTree fun _ _ paired => paired.attach parent (.rule related)).bind
    fun _ => ?_
  refine (performs node).bind fun matched => ?_
  cases matched with
  | true => exact .pure _
  | false =>
    exact (Parallel.changeTree fun _ _ paired => paired.discardLast parent).bind fun _ => .pure _

theorem impartial_performToken (token : TokenRule) (node : Nat) :
    Impartial kin (performToken environment token node) := by
  refine (Parallel.stop node).bind fun offset => ?_
  cases token.matchAt? environment.source offset with
  | none => exact .pure _
  | some length =>
    exact (Parallel.changeTree fun _ _ paired => paired.matchToken node length).bind
      fun _ => .pure _

theorem impartial_consult (key : MemoKey) : Impartial kin (consult key) := by
  intro left right twins
  have memo_eq : right.memo = left.memo := twins.view_eq (·.memo) fun _ _ _ => rfl
  rw [consult, consult, memo_eq]
  cases left.memo with
  | none => exact .done none twins
  | some memo =>
    let update : State → State := fun state => { state with memo := some (memo.lookup key).2 }
    have counted : (update left).Twins kin (update right) := twins.change fun _ _ _ => rfl
    exact .done (memo.lookup key).1 counted

/-- What the latest child of a node took is the same on both sides. -/
theorem lastConsumed_eq {left right : Tree} (paired : left.Paired kin right) (parent : Nat) :
    lastConsumed right parent = lastConsumed left parent := by
  rw [lastConsumed, lastConsumed, paired.children_eq]
  cases (left.node parent).children.back? with
  | none => rfl
  | some child => exact congrArg some (paired.consumed_eq child)

theorem parallel_attemptMemoized (kinship : Kinship environment.registry kin)
    (related : kin rule rule') (parent : Nat) {attempt attempt' : Step Bool}
    (attempts : Parallel kin attempt attempt') :
    Parallel kin (attemptMemoized rule parent attempt) (attemptMemoized rule' parent attempt') := by
  have isToken_eq : rule'.isToken = rule.isToken := by rw [kinship.right_eq related]; rfl
  have grammar_eq : rule'.grammar = rule.grammar := by rw [kinship.right_eq related]
  have name_eq : rule'.name = rule.name := by rw [kinship.right_eq related]
  unfold attemptMemoized
  rw [isToken_eq]
  refine Parallel.note.bind fun _ => ?_
  refine (Parallel.readBlind fun _ _ _ => rfl).bind fun memoizing => ?_
  cases memoizing && rule.isToken with
  | false => exact attempts
  | true =>
    unfold attemptRemembering
    rw [grammar_eq, name_eq]
    refine (Parallel.stop parent).bind fun offset => (impartial_consult _).bind fun known => ?_
    match known with
    | some (some length) =>
      refine (Parallel.read fun _ _ twins => twins.tree.size_eq).bind fun node => ?_
      exact (Parallel.changeTree fun _ _ paired =>
        (paired.attach parent (.rule related)).matchToken node length).bind fun _ => .pure _
    | some none => exact .pure _
    | none =>
      refine attempts.bind fun matched => ?_
      refine (Parallel.read fun _ _ twins => ?_).bind fun outcome =>
        (Parallel.changeBlind fun _ _ _ => rfl).bind fun _ => .pure _
      rw [lastConsumed_eq twins.tree]

theorem parallel_attemptBlank (kinship : Kinship environment.registry kin)
    (related : kin rule rule') (parent : Nat) :
    Parallel kin (attemptBlank environment parent rule)
      (attemptBlank environment parent rule') := by
  have token?_eq : rule'.token? = rule.token? := by rw [kinship.right_eq related]; rfl
  unfold attemptBlank
  rw [token?_eq]
  cases rule.token? with
  | none => exact .pure _
  | some token =>
    exact parallel_attemptMemoized kinship related parent
      (parallel_attemptWith related parent (impartial_performToken token))

theorem parallel_skipOne (kinship : Kinship environment.registry kin) (parent : Nat)
    {tokens tokens' : List Rule} (related : List.Forall₂ kin tokens tokens') :
    Parallel kin (skipOne environment parent tokens) (skipOne environment parent tokens') := by
  induction related with
  | nil => exact .pure _
  | cons related _ inductionHypothesis =>
    rw [skipOne, skipOne]
    refine (Parallel.stop parent).bind fun before => ?_
    refine (parallel_attemptBlank kinship related parent).bind fun matched => ?_
    cases matched with
    | false => exact inductionHypothesis
    | true =>
      refine (Parallel.stop parent).bind fun after => ?_
      by_cases further : before < after
      · simp only [if_pos further]
        exact (Parallel.changeTree fun _ _ paired => paired.skipLast parent).bind fun _ => .pure _
      · simp only [if_neg further]
        exact (Parallel.changeTree fun _ _ paired => paired.discardLast parent).bind
          fun _ => inductionHypothesis

theorem parallel_skipAll (kinship : Kinship environment.registry kin) (parent : Nat)
    {tokens tokens' : List Rule} (related : List.Forall₂ kin tokens tokens') (rounds : Nat) :
    Parallel kin (skipAll environment parent tokens rounds)
      (skipAll environment parent tokens' rounds) := by
  induction rounds with
  | zero => exact .exhausted
  | succ rounds inductionHypothesis =>
    refine (parallel_skipOne kinship parent related).bind fun skipped => ?_
    cases skipped with
    | true => exact inductionHypothesis
    | false => exact .pure _

theorem impartial_skipWhitespace (kinship : Kinship environment.registry kin) (parent : Nat) :
    Impartial kin (skipWhitespace environment parent) := by
  refine Parallel.readRelated (fun _ _ twins => twins.grammar) fun grammar grammar' allied => ?_
  rw [allied.whitespaceDisabled_eq]
  cases grammar.whitespaceDisabled with
  | true => exact .pure _
  | false => exact parallel_skipAll kinship parent allied.whitespaceTokens _

/-! ### Operators that are being matched already -/

/-- An operator finds itself on both sides or on neither. -/
theorem isRepeating_eq (kinship : Kinship environment.registry kin) (related : kin rule rule')
    (isOperator : rule.isOperator = true) {left right : Tree} (paired : left.Paired kin right)
    (above : List Nat) : isRepeating right rule' above = isRepeating left rule above := by
  induction above with
  | nil => rfl
  | cons id rest inductionHypothesis =>
    have found := (paired.nodes id).rule?
    rw [isRepeating, isRepeating, paired.consumed_eq, inductionHypothesis]
    generalize (left.node id).rule? = ancestor, (right.node id).rule? = ancestor' at found
    cases found with
    | none => rfl
    | some relatedAbove =>
      have kind_eq := congrArg Rule.kind (kinship.right_eq relatedAbove)
      dsimp only at kind_eq ⊢
      rw [kind_eq, kinship.same_eq related relatedAbove isOperator]

/-! ### The kinds of rules -/

theorem impartial_setAlternative (index : Nat) :
    Impartial kin (Step.setAlternative index) :=
  .changeBlind fun _ _ _ => rfl

theorem impartial_leaveOut (node : Nat) (name : String) :
    Impartial kin (leaveOut environment node name) := by
  refine (Parallel.changeTree fun _ _ paired => paired.attach node (.lambda name)).bind
    fun _ => ?_
  cases environment.tracing with
  | false => exact .pure _
  | true =>
    exact (Parallel.readBlind fun _ _ _ => rfl).bind fun _ => .changeBlind fun _ _ _ => rfl

section

variable {consume : Consume}
  (consumes : ∀ node name, Impartial kin (consume node name)) (node : Nat)
include consumes

theorem impartial_consumeOptional (name : Option String) (otherwise : Bool) :
    Impartial kin (consumeOptional consume node name otherwise) := by
  cases name with
  | none => exact .pure _
  | some name => exact consumes node name

theorem impartial_performSequence (index : Nat) (items : List SequenceItem) :
    Impartial kin (performSequence environment consume node index items) := by
  induction items generalizing index with
  | nil => exact .pure _
  | cons item rest inductionHypothesis =>
    refine (impartial_setAlternative index).bind fun _ => ?_
    refine (consumes node item.rule).bind fun matched => ?_
    cases matched with
    | true => exact inductionHypothesis (index + 1)
    | false =>
      cases item.required with
      | true => exact .pure _
      | false => exact (impartial_leaveOut node item.rule).bind fun _ => inductionHypothesis _

theorem impartial_performChoice (index : Nat) (alternatives : List String) :
    Impartial kin (performChoice consume node index alternatives) := by
  induction alternatives generalizing index with
  | nil => exact .pure _
  | cons alternative rest inductionHypothesis =>
    refine (impartial_setAlternative index).bind fun _ => ?_
    refine (consumes node alternative).bind fun matched => ?_
    cases matched with
    | true => exact .pure _
    | false => exact inductionHypothesis (index + 1)

theorem impartial_listRounds (name : String) (rule : ListRule) (budget round : Nat)
    (last : Option Nat) :
    Impartial kin (listRounds environment consume name rule node budget round last) := by
  induction budget generalizing round last with
  | zero => exact .exhausted
  | succ budget inductionHypothesis =>
    refine (impartial_consumeOptional consumes node _ _).bind fun separated => ?_
    cases separated with
    | false => exact impartial_consumeOptional consumes node _ _
    | true =>
      refine (Parallel.stop node).bind fun position => ?_
      by_cases stuck : last.any (position ≤ ·)
      · simp only [if_pos stuck]
        exact .abort _
      · simp only [if_neg stuck]
        refine (impartial_setAlternative _).bind fun _ =>
          (impartial_consumeOptional consumes node _ _).bind fun closed => ?_
        cases closed with
        | true => exact .pure _
        | false =>
          refine (consumes node rule.item).bind fun matched => ?_
          cases matched with
          | true => exact inductionHypothesis (round + 1) (some position)
          | false => exact .pure _

theorem impartial_performList (budget : Nat) (name : String) (rule : ListRule) :
    Impartial kin (performList environment consume budget name rule node) := by
  refine (impartial_consumeOptional consumes node _ _).bind fun opened => ?_
  cases opened with
  | false => exact .pure _
  | true =>
    refine (impartial_consumeOptional consumes node _ _).bind fun closed => ?_
    cases closed with
    | true => exact .pure _
    | false =>
      refine (consumes node rule.item).bind fun matched => ?_
      cases matched with
      | false => exact .pure _
      | true => exact impartial_listRounds consumes node name rule budget 0 none

theorem impartial_firstMatch (items : List (Nat × String)) :
    Impartial kin (firstMatch consume node items) := by
  induction items with
  | nil => exact .pure _
  | cons item rest inductionHypothesis =>
    refine (impartial_setAlternative item.1).bind fun _ => ?_
    refine (consumes node item.2).bind fun matched => ?_
    cases matched with
    | true => exact .pure _
    | false => exact inductionHypothesis

theorem impartial_setRounds (rule : SetRule) (rounds : Nat) (available : List (Nat × String))
    (pending : Bool) : Impartial kin (setRounds consume rule node rounds available pending) := by
  induction rounds generalizing available pending with
  | zero => exact .pure _
  | succ rounds inductionHypothesis =>
    refine (impartial_firstMatch consumes node available).bind fun matched => ?_
    cases matched with
    | none => exact .pure _
    | some index =>
      cases rule.separator with
      | none => exact inductionHypothesis _ false
      | some separator =>
        refine (consumes node separator).bind fun separated => ?_
        cases separated with
        | true => exact inductionHypothesis _ true
        | false => exact .pure _

theorem impartial_performSet (rule : SetRule) :
    Impartial kin (performSet consume rule node) := by
  refine (impartial_consumeOptional consumes node _ _).bind fun opened => ?_
  cases opened with
  | false => exact .pure _
  | true =>
    refine (impartial_setRounds consumes node rule _ _ _).bind fun pending => ?_
    cases pending with
    | true => exact .pure _
    | false => exact impartial_consumeOptional consumes node _ _

theorem impartial_operatorRounds (operator : OperatorRule) (budget : Nat) :
    Impartial kin (operatorRounds consume operator node budget) := by
  induction budget with
  | zero => exact .exhausted
  | succ budget inductionHypothesis =>
    refine (consumes node operator.operator).bind fun separated => ?_
    cases separated with
    | false => exact .pure _
    | true =>
      refine (consumes node operator.operand).bind fun matched => ?_
      cases matched with
      | true => exact inductionHypothesis
      | false => exact .pure _

theorem parallel_performOperator (kinship : Kinship environment.registry kin)
    (related : kin rule rule') (isOperator : rule.isOperator = true) (budget : Nat)
    (operator : OperatorRule) :
    Parallel kin (performOperator consume budget rule operator node)
      (performOperator consume budget rule' operator node) := by
  refine (Parallel.read fun left right twins => ?_).bind fun repeating => ?_
  · rw [twins.tree.lineage_eq]
    exact isRepeating_eq kinship related isOperator twins.tree _
  · cases repeating with
    | true => exact .pure _
    | false =>
      refine (consumes node operator.operand).bind fun matched => ?_
      cases matched with
      | false => exact .pure _
      | true => exact impartial_operatorRounds consumes node operator budget

/-- An imported grammar is used on both sides, and on both sides it is left in the end. -/
theorem impartial_performImport (kinship : Kinship environment.registry kin)
    (related : kin rule rule') {target : ImportRule} (kind : rule.kind = .imported target) :
    Impartial kin (performImport environment consume target node) := by
  unfold performImport
  cases found : environment.registry.lookup? target.grammar with
  | none => exact .abort _
  | some grammar =>
    have allied := kinship.imported related kind found
    refine Parallel.readRelated (fun _ _ twins => twins.grammar) fun previous previous' former => ?_
    refine (Parallel.change fun _ _ twins => twins.changeGrammar allied).bind fun _ => ?_
    refine .ensuring (fun _ _ twins => twins.changeGrammar former) ?_
    exact (impartial_skipWhitespace kinship node).bind fun _ => consumes node target.rule

theorem parallel_perform (kinship : Kinship environment.registry kin) (related : kin rule rule')
    (budget : Nat) : Parallel kin (perform environment consume budget rule node)
      (perform environment consume budget rule' node) := by
  have kind_eq : rule'.kind = rule.kind := by rw [kinship.right_eq related]
  have name_eq : rule'.name = rule.name := by rw [kinship.right_eq related]
  unfold perform
  rw [kind_eq, name_eq]
  cases kind : rule.kind with
  | token token => exact impartial_performToken token node
  | sequence items => exact impartial_performSequence consumes node 0 items
  | choice choice => exact impartial_performChoice consumes node 0 choice.alternatives
  | list list => exact impartial_performList consumes node budget rule.name list
  | set set => exact impartial_performSet consumes node set
  | operator operator =>
    have isOperator : rule.isOperator = true := by rw [Rule.isOperator, kind]
    exact parallel_performOperator consumes node kinship related isOperator budget operator
  | imported target => exact impartial_performImport consumes node kinship related kind

end

/-! ### The operation itself -/

theorem impartial_traceAttempt (offset : Nat) (event : Position → Nat → Log.Event) :
    Impartial kin (traceAttempt environment offset event) := by
  unfold traceAttempt
  cases environment.tracing with
  | false => exact .pure _
  | true =>
    exact (Parallel.readBlind fun _ _ _ => rfl).bind fun _ => .changeBlind fun _ _ _ => rfl

/-- The limits of the grammars are the same, and so are the stacks of rules. -/
theorem exceededLimit?_eq {left right : State} (twins : left.Twins kin right) :
    exceededLimit? environment right = exceededLimit? environment left := by
  rw [exceededLimit?, exceededLimit?, twins.grammar.depthLimit_eq,
    twins.view_eq (·.stack) fun _ _ _ => rfl]

theorem impartial_count (update : Statistics → Statistics) :
    Impartial kin (Step.count update) :=
  .changeBlind fun _ _ _ => rfl

theorem impartial_invoke (kinship : Kinship environment.registry kin)
    {attempt : Rule → Nat → Step Bool} (attempts : ∀ rule rule' parent, kin rule rule' →
      Parallel kin (attempt rule parent) (attempt rule' parent)) (parent : Nat) (name : String) :
    Impartial kin (invoke environment attempt parent name) := by
  refine (Parallel.stop parent).bind fun offset => (impartial_count _).bind fun _ => ?_
  refine Parallel.readRelated (fun _ _ twins => twins.grammar.rules name)
    fun found found' related => ?_
  cases related with
  | none => exact .abort _
  | @some rule rule' related =>
    have record_eq : ∀ diagnostics stack, Diagnostics.record diagnostics offset rule' stack =
        diagnostics.record offset rule stack := by
      intro diagnostics stack
      rw [kinship.right_eq related]
      rfl
    simp only [record_eq]
    refine (Parallel.changeBlind fun _ _ _ => rfl).bind fun _ => ?_
    refine (Parallel.read fun _ _ twins => exceededLimit?_eq twins).bind fun exceeded => ?_
    cases exceeded with
    | some limit => exact .abort _
    | none =>
      refine (impartial_traceAttempt _ _).bind fun _ => ?_
      refine (parallel_attemptMemoized kinship related parent
        (attempts _ _ parent related)).bind fun matched => ?_
      cases matched with
      | false => exact (impartial_count _).bind fun _ => .pure _
      | true =>
        exact (impartial_skipWhitespace kinship parent).bind fun _ => (impartial_count _).bind
          fun _ => (impartial_traceAttempt _ _).bind fun _ => .pure _

/-- However much work is allowed, matching a rule by its name comes to the same. -/
theorem impartial_consume (kinship : Kinship environment.registry kin) (fuel : Nat) :
    ∀ parent name, Impartial kin (consume environment fuel parent name) := by
  induction fuel with
  | zero => exact fun _ _ => .exhausted
  | succ fuel inductionHypothesis =>
    intro parent name
    refine Parallel.note.bind fun _ => (Parallel.changeBlind fun _ _ _ => rfl).bind fun _ => ?_
    refine .ensuringBlind (fun _ _ _ => rfl) ?_
    refine impartial_invoke kinship (fun rule rule' parent related => ?_) parent name
    exact parallel_attemptWith related parent fun node =>
      parallel_perform inductionHypothesis node kinship related fuel

theorem impartial_begin (kinship : Kinship environment.registry kin) (fuel : Nat)
    (start : String) :
    Impartial kin (begin environment fuel start) :=
  (impartial_skipWhitespace kinship Tree.root).bind fun _ =>
    impartial_consume kinship fuel Tree.root start

end Rulebook.Parse
