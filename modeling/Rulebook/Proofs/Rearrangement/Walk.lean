/-
This file takes two parses whose grammars are reordered through the seven kinds of rules. Each kind
comes to the same on both sides if matching a rule by its name does. Sets are the only kind that is
not the same on both sides; of them it has been seen that the same item is picked.
-/

import Rulebook.Proofs.Rearrangement.Items

namespace Rulebook.Parse

open Match (Origin Tree)

variable {environment : Environment} {first grammar : Grammar} {registry : Registry}
  {rule rule' : Rule} {node parent : Nat}

/-- Under every name nothing is published on both sides, or reordered grammars are. -/
def Republished (environment : Environment) (first : Grammar) (registry : Registry) : Prop :=
  ∀ name, Option.Rel (fun left right => left.Reordered environment first right)
    (environment.registry.lookup? name) (registry.lookup? name)

/-- What is published may stay as it is. -/
theorem republished_refl (environment : Environment) (first : Grammar) :
    Republished environment first environment.registry := by
  intro name
  cases environment.registry.lookup? name with
  | none => exact .none
  | some grammar => exact .some (Grammar.reordered_refl environment first grammar)

/-- Two ways of matching rules by their names come to the same, and the first can be relied on. -/
structure Coupled (environment : Environment) (first : Grammar) (consume consume' : Consume) :
    Prop where
  reliable : Reliable environment first (fun _ => True) consume
  consumes : ∀ grammar node name,
    Step.Abreast environment first grammar node Eq (consume node name) (consume' node name)
  /-- The order of items does not matter. -/
  picks : ∀ grammar node items available available',
    grammar.Exchangeable environment first items → Permuted items available available' →
      Step.Abreast environment first grammar node (Picked (Permuted items) available available')
        (firstMatch consume node available) (firstMatch consume' node available')

/-! ### Bookkeeping -/

theorem discreet_log (event : State → Log.Event) :
    Discreet fun state => { state with log := state.log.push (event state) } :=
  ⟨fun _ => rfl, fun _ => rfl, fun _ => rfl, fun _ => rfl, fun _ => rfl⟩

theorem discreet_count (update : Statistics → Statistics) :
    Discreet fun state => { state with statistics := update state.statistics } :=
  ⟨fun _ => rfl, fun _ => rfl, fun _ => rfl, fun _ => rfl, fun _ => rfl⟩

theorem abreast_count (update : Statistics → Statistics) :
    Step.Abreast environment first grammar node Eq (Step.count update) (Step.count update) :=
  .discreet (discreet_count update) (discreet_count update)

theorem remains_count (update : Statistics → Statistics) :
    Step.Remains environment first grammar node (Step.count update) :=
  (discreet_count update).remains

theorem abreast_traceAttempt (offset : Nat) (event : Position → Nat → Log.Event) :
    Step.Abreast environment first grammar node Eq (traceAttempt environment offset event)
      (traceAttempt { environment with registry } offset event) := by
  unfold traceAttempt
  cases environment.tracing with
  | false => exact .pure rfl
  | true =>
    refine .read (fun _ _ _ states => states.height_eq) fun height => ?_
    exact .discreet (discreet_log _) (discreet_log _)

theorem remains_traceAttempt (offset : Nat) (event : Position → Nat → Log.Event) :
    Step.Remains environment first grammar node (traceAttempt environment offset event) :=
  fun _ ready => (meets_traceAttempt ready.toSound offset event).imp fun _ _ still =>
    ready.of_still still

/-! ### Attempts -/

theorem abreast_attemptWith (rearranged : rule.Rearranged rule') (parent : Nat)
    {perform perform' : Nat → Step Bool} (performs : ∀ node,
      Step.Abreast environment first grammar node Eq (perform node) (perform' node)) :
    Step.Abreast environment first grammar parent Eq (attemptWith rule parent perform)
      (attemptWith rule' parent perform') := by
  intro left right ready states
  have attached : ReadyIn environment first grammar left.tree.size
      { left with tree := left.tree.attach parent (.rule rule) } :=
    ⟨ready_attach ready.toReady (.rule rule), ready.grammar_eq⟩
  have size_eq : right.tree.size = left.tree.size := states.tree.size_eq
  have states := states.changeTree (states.tree.attach parent (.rule rearranged))
  simp only [attemptWith, Step.outcome_read_bind, Step.changeTree, Step.outcome_change_bind,
    size_eq]
  refine (performs _ _ _ attached states).bind (Run.meets_trivial _)
    fun matched _ _ _ equal _ states => ?_
  subst equal
  cases matched with
  | true => exact .done rfl states
  | false => exact .done rfl (states.changeTree (states.tree.discardLast parent))

/-- A token that the memo may answer for comes to the same on both sides, and any other rule does
if it does without the memo. -/
theorem abreast_attemptMemoized (known : Known environment first rule)
    (rearranged : rule.Rearranged rule') (parent : Nat) {attempt attempt' : Step Bool}
    (tokens : ∀ token, rule.token? = some token → ∀ state : State, state.tree.Rising →
      parent < state.tree.size →
        (attempt state).outcome = tokenOutcome environment rule token parent state ∧
          (attempt' state).outcome = tokenOutcome environment rule' token parent state)
    (attempts : rule.token? = none →
      Step.Abreast environment first grammar parent Eq attempt attempt') :
    Step.Abreast environment first grammar parent Eq (attemptMemoized rule parent attempt)
      (attemptMemoized rule' parent attempt') := by
  intro left right ready states
  cases isToken : rule.token? with
  | none =>
    have plain : rule.isToken = false := by rw [Rule.isToken, isToken, Option.isSome_none]
    rw [outcome_attemptMemoized, outcome_attemptMemoized, rearranged.isToken_eq, plain,
      Bool.and_false, Bool.and_false, if_neg Bool.false_ne_true, if_neg Bool.false_ne_true]
    exact attempts isToken left right ready states
  | some token =>
    obtain ⟨next, ended, answered⟩ := tokenAnswered_attemptMemoized left isToken
      ready.tree.rising ready.isOpen.inside
      fun state rising inside => (tokens token isToken state rising inside).1
    obtain ⟨next', ended', answered'⟩ := tokenAnswered_attemptMemoized right
      (rearranged.token?_eq.trans isToken) (states.tree.rising ready.tree.rising)
      (states.tree.size_eq ▸ ready.isOpen.inside)
      fun state rising inside => (tokens token isToken state rising inside).2
    rw [ended, ended', states.answer_eq ready.toSound known rearranged isToken]
    exact .done rfl
      (states.tokenAnswered ready.toSound known rearranged isToken answered answered')

/-! ### Whitespace -/

section Whitespace

variable (faithful : environment.source.Faithful)

theorem abreast_attemptBlank (known : Known environment first rule)
    (rearranged : rule.Rearranged rule') (parent : Nat) :
    Step.Abreast environment first grammar parent Eq (attemptBlank environment parent rule)
      (attemptBlank { environment with registry } parent rule') := by
  unfold attemptBlank
  rw [rearranged.token?_eq]
  cases isToken : rule.token? with
  | none => exact .pure rfl
  | some token =>
    refine abreast_attemptMemoized known rearranged parent ?_ fun absurd => ?_
    · intro other same state rising inside
      obtain rfl := Option.some.inj (isToken.symm.trans same)
      exact ⟨outcome_attemptWith_token rising inside, outcome_attemptWith_token rising inside⟩
    · rw [isToken] at absurd
      cases absurd

include faithful

theorem abreast_skipOne {tokens tokens' : List Rule}
    (known : ∀ rule ∈ tokens, Known environment first rule)
    (rearranged : List.Forall₂ Rule.Rearranged tokens tokens') (parent : Nat) :
    Step.Abreast environment first grammar parent Eq (skipOne environment parent tokens)
      (skipOne { environment with registry } parent tokens') := by
  induction rearranged with
  | nil => exact .pure rfl
  | @cons rule rule' rest rest' rearranged _ inductionHypothesis =>
    have inductionHypothesis := inductionHypothesis fun rule member =>
      known rule (List.mem_cons_of_mem _ member)
    have known := known rule List.mem_cons_self
    intro left right ready states
    rw [skipOne, skipOne, Step.stop, Step.outcome_read_bind, Step.outcome_read_bind,
      states.stop_eq]
    refine (abreast_attemptBlank known rearranged parent left right ready states).bind
      (meets_attemptBlank faithful ready.toReady known)
      fun matched _ next next' equal attempted states => ?_
    subst equal
    cases matched with
    | false =>
      have still : Still environment first left next :=
        ⟨attempted.toKept, attempted.restored rfl⟩
      exact inductionHypothesis next next' (ready.of_still still) states
    | true =>
      rw [if_pos rfl, if_pos rfl, Step.outcome_read_bind, Step.outcome_read_bind, states.stop_eq]
      split
      · exact .done rfl (states.changeTree (states.tree.skipLast parent))
      · have still := still_discardLast ready.toReady attempted.toKept (attempted.grown rfl)
        exact inductionHypothesis _ _ (ready.of_still still)
          (states.changeTree (states.tree.discardLast parent))

theorem remains_skipOne {tokens : List Rule}
    (known : ∀ rule ∈ tokens, Known environment first rule) (parent : Nat) :
    Step.Remains environment first grammar parent (skipOne environment parent tokens) :=
  fun _ ready => (meets_skipOne faithful ready.toReady known).imp fun _ _ round =>
    ready.of_working (round.skipped ready.toReady).toWorking

theorem abreast_skipAll {tokens tokens' : List Rule}
    (known : ∀ rule ∈ tokens, Known environment first rule)
    (rearranged : List.Forall₂ Rule.Rearranged tokens tokens') (parent rounds : Nat) :
    Step.Abreast environment first grammar parent Eq
      (skipAll environment parent tokens rounds)
      (skipAll { environment with registry } parent tokens' rounds) := by
  induction rounds with
  | zero => exact .exhausted
  | succ rounds inductionHypothesis =>
    refine (abreast_skipOne faithful known rearranged parent).bind
      (remains_skipOne faithful known parent) ?_
    rintro skipped _ rfl
    cases skipped with
    | true => exact inductionHypothesis
    | false => exact .pure rfl

theorem abreast_skipWhitespace (parent : Nat) :
    Step.Abreast environment first grammar parent Eq (skipWhitespace environment parent)
      (skipWhitespace { environment with registry } parent) := by
  intro left right ready states
  have tokens := states.grammar.whitespaceTokens.imp fun _ _ reordered => reordered.toRearranged
  rw [skipWhitespace, skipWhitespace, Step.outcome_read_bind, Step.outcome_read_bind,
    states.grammar.whitespaceDisabled_eq]
  cases left.grammar.whitespaceDisabled with
  | true => exact .done rfl states
  | false =>
    exact abreast_skipAll faithful (known_whitespaceTokens ready.grammar) tokens parent _ left right
      ready states

theorem remains_skipWhitespace (parent : Nat) :
    Step.Remains environment first grammar parent (skipWhitespace environment parent) :=
  fun _ ready => (meets_skipWhitespace faithful ready.toReady).imp fun _ _ skipped =>
    ready.of_working skipped.toWorking

end Whitespace

/-! ### Steps at a node -/

theorem abreast_setAlternative (index index' : Nat) :
    Step.Abreast environment first grammar node Eq (Step.setAlternative index)
      (Step.setAlternative index') :=
  .discreet (discreet_trying index) (discreet_trying index')

theorem remains_setAlternative (index : Nat) :
    Step.Remains environment first grammar node (Step.setAlternative index) :=
  (discreet_trying index).remains

theorem abreast_leaveOut (name : String) :
    Step.Abreast environment first grammar node Eq (leaveOut environment node name)
      (leaveOut { environment with registry } node name) := by
  intro left right ready states
  have attached := states.changeTree (states.tree.attach node (.lambda name))
  unfold leaveOut
  cases environment.tracing with
  | false => exact .done rfl attached
  | true =>
    let event : State → Log.Event := fun state => .omitted state.stack.length
    exact .done rfl (attached.discreet (discreet_log event) (discreet_log event))

theorem remains_leaveOut (name : String) :
    Step.Remains environment first grammar node (leaveOut environment node name) :=
  Step.remains_of_working fun _ working => meets_leaveOut working name

section Kinds

variable {consume consume' : Consume} (coupled : Coupled environment first consume consume')
include coupled

theorem Coupled.remains (name : String) :
    Step.Remains environment first grammar node (consume node name) :=
  Step.remains_of_working fun _ working => coupled.reliable.working working name

theorem abreast_consumeOptional (name : Option String) (otherwise : Bool) :
    Step.Abreast environment first grammar node Eq (consumeOptional consume node name otherwise)
      (consumeOptional consume' node name otherwise) := by
  cases name with
  | none => exact .pure rfl
  | some name => exact coupled.consumes grammar node name

theorem remains_consumeOptional (name : Option String) (otherwise : Bool) :
    Step.Remains environment first grammar node
      (consumeOptional consume node name otherwise) :=
  Step.remains_of_working fun _ working =>
    meets_consumeOptional coupled.reliable working name otherwise

/-- After a rule has been asked for on both sides, it did or did not match on both. -/
theorem Coupled.bind {Value : Type} {relate : Value → Value → Prop} (name : String)
    {second second' : Bool → Step Value} (rest : ∀ matched,
      Step.Abreast environment first grammar node relate (second matched) (second' matched)) :
    Step.Abreast environment first grammar node relate (consume node name >>= second)
      (consume' node name >>= second') :=
  (coupled.consumes grammar node name).bind (coupled.remains name) fun matched _ equal =>
    equal ▸ rest matched

theorem Coupled.bindOptional {Value : Type} {relate : Value → Value → Prop}
    (name : Option String) (otherwise : Bool) {second second' : Bool → Step Value}
    (rest : ∀ matched,
      Step.Abreast environment first grammar node relate (second matched) (second' matched)) :
    Step.Abreast environment first grammar node relate
      (consumeOptional consume node name otherwise >>= second)
      (consumeOptional consume' node name otherwise >>= second') :=
  (abreast_consumeOptional coupled name otherwise).bind
    (remains_consumeOptional coupled name otherwise) fun matched _ equal => equal ▸ rest matched

/-! ### Sequences and choices -/

theorem abreast_performSequence (index : Nat) (items : List SequenceItem) :
    Step.Abreast environment first grammar node Eq
      (performSequence environment consume node index items)
      (performSequence { environment with registry } consume' node index items) := by
  induction items generalizing index with
  | nil => exact .pure rfl
  | cons item rest inductionHypothesis =>
    refine (abreast_setAlternative index index).bind (remains_setAlternative index)
      fun _ _ _ => coupled.bind item.rule fun matched => ?_
    cases matched with
    | true => exact inductionHypothesis (index + 1)
    | false =>
      cases item.required with
      | true => exact .pure rfl
      | false =>
        exact (abreast_leaveOut item.rule).bind (remains_leaveOut item.rule)
          fun _ _ _ => inductionHypothesis (index + 1)

theorem abreast_performChoice (index : Nat) (alternatives : List String) :
    Step.Abreast environment first grammar node Eq
      (performChoice consume node index alternatives)
      (performChoice consume' node index alternatives) := by
  induction alternatives generalizing index with
  | nil => exact .pure rfl
  | cons alternative rest inductionHypothesis =>
    refine (abreast_setAlternative index index).bind (remains_setAlternative index)
      fun _ _ _ => coupled.bind alternative fun matched => ?_
    cases matched with
    | true => exact .pure rfl
    | false => exact inductionHypothesis (index + 1)

/-! ### Lists -/

theorem abreast_listRounds (name : String) (rule : ListRule) (budget round : Nat)
    (last : Option Nat) :
    Step.Abreast environment first grammar node Eq
      (listRounds environment consume name rule node budget round last)
      (listRounds { environment with registry } consume' name rule node budget round last) := by
  induction budget generalizing round last with
  | zero => exact .exhausted
  | succ budget inductionHypothesis =>
    refine coupled.bindOptional _ _ fun separated => ?_
    cases separated with
    | false => exact abreast_consumeOptional coupled _ _
    | true =>
      refine .read (fun _ _ _ states => states.stop_eq node) fun position => ?_
      by_cases stuck : last.any (position ≤ ·)
      · simp only [if_pos stuck]
        exact .abort _ _
      · simp only [if_neg stuck]
        refine (abreast_setAlternative _ _).bind (remains_setAlternative _)
          fun _ _ _ => coupled.bindOptional _ _ fun closed => ?_
        cases closed with
        | true => exact .pure rfl
        | false =>
          refine coupled.bind rule.item fun matched => ?_
          cases matched with
          | true => exact inductionHypothesis (round + 1) (some position)
          | false => exact .pure rfl

theorem abreast_performList (budget : Nat) (name : String) (rule : ListRule) :
    Step.Abreast environment first grammar node Eq
      (performList environment consume budget name rule node)
      (performList { environment with registry } consume' budget name rule node) := by
  refine coupled.bindOptional _ _ fun opened => ?_
  cases opened with
  | false => exact .pure rfl
  | true =>
    refine coupled.bindOptional _ _ fun closed => ?_
    cases closed with
    | true => exact .pure rfl
    | false =>
      refine coupled.bind rule.item fun matched => ?_
      cases matched with
      | false => exact .pure rfl
      | true => exact abreast_listRounds coupled name rule budget 0 none

/-! ### Sets -/

theorem abreast_firstMatch (available : List (Nat × String)) :
    Step.Abreast environment first grammar node (Picked Eq available available)
      (firstMatch consume node available) (firstMatch consume' node available) := by
  have found : ∀ items : List (Nat × String),
      Step.Abreast environment first grammar node (Picked Eq available available)
        (firstMatch consume node items) (firstMatch consume' node items) := by
    intro items
    induction items with
    | nil => exact .pure .none
    | cons item rest inductionHypothesis =>
      refine (abreast_setAlternative item.1 item.1).bind (remains_setAlternative item.1)
        fun _ _ _ => coupled.bind item.2 fun matched => ?_
      cases matched with
      | true => exact .pure (.some rfl)
      | false => exact inductionHypothesis
  exact found available

theorem remains_firstMatch (available : List (Nat × String)) :
    Step.Remains environment first grammar node (firstMatch consume node available) :=
  Step.remains_of_working fun _ working => meets_firstMatch coupled.reliable working available

section

variable {fits : List (Nat × String) → List (Nat × String) → Prop}
  (picks : ∀ available available', fits available available' →
    Step.Abreast environment first grammar node (Picked fits available available')
      (firstMatch consume node available) (firstMatch consume' node available'))
include picks

/-- If the same is picked on both sides, then the rounds of a set come to the same. -/
theorem abreast_setRounds {set set' : SetRule} (separator_eq : set'.separator = set.separator)
    (rounds : Nat) {available available' : List (Nat × String)}
    (fitting : fits available available') (pending : Bool) :
    Step.Abreast environment first grammar node Eq
      (setRounds consume set node rounds available pending)
      (setRounds consume' set' node rounds available' pending) := by
  induction rounds generalizing available available' pending with
  | zero => exact .pure rfl
  | succ rounds inductionHypothesis =>
    refine (picks available available' fitting).bind (remains_firstMatch coupled available)
      fun picked picked' related => ?_
    cases related with
    | none => exact .pure rfl
    | some rest =>
      rw [separator_eq]
      cases set.separator with
      | none => exact inductionHypothesis rest false
      | some separator =>
        refine coupled.bind separator fun separated => ?_
        cases separated with
        | true => exact inductionHypothesis rest true
        | false => exact .pure rfl

omit picks in
theorem remains_setRounds (set : SetRule) (rounds : Nat) (available : List (Nat × String))
    (pending : Bool) :
    Step.Remains environment first grammar node
      (setRounds consume set node rounds available pending) :=
  Step.remains_of_working fun _ working =>
    meets_setRounds coupled.reliable working set rounds available pending

theorem abreast_performSet {set set' : SetRule} (right_eq : set' = { set with items := set'.items })
    (length_eq : set'.items.length = set.items.length)
    (fitting : fits (numbered set.items) (numbered set'.items)) :
    Step.Abreast environment first grammar node Eq (performSet consume set node)
      (performSet consume' set' node) := by
  have separator_eq : set'.separator = set.separator := by rw [right_eq]
  have opening_eq : set'.opening = set.opening := by rw [right_eq]
  have closing_eq : set'.closing = set.closing := by rw [right_eq]
  rw [performSet, performSet, opening_eq, closing_eq, length_eq]
  refine coupled.bindOptional _ _ fun opened => ?_
  cases opened with
  | false => exact .pure rfl
  | true =>
    refine (abreast_setRounds coupled picks separator_eq _ fitting false).bind
      (remains_setRounds coupled set _ _ false) ?_
    rintro pending _ rfl
    cases pending with
    | true => exact .pure rfl
    | false => exact abreast_consumeOptional coupled _ _

end

omit coupled in
/-- The items of two sets are the same before any of them is taken. -/
theorem permuted_numbered {items items' : List String} (perm : items.Perm items') :
    Permuted items (numbered items) (numbered items') where
  within item member := (List.of_mem_zip member).2
  perm := by
    rw [numbered, numbered, List.map_snd_zip (by rw [List.length_range]),
      List.map_snd_zip (by rw [List.length_range])]
    exact perm
  nodup := by
    rw [numbered, List.map_fst_zip (by rw [List.length_range])]
    exact List.nodup_range
  nodup' := by
    rw [numbered, List.map_fst_zip (by rw [List.length_range])]
    exact List.nodup_range

/-! ### Operators -/

theorem abreast_operatorRounds (operator : OperatorRule) (budget : Nat) :
    Step.Abreast environment first grammar node Eq (operatorRounds consume operator node budget)
      (operatorRounds consume' operator node budget) := by
  induction budget with
  | zero => exact .exhausted
  | succ budget inductionHypothesis =>
    refine coupled.bind operator.operator fun separated => ?_
    cases separated with
    | false => exact .pure rfl
    | true =>
      refine coupled.bind operator.operand fun matched => ?_
      cases matched with
      | true => exact inductionHypothesis
      | false => exact .pure rfl

omit coupled in
/-- An operator finds itself on both sides or on neither. -/
theorem isRepeating_rearranged (rearranged : rule.Rearranged rule') {left right : Tree}
    (paired : left.Paired Rule.Rearranged right) (above : List Nat) :
    isRepeating right rule' above = isRepeating left rule above := by
  induction above with
  | nil => rfl
  | cons id rest inductionHypothesis =>
    have found := (paired.nodes id).rule?
    rw [isRepeating, isRepeating, paired.consumed_eq, inductionHypothesis]
    generalize (left.node id).rule? = ancestor, (right.node id).rule? = ancestor' at found
    cases found with
    | none => rfl
    | some rearrangedAbove =>
      dsimp only
      rw [rearrangedAbove.isTransparent_eq, rearranged.same_eq rearrangedAbove]

theorem abreast_performOperator (rearranged : rule.Rearranged rule') (budget : Nat)
    (operator : OperatorRule) :
    Step.Abreast environment first grammar node Eq
      (performOperator consume budget rule operator node)
      (performOperator consume' budget rule' operator node) := by
  refine .read (fun _ _ _ states => ?_) fun repeating => ?_
  · rw [states.tree.lineage_eq]
    exact isRepeating_rearranged rearranged states.tree _
  · cases repeating with
    | true => exact .pure rfl
    | false =>
      refine coupled.bind operator.operand fun matched => ?_
      cases matched with
      | false => exact .pure rfl
      | true => exact abreast_operatorRounds coupled operator budget

/-! ### Imports -/

/-- On both sides an imported grammar is used, and left in the end. -/
theorem abreast_performImport (faithful : environment.source.Faithful)
    (republished : Republished environment first registry) (target : ImportRule) :
    Step.Abreast environment first grammar node Eq
      (performImport environment consume target node)
      (performImport { environment with registry } consume' target node) := by
  have published := republished target.grammar
  unfold performImport
  dsimp only
  generalize found : environment.registry.lookup? target.grammar = imported,
    registry.lookup? target.grammar = imported' at published
  cases published with
  | none => exact .abort _ _
  | @some imported imported' reordered =>
    intro left right ready states
    have inner : ReadyIn environment first imported node { left with grammar := imported } :=
      ⟨⟨⟨ready.tree, .inr ⟨target.grammar, found⟩, ready.memoizing, ready.memo⟩, ready.isOpen⟩, rfl⟩
    dsimp only
    rw [Step.withGrammar, Step.outcome_read_bind, Step.outcome_change_bind, Step.withGrammar,
      Step.outcome_read_bind, Step.outcome_change_bind]
    refine Outcome.Abreast.mapState (Outcome.Abreast.bind
      (abreast_skipWhitespace faithful node _ _ inner (states.changeGrammar reordered))
      (remains_skipWhitespace faithful node _ inner) fun _ _ _ _ _ inner states =>
        coupled.consumes imported node target.rule _ _ inner states) ?_
    exact fun _ _ inner => inner.changeGrammar states.grammar

/-! ### Any rule -/

/-- Every kind of rule comes to the same, if there is no memo in front of it. -/
theorem abreast_perform (faithful : environment.source.Faithful)
    (republished : Republished environment first registry)
    (reordered : rule.Reordered environment first grammar rule') (plain : rule.token? = none)
    (budget node : Nat) :
    Step.Abreast environment first grammar node Eq
      (perform environment consume budget rule node)
      (perform { environment with registry } consume' budget rule' node) := by
  have kinds := reordered.kind
  have exchangeable := reordered.exchangeable
  rw [perform, perform, reordered.name_eq]
  rw [Rule.token?] at plain
  generalize rule.kind = kind, rule'.kind = kind' at kinds exchangeable plain
  cases kinds with
  | @set set set' perm right_eq =>
    by_cases same : set'.items = set.items
    · exact abreast_performSet coupled (fun _ _ equal => equal ▸ abreast_firstMatch coupled _)
        right_eq (congrArg List.length same) (congrArg numbered same).symm
    · exact abreast_performSet coupled (fun available available' permuted =>
        coupled.picks grammar node set.items available available'
          (exchangeable set set' rfl rfl same) permuted) right_eq perm.length_eq.symm
        (permuted_numbered perm)
  | same =>
    cases kind with
    | token token => cases plain
    | sequence items => exact abreast_performSequence coupled 0 items
    | choice choice => exact abreast_performChoice coupled 0 choice.alternatives
    | list list => exact abreast_performList coupled budget rule.name list
    | set set =>
      exact abreast_performSet coupled (fun _ _ equal => equal ▸ abreast_firstMatch coupled _)
        rfl rfl rfl
    | operator operator =>
      exact abreast_performOperator coupled reordered.toRearranged budget operator
    | imported target => exact abreast_performImport coupled faithful republished target

end Kinds

/-! ### The operation itself -/

/-- What is done for a rule whose attempt has been noted comes to the same. -/
theorem abreast_pursue (faithful : environment.source.Faithful)
    {name : String} (found : grammar.rule? name = some rule)
    (reordered : rule.Reordered environment first grammar rule') (parent offset : Nat)
    {attempt attempt' : Rule → Nat → Step Bool}
    (tries : Tries environment first grammar (fun _ => True) rule parent (attempt rule parent))
    (tokens : ∀ token, rule.token? = some token → ∀ state : State, state.tree.Rising →
      parent < state.tree.size →
        (attempt' rule' parent state).outcome = tokenOutcome environment rule' token parent state)
    (attempts : rule.token? = none → Step.Abreast environment first grammar parent Eq
      (attempt rule parent) (attempt' rule' parent)) :
    Step.Abreast environment first grammar parent Eq
      (pursue environment attempt parent name offset rule)
      (pursue { environment with registry } attempt' parent name offset rule') := by
  refine .read (fun _ _ _ states => states.exceededLimit?_eq) fun exceeded => ?_
  cases exceeded with
  | some limit => exact .abort _ _
  | none =>
    refine (abreast_traceAttempt _ _).bind (remains_traceAttempt _ _) fun _ _ _ => ?_
    intro left right ready states
    have known : Known environment first rule :=
      ⟨grammar, name, ready.grammar_eq ▸ ready.grammar, found⟩
    have tries : Tries environment first left.grammar (fun _ => True) rule parent
        (attempt rule parent) := ready.grammar_eq ▸ tries
    refine (abreast_attemptMemoized known reordered.toRearranged parent
      (fun token isToken state rising inside => ⟨tries.outcome_eq token isToken state rising inside,
        tokens token isToken state rising inside⟩) attempts left right ready states).bind
      (meets_attemptMemoized faithful ready.toReady known tries)
      fun matched _ next next' equal tried states => ?_
    subst equal
    cases matched with
    | false =>
      have still : Still environment first left next := ⟨tried.toKept, tried.restored rfl⟩
      exact (abreast_count _).bind (remains_count _) (fun _ _ _ => .pure rfl) next next'
        (ready.of_still still) states
    | true =>
      have ready := ready.of_working (tried.working ready.toReady).1
      refine (abreast_skipWhitespace faithful parent).bind (remains_skipWhitespace faithful parent)
        (fun _ _ _ => ?_) next next' ready states
      exact (abreast_count _).bind (remains_count _) fun _ _ _ =>
        (abreast_traceAttempt _ _).bind (remains_traceAttempt _ _) fun _ _ _ => .pure rfl

/-- With one more rule allowed inside one another, a request for a rule comes to the same. -/
theorem abreast_consume_succ (faithful : environment.source.Faithful)
    (republished : Republished environment first registry) {fuel : Nat}
    (coupled : Coupled environment first (consume environment fuel)
      (consume { environment with registry } fuel)) (parent : Nat) (name : String) :
    Step.Abreast environment first grammar parent Eq
      (consume environment (fuel + 1) parent name)
      (consume { environment with registry } (fuel + 1) parent name) := by
  intro left right ready states
  have rules := states.grammar.rules name
  rw [(consume_succ environment fuel parent name left).1,
    (consume_succ { environment with registry } fuel parent name right).1]
  refine Outcome.Abreast.mapState ?_ fun _ _ states => states.changeStack (by
    rw [List.length_tail, List.length_tail, states.height_eq])
  generalize found : left.grammar.rule? name = rule, found' : right.grammar.rule? name = rule'
    at rules
  cases rules with
  | none =>
    rw [(invoke_of_absent environment _ parent found).1,
      (invoke_of_absent { environment with registry } _ parent found').1]
    exact .aborted
  | @some rule rule' reordered =>
    rw [(invoke_of_found environment _ parent found).1,
      (invoke_of_found { environment with registry } _ parent found').1, states.stop_eq]
    have entered : ReadyIn environment first left.grammar parent (left.entered parent name rule) :=
      ⟨ready.toReady.entered name rule, rfl⟩
    refine abreast_pursue faithful found reordered parent _
      (tries_perform faithful coupled.reliable left.grammar fuel rule parent fun _ => .inl trivial)
      (fun token isToken state rising inside => ?_) (fun plain => ?_) _ _ entered ?_
    · rw [perform_of_token? (reordered.token?_eq.trans isToken)]
      exact outcome_attemptWith_token rising inside
    · exact abreast_attemptWith reordered.toRearranged parent fun node =>
        abreast_perform coupled faithful republished reordered plain fuel node
    · exact ⟨states.grammar, states.tree, congrArg (· + 1) states.height_eq, states.memoizing_eq,
        states.recollections, states.informed⟩

/-- However much work is allowed, requests for rules come to the same. -/
theorem coupled_consume (faithful : environment.source.Faithful)
    (republished : Republished environment first registry) (fuel : Nat) :
    Coupled environment first (consume environment fuel)
      (consume { environment with registry } fuel) := by
  have reliable := fun fuel =>
    reliable_consume faithful (excuses_always environment first) fuel
  induction fuel with
  | zero =>
    refine ⟨reliable 0, fun _ _ _ => .exhausted, ?_⟩
    intro grammar node items available available' _ permuted left right ready states
    cases available with
    | nil =>
      obtain rfl := List.map_eq_nil_iff.mp permuted.perm.symm.eq_nil
      exact .done .none states
    | cons item rest =>
      cases available' with
      | nil => cases permuted.perm.length_eq
      | cons item' rest' => exact .exhausted
  | succ fuel inductionHypothesis =>
    have consumes : ∀ grammar node name, Step.Abreast environment first grammar node Eq
        (consume environment (fuel + 1) node name)
        (consume { environment with registry } (fuel + 1) node name) :=
      fun _ node name => abreast_consume_succ faithful republished inductionHypothesis node name
    exact ⟨reliable (fuel + 1), consumes, fun grammar node _ _ _ exchangeable permuted =>
      abreast_firstMatch_permuted (consumes grammar node) exchangeable permuted⟩

theorem abreast_begin (faithful : environment.source.Faithful)
    (republished : Republished environment first registry) (fuel : Nat) (start : String) :
    Step.Abreast environment first grammar Tree.root Eq (begin environment fuel start)
      (begin { environment with registry } fuel start) :=
  (abreast_skipWhitespace faithful Tree.root).bind (remains_skipWhitespace faithful Tree.root)
    fun _ _ _ => (coupled_consume faithful republished fuel).consumes grammar Tree.root start

end Rulebook.Parse
