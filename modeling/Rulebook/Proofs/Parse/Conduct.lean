/-
This file follows a parse through the seven kinds of rules. They all go through one operation,
to match a rule as the next child of a node. If that operation restores the tree when a rule
does not match and only works at the node when one does, each kind of rule only works at its
own node; and then the operation, closed under the kinds, is such an operation again. So every
moment that a parse passes through is a proper one.

Along the way it is seen what may keep a parse from coming to an end: an operation that does
not, and the rounds of lists and operators. The rounds of a list start further and further on.
Those of an operator do so too if an operator and the operand behind it take input together.
-/

import Rulebook.Parse.Run
import Rulebook.Proofs.Parse.Attempts

namespace Rulebook.Parse

open Match (Origin Tree)

variable {environment : Environment} {first : Grammar} {excuse : Prop} {excused : Nat → Prop}
  {consume : Consume} {before after state : State} {node parent : Nat}

/-- A way of matching rules that can be relied on: it leaves the tree as it was if a rule does
not match, and works at the parent alone if it does. What excuses it for not coming to an end
may depend on the height of the stack. -/
def Reliable (environment : Environment) (first : Grammar) (excused : Nat → Prop)
    (consume : Consume) : Prop :=
  ∀ parent name state, Ready environment first parent state →
    (consume parent name state).Meets (Proper environment first) (excused state.stack.length)
      (Answered environment first parent name state)

/-! ### Steps at a node -/

theorem meets_still {update : State → State}
    (still : Still environment first state (update state)) :
    (Step.change update state).Meets (Proper environment first) excuse fun _ after =>
      Still environment first state after :=
  meets_change still.sound.proper still

/-- A step that only keeps the books. It leaves alone the tree and what will be reported. -/
def Bookkeeping (environment : Environment) (first : Grammar) (state : State)
    (step : Step Unit) : Prop :=
  ∃ update, step = Step.change update ∧ Still environment first state (update state) ∧
    (update state).diagnostics = state.diagnostics

theorem bookkeeping_setAlternative (sound : Sound environment first state) (index : Nat) :
    Bookkeeping environment first state (Step.setAlternative index) := by
  refine ⟨_, rfl, .of_eq sound rfl rfl ?_ ?_ rfl, rfl⟩
  · cases state.stack <;> rfl
  · cases state.stack <;> rfl

theorem bookkeeping_log (sound : Sound environment first state) (event : Log.Event) :
    Bookkeeping environment first state (Step.log event) :=
  ⟨_, rfl, .of_eq sound rfl rfl rfl rfl rfl, rfl⟩

theorem bookkeeping_count (sound : Sound environment first state)
    (update : Statistics → Statistics) :
    Bookkeeping environment first state (Step.count update) :=
  ⟨_, rfl, .of_eq sound rfl rfl rfl rfl rfl, rfl⟩

theorem Bookkeeping.meets {step : Step Unit} (books : Bookkeeping environment first state step) :
    (step state).Meets (Proper environment first) excuse fun _ after =>
      Still environment first state after := by
  obtain ⟨update, rfl, still, -⟩ := books
  exact meets_still still

theorem meets_setAlternative (working : Working environment first node before state)
    (index : Nat) :
    (Step.setAlternative index state).Meets (Proper environment first) excuse fun _ after =>
      Working environment first node before after :=
  (bookkeeping_setAlternative working.sound index).meets.imp fun _ _ still => working.still still

theorem meets_log (sound : Sound environment first state) (event : Log.Event) :
    (Step.log event state).Meets (Proper environment first) excuse fun _ after =>
      Still environment first state after :=
  (bookkeeping_log sound event).meets

theorem meets_count (sound : Sound environment first state)
    (update : Statistics → Statistics) :
    (Step.count update state).Meets (Proper environment first) excuse fun _ after =>
      Still environment first state after :=
  (bookkeeping_count sound update).meets

theorem Reliable.working (reliable : Reliable environment first excused consume)
    (working : Working environment first node before state) (name : String) :
    (consume node name state).Meets (Proper environment first)
      (excused before.stack.length) fun _ after =>
      Working environment first node before after :=
  working.height_eq ▸ (reliable node name state working.ready).imp fun _ _ answered =>
    working.answered answered

theorem meets_consumeOptional (reliable : Reliable environment first excused consume)
    (working : Working environment first node before state) (rule : Option String)
    (otherwise : Bool) :
    (consumeOptional consume node rule otherwise state).Meets (Proper environment first)
      (excused before.stack.length) fun _ after => Working environment first node before after := by
  cases rule with
  | none => exact meets_pure working
  | some name => exact reliable.working working name

/-! ### Sequences and choices -/

theorem working_attach (working : Working environment first node before state)
    (origin : Origin) :
    Working environment first node before
      { state with tree := state.tree.attach node origin } := by
  have attached := ready_attach working.ready origin
  have grown : Tree.Grown node state.tree (state.tree.attach node origin) :=
    Tree.grown_attach working.sound.tree.rising working.isOpen.inside
  refine ⟨⟨working.toKept.trans (.of_tree working.sound attached.tree),
    working.grown.trans grown⟩, working.isOpen.of_grown grown ?_⟩
  rw [Tree.node_attach_parent working.isOpen.inside]
  exact working.isOpen.unmatched

theorem meets_leaveOut (working : Working environment first node before state)
    (rule : String) :
    (leaveOut environment node rule state).Meets (Proper environment first) excuse fun _ after =>
      Working environment first node before after := by
  have attached := working_attach working (.lambda rule)
  unfold leaveOut
  refine meets_change_bind attached.sound.proper ?_
  cases environment.tracing with
  | false => exact meets_pure attached
  | true =>
    exact meets_read_bind ((meets_log attached.sound _).imp fun _ _ still =>
      attached.still still)

theorem meets_performSequence (reliable : Reliable environment first excused consume)
    (working : Working environment first node before state) (index : Nat)
    (items : List SequenceItem) :
    (performSequence environment consume node index items state).Meets
      (Proper environment first) (excused before.stack.length) fun _ after =>
        Working environment first node before after := by
  induction items generalizing index state with
  | nil => exact meets_pure working
  | cons item rest inductionHypothesis =>
    rw [performSequence]
    refine (meets_setAlternative working index).bind fun _ _ working => ?_
    refine (reliable.working working item.rule).bind fun matched _ working => ?_
    cases matched with
    | true => exact inductionHypothesis working (index + 1)
    | false =>
      cases item.required with
      | true => exact meets_pure working
      | false =>
        exact (meets_leaveOut working item.rule).bind fun _ _ working =>
          inductionHypothesis working (index + 1)

theorem meets_performChoice (reliable : Reliable environment first excused consume)
    (working : Working environment first node before state) (index : Nat)
    (alternatives : List String) :
    (performChoice consume node index alternatives state).Meets (Proper environment first)
      (excused before.stack.length) fun _ after => Working environment first node before after := by
  induction alternatives generalizing index state with
  | nil => exact meets_pure working
  | cons alternative rest inductionHypothesis =>
    rw [performChoice]
    refine (meets_setAlternative working index).bind fun _ _ working => ?_
    refine (reliable.working working alternative).bind fun matched _ working => ?_
    cases matched with
    | true => exact meets_pure working
    | false => exact inductionHypothesis working (index + 1)

/-! ### Lists -/

/-- The least offset at which a round of a list may start. -/
def leastStart : Option Nat → Nat
  | none => 0
  | some offset => offset + 1

/-- Each round of a list starts further on than the round before, so there are no more rounds
than offsets. -/
theorem meets_listRounds (faithful : environment.source.Faithful)
    (reliable : Reliable environment first excused consume)
    (working : Working environment first node before state) (name : String) (rule : ListRule)
    (budget round : Nat) (last : Option Nat) (reached : ∀ offset, last = some offset →
      offset ≤ state.tree.stop node)
    (enough : excused before.stack.length ∨
      environment.source.size + 1 < leastStart last + budget) :
    (listRounds environment consume name rule node budget round last state).Meets
      (Proper environment first) (excused before.stack.length) fun _ after =>
        Working environment first node before after := by
  induction budget generalizing before round last state with
  | zero =>
    refine meets_exhausted (enough.resolve_right fun less => ?_)
    have bound := working.ready.stop_le faithful
    cases last with
    | none => simp [leastStart] at less
    | some offset =>
      have le := reached offset rfl
      rw [leastStart] at less
      omega
  | succ budget inductionHypothesis =>
    rw [listRounds]
    refine (meets_consumeOptional reliable working _ _).bind fun separated middle working => ?_
    cases separated with
    | false => exact meets_consumeOptional reliable working _ _
    | true =>
      refine meets_read_bind ?_
      split
      · exact meets_abort working.sound.proper
      · rename_i further
        -- The rest of the round is work from here on, so the next start is not before this one.
        have least : leastStart last ≤ middle.tree.stop node := by
          cases last with
          | none => exact Nat.zero_le _
          | some offset =>
            have beyond : ¬ middle.tree.stop node ≤ offset := by simpa using further
            exact Nat.lt_of_not_le beyond
        have still_enough : excused middle.stack.length ∨ environment.source.size + 1 <
            leastStart (some (middle.tree.stop node)) + budget := by
          rw [working.height_eq]
          refine enough.imp_right fun less => ?_
          rw [leastStart]
          omega
        rw [← working.height_eq]
        refine Run.Meets.imp ?_ fun _ _ later => working.trans later
        have here := Working.refl working.ready
        refine (meets_setAlternative here _).bind fun _ _ here => ?_
        refine (meets_consumeOptional reliable here _ _).bind fun closed _ here => ?_
        cases closed with
        | true => exact meets_pure here
        | false =>
          refine (reliable.working here rule.item).bind fun matched _ here => ?_
          cases matched with
          | false => exact meets_pure here
          | true =>
            refine inductionHypothesis here _ _ (fun offset same => ?_) still_enough
            rw [← Option.some.inj same]
            exact here.grown.stop_le

theorem meets_performList (faithful : environment.source.Faithful)
    (reliable : Reliable environment first excused consume)
    (working : Working environment first node before state) (budget : Nat) (name : String)
    (rule : ListRule)
    (enough : excused before.stack.length ∨ environment.source.size + 1 < budget) :
    (performList environment consume budget name rule node state).Meets
      (Proper environment first) (excused before.stack.length) fun _ after =>
        Working environment first node before after := by
  unfold performList
  refine (meets_consumeOptional reliable working _ _).bind fun opened _ working => ?_
  cases opened with
  | false => exact meets_pure working
  | true =>
    refine (meets_consumeOptional reliable working _ _).bind fun closed _ working => ?_
    cases closed with
    | true => exact meets_pure working
    | false =>
      refine (reliable.working working rule.item).bind fun matched _ working => ?_
      cases matched with
      | false => exact meets_pure working
      | true =>
        refine meets_listRounds faithful reliable working name rule budget 0 none ?_ ?_
        · intro offset absurd
          cases absurd
        · exact enough.imp_right fun less => Nat.lt_of_lt_of_le less (Nat.le_add_left _ _)

/-! ### Sets -/

theorem meets_firstMatch (reliable : Reliable environment first excused consume)
    (working : Working environment first node before state) (items : List (Nat × String)) :
    (firstMatch consume node items state).Meets (Proper environment first)
      (excused before.stack.length) fun _ after =>
      Working environment first node before after := by
  induction items generalizing state with
  | nil => exact meets_pure working
  | cons item rest inductionHypothesis =>
    rw [firstMatch]
    refine (meets_setAlternative working item.1).bind fun _ _ working => ?_
    refine (reliable.working working item.2).bind fun matched _ working => ?_
    cases matched with
    | true => exact meets_pure working
    | false => exact inductionHypothesis working

theorem meets_setRounds (reliable : Reliable environment first excused consume)
    (working : Working environment first node before state) (rule : SetRule) (rounds : Nat)
    (available : List (Nat × String)) (pending : Bool) :
    (setRounds consume rule node rounds available pending state).Meets
      (Proper environment first) (excused before.stack.length) fun _ after =>
        Working environment first node before after := by
  induction rounds generalizing available pending state with
  | zero => exact meets_pure working
  | succ rounds inductionHypothesis =>
    rw [setRounds]
    refine (meets_firstMatch reliable working available).bind fun matched _ working => ?_
    cases matched with
    | none => exact meets_pure working
    | some index =>
      cases rule.separator with
      | none => exact inductionHypothesis working _ _
      | some separator =>
        refine (reliable.working working separator).bind fun separated _ working => ?_
        cases separated with
        | true => exact inductionHypothesis working _ _
        | false => exact meets_pure working

theorem meets_performSet (reliable : Reliable environment first excused consume)
    (working : Working environment first node before state) (rule : SetRule) :
    (performSet consume rule node state).Meets (Proper environment first)
      (excused before.stack.length) fun _ after =>
      Working environment first node before after := by
  unfold performSet
  refine (meets_consumeOptional reliable working _ _).bind fun opened _ working => ?_
  cases opened with
  | false => exact meets_pure working
  | true =>
    refine (meets_setRounds reliable working rule _ _ _).bind fun pending _ working => ?_
    cases pending with
    | true => exact meets_pure working
    | false => exact meets_consumeOptional reliable working _ _

/-! ### Operators -/

/-- In a grammar, a name stands for a token, and no token that may answer for it matches the
empty text. -/
def Advances (environment : Environment) (first grammar : Grammar) (name : String) : Prop :=
  ∃ rule, grammar.rule? name = some rule ∧ rule.isToken = true ∧
    ∀ other token offset, StandsIn environment first rule other → other.token? = some token →
      token.matchAt? environment.source offset ≠ some 0

/-- Such a token takes input whenever it matches. -/
theorem Invoked.further {name : String}
    (invoked : Invoked environment first node name before true after)
    (advances : Advances environment first before.grammar name) :
    before.tree.stop node < after.tree.stop node := by
  obtain ⟨rule, found, isToken, nonempty⟩ := advances
  obtain ⟨other, token, length, standsIn, isOther, answer, bound⟩ :=
    invoked.took rfl rule found isToken
  have positive : length ≠ 0 := fun zero =>
    nonempty other token _ standsIn isOther (zero ▸ answer)
  omega

/-- Whenever an operator and then an operand match at a node, the node has taken input. -/
def Busy (environment : Environment) (first : Grammar) (consume : Consume) (grammar : Grammar)
    (rule : OperatorRule) : Prop :=
  ∀ node before between after, Ready environment first node before → before.grammar = grammar →
    (consume node rule.operator before).outcome = .done true between →
      (consume node rule.operand between).outcome = .done true after →
        before.tree.stop node < after.tree.stop node

/-- It is enough that the operator is a token that takes input. -/
theorem Reliable.busy (reliable : Reliable environment first excused consume) {grammar : Grammar}
    {rule : OperatorRule} (advances : Advances environment first grammar rule.operator) :
    Busy environment first consume grammar rule := by
  intro node before between after ready same found matched
  have answered := (reliable node rule.operator before ready).returns true between found
  have here := (Working.refl ready).answered answered
  have there := (reliable.working (.refl here.ready) rule.operand).returns true after matched
  exact Nat.lt_of_lt_of_le (answered.toInvoked.further (same ▸ advances)) there.grown.stop_le

theorem meets_operatorRounds (faithful : environment.source.Faithful)
    (reliable : Reliable environment first excused consume)
    (working : Working environment first node before state) (rule : OperatorRule)
    (budget : Nat) (enough : excused before.stack.length ∨
      environment.source.size < state.tree.stop node + budget ∧
        Busy environment first consume before.grammar rule) :
    (operatorRounds consume rule node budget state).Meets (Proper environment first)
      (excused before.stack.length) fun _ after =>
        Working environment first node before after := by
  induction budget generalizing before state with
  | zero =>
    refine meets_exhausted (enough.resolve_right fun less => ?_)
    have bound := working.ready.stop_le faithful
    omega
  | succ budget inductionHypothesis =>
    rw [operatorRounds]
    rw [← working.height_eq] at enough ⊢
    rw [← working.grammar_eq] at enough
    refine Run.Meets.imp ?_ fun _ _ later => working.trans later
    refine (reliable.working (.refl working.ready) rule.operator).and_done.bind
      fun found middle answered => ?_
    obtain ⟨here, separated⟩ := answered
    cases found with
    | false => exact meets_pure here
    | true =>
      refine (reliable.working here rule.operand).and_done.bind fun matched after answered => ?_
      obtain ⟨there, joined⟩ := answered
      cases matched with
      | false => exact meets_pure there
      | true =>
        refine inductionHypothesis there (enough.imp_right fun ⟨less, busy⟩ => ⟨?_, busy⟩)
        have taken := busy node state middle after working.ready rfl separated joined
        omega

theorem meets_performOperator (faithful : environment.source.Faithful)
    (reliable : Reliable environment first excused consume)
    (working : Working environment first node before state) (budget : Nat) (self : Rule)
    (rule : OperatorRule) (enough : excused before.stack.length ∨
      environment.source.size < budget ∧ Busy environment first consume before.grammar rule) :
    (performOperator consume budget self rule node state).Meets (Proper environment first)
      (excused before.stack.length) fun _ after =>
        Working environment first node before after := by
  unfold performOperator
  refine meets_read_bind ?_
  split
  · exact meets_pure working
  · refine (reliable.working working rule.operand).bind fun matched _ working => ?_
    cases matched with
    | false => exact meets_pure working
    | true =>
      refine meets_operatorRounds faithful reliable working rule budget
        (enough.imp_right fun ⟨less, busy⟩ => ⟨?_, busy⟩)
      exact Nat.lt_of_lt_of_le less (Nat.le_add_left _ _)

/-! ### Imports -/

/-- While another grammar is at work, the tree grows as ever, and afterwards the grammar is
what it was. -/
theorem meets_withGrammar {grammar : Grammar} (active : Active environment first grammar)
    (working : Working environment first node before state) {body : Step Bool}
    (meets : ∀ inner, Ready environment first node inner →
      (body inner).Meets (Proper environment first) (excused inner.stack.length)
        fun _ after => Working environment first node inner after) :
    (Step.withGrammar grammar body state).Meets (Proper environment first)
      (excused before.stack.length) fun _ after =>
        Working environment first node before after := by
  have inner : Ready environment first node { state with grammar } :=
    ⟨⟨working.sound.tree, active, working.sound.memoizing, working.sound.memo⟩, working.isOpen⟩
  have restored : ∀ next, Sound environment first next →
      Sound environment first { next with grammar := state.grammar } := fun _ sound =>
    ⟨sound.tree, working.sound.grammar, sound.memoizing, sound.memo⟩
  unfold Step.withGrammar
  rw [← working.height_eq]
  refine meets_read_bind (meets_change_bind inner.toSound.proper ?_)
  refine ((meets _ inner).ensuring (fun _ next worked => (restored next worked.sound).proper)
    fun next proper => (restored next proper.sound).proper).imp fun _ last ended => ?_
  obtain ⟨next, worked, rfl⟩ := ended
  exact working.trans ⟨⟨⟨restored next worked.sound, rfl, worked.tail_eq, worked.height_eq⟩,
    worked.grown⟩, worked.isOpen⟩

theorem meets_performImport (faithful : environment.source.Faithful)
    (reliable : Reliable environment first excused consume)
    (working : Working environment first node before state) (rule : ImportRule) :
    (performImport environment consume rule node state).Meets (Proper environment first)
      (excused before.stack.length) fun _ after => Working environment first node before after := by
  unfold performImport
  cases found : environment.registry.lookup? rule.grammar with
  | none => exact meets_abort working.sound.proper
  | some grammar =>
    refine meets_withGrammar (.inr ⟨rule.grammar, found⟩) working fun inner ready => ?_
    exact (meets_skipWhitespace faithful ready).bind fun _ _ skipped =>
      reliable.working skipped.toWorking rule.rule

/-! ### Any rule -/

theorem perform_of_token? {rule : Rule} {token : TokenRule} (isToken : rule.token? = some token)
    (consume : Consume) (budget : Nat) :
    perform environment consume budget rule = performToken environment token := by
  funext node
  rw [Rule.token?] at isToken
  split at isToken
  · rename_i kind
    rw [perform, kind, Option.some.inj isToken]
  · cases isToken

/-- Enough rounds are allowed for a rule of a grammar to come to an end. -/
structure Roomy (environment : Environment) (first grammar : Grammar) (rule : Rule)
    (budget : Nat) : Prop where
  rounds : environment.source.size + 1 < budget
  advances : ∀ operator, rule.kind = .operator operator →
    Advances environment first grammar operator.operator

/-- A rule that is no operator, or one whose rounds take input, comes to an end if enough rounds
are allowed. -/
def Bounded (environment : Environment) (first : Grammar) (consume : Consume) (grammar : Grammar)
    (rule : Rule) (budget : Nat) : Prop :=
  environment.source.size + 1 < budget ∧ ∀ operator, rule.kind = .operator operator →
    Busy environment first consume grammar operator

theorem Roomy.bounded {grammar : Grammar} {rule : Rule} {budget : Nat}
    (roomy : Roomy environment first grammar rule budget)
    (reliable : Reliable environment first excused consume) :
    Bounded environment first consume grammar rule budget :=
  ⟨roomy.rounds, fun operator kind => reliable.busy (roomy.advances operator kind)⟩

/-- Each kind of rule works at the node attached for it, and nowhere else. -/
theorem meets_perform (faithful : environment.source.Faithful)
    (reliable : Reliable environment first excused consume) (budget : Nat) {rule : Rule}
    (ready : Ready environment first node state)
    (childless : (state.tree.node node).children = #[])
    (isRule : (state.tree.node node).origin = .rule rule)
    (enough : excused state.stack.length ∨
      Bounded environment first consume state.grammar rule budget) :
    (perform environment consume budget rule node state).Meets (Proper environment first)
      (excused state.stack.length) fun _ after =>
        Worked environment first node state after := by
  have working := Working.refl ready
  have worked : ∀ {run : Run Bool}, (run.Meets (Proper environment first)
      (excused state.stack.length) fun _ after =>
        Working environment first node state after) →
      run.Meets (Proper environment first) (excused state.stack.length) fun _ after =>
        Worked environment first node state after := fun meets =>
    meets.imp fun _ _ working => working.toWorked
  cases kind : rule.kind with
  | token token =>
    have isToken : rule.token? = some token := by rw [Rule.token?, kind]
    rw [perform_of_token? isToken]
    exact meets_performToken faithful ready childless isRule isToken
  | sequence items =>
    rw [perform, kind]
    exact worked (meets_performSequence reliable working 0 items)
  | choice choice =>
    rw [perform, kind]
    exact worked (meets_performChoice reliable working 0 choice.alternatives)
  | list list =>
    rw [perform, kind]
    exact worked (meets_performList faithful reliable working budget rule.name list
      (enough.imp_right And.left))
  | set set =>
    rw [perform, kind]
    exact worked (meets_performSet reliable working set)
  | operator operator =>
    rw [perform, kind]
    exact worked (meets_performOperator faithful reliable working budget rule operator
      (enough.imp_right fun bounded => ⟨Nat.lt_of_succ_lt bounded.1, bounded.2 operator kind⟩))
  | imported target =>
    rw [perform, kind]
    exact worked (meets_performImport faithful reliable working target)

theorem tries_perform (faithful : environment.source.Faithful)
    (reliable : Reliable environment first excused consume) (grammar : Grammar) (budget : Nat)
    (rule : Rule) (parent : Nat)
    (enough : ∀ height, excused height ∨ Bounded environment first consume grammar rule budget) :
    Tries environment first grammar excused rule parent
      (attemptWith rule parent (perform environment consume budget rule)) where
  meets state ready same := by
    have new := Tree.node_attach_new ready.isOpen.inside (.rule rule)
    exact meets_attemptWith ready (meets_perform faithful reliable budget
      (ready_attach ready (.rule rule)) (by rw [new]) (by rw [new])
      (by rw [same]; exact enough _))
  outcome_eq token isToken state rising inside := by
    rw [perform_of_token? isToken]
    exact outcome_attemptWith_token rising inside

/-! ### The operation itself -/

theorem meets_traceAttempt (sound : Sound environment first state) (offset : Nat)
    (event : Position → Nat → Log.Event) :
    (traceAttempt environment offset event state).Meets (Proper environment first) excuse
      fun _ after => Still environment first state after := by
  unfold traceAttempt
  cases environment.tracing with
  | false => exact meets_pure (.refl sound)
  | true => exact meets_read_bind (meets_log sound _)

/-- The limit depends on the grammar and on the height of the stack. -/
theorem exceededLimit?_congr (environment : Environment)
    (grammar_eq : after.grammar = before.grammar)
    (height_eq : after.stack.length = before.stack.length) :
    exceededLimit? environment after = exceededLimit? environment before := by
  rw [exceededLimit?, exceededLimit?, grammar_eq, height_eq]

/-- A rule is tried within the limit only, so an excuse has to count only there. -/
theorem meets_invoke (faithful : environment.source.Faithful)
    (ready : Ready environment first parent state) (name : String)
    {attempt : Rule → Nat → Step Bool}
    (tries : ∀ rule, state.grammar.rule? name = some rule →
      Tries environment first state.grammar excused rule parent (attempt rule parent))
    (counts : exceededLimit? environment state = none → excused state.stack.length → excuse) :
    (invoke environment attempt parent name state).Meets (Proper environment first) excuse
      (Invoked environment first parent name state) := by
  unfold invoke
  refine meets_read_bind ((meets_count ready.toSound _).bind fun _ next counted => ?_)
  refine meets_read_bind ?_
  cases found : next.grammar.rule? name with
  | none => exact meets_abort counted.sound.proper
  | some rule =>
    rw [counted.grammar_eq] at found
    have known : Known environment first rule := ⟨state.grammar, name, ready.grammar, found⟩
    have recording : Still environment first next { next with
        diagnostics := next.diagnostics.record (state.tree.stop parent) rule next.stack } :=
      .of_eq counted.sound rfl rfl rfl rfl rfl
    refine (meets_still recording).bind fun _ noted recorded => meets_read_bind ?_
    have recorded := counted.trans recorded
    have limit_eq := exceededLimit?_congr environment recorded.grammar_eq
      recorded.height_eq
    cases limit : exceededLimit? environment noted with
    | some limit => exact meets_abort recorded.sound.proper
    | none =>
      rw [limit] at limit_eq
      refine (meets_traceAttempt recorded.sound _ _).bind fun _ last traced => ?_
      have still := recorded.trans traced
      have attempts := meets_attemptMemoized faithful (still.ready ready) known
        (by rw [still.grammar_eq]; exact tries rule found)
      rw [still.height_eq] at attempts
      refine (attempts.excuse (counts limit_eq.symm)).bind fun matched next tried => ?_
      have tried := Tried.of_still still tried
      cases matched with
      | false =>
        have restored : Still environment first state next :=
          ⟨tried.toKept, tried.restored rfl⟩
        exact (meets_count tried.sound _).bind fun _ _ counted =>
          meets_pure (.failed (restored.trans counted))
      | true =>
        refine (meets_skipWhitespace faithful (tried.working ready).1.ready).bind
          fun _ _ skipped => ?_
        refine (meets_count skipped.sound _).bind fun _ _ counted => ?_
        refine (meets_traceAttempt counted.sound _ _).bind fun _ _ traced => meets_pure ?_
        exact .succeeded found ready tried (skipped.still (counted.trans traced))

/-- What excuses the operation for not coming to an end, by the work allowed and the height of
the stack: it may always be that no work is allowed at all; an excuse inside a rule is one for
the rule, within the limit; and otherwise there are rounds enough. -/
structure Excuses (environment : Environment) (first : Grammar)
    (excused : Nat → Nat → Prop) : Prop where
  nothing : ∀ height, excused 0 height
  deeper : ∀ fuel height state, Active environment first state.grammar →
    exceededLimit? environment state = none → state.stack.length = height + 1 →
      excused fuel (height + 1) → excused (fuel + 1) height
  rounds : ∀ fuel height grammar name rule, Active environment first grammar →
    grammar.rule? name = some rule →
      excused fuel height ∨ Roomy environment first grammar rule fuel

/-- Whether a parse comes to an end may be left open. -/
theorem excuses_always (environment : Environment) (first : Grammar) :
    Excuses environment first fun _ _ => True where
  nothing _ := trivial
  deeper _ _ _ _ _ _ _ := trivial
  rounds _ _ _ _ _ _ _ := .inl trivial

/-- With one more rule allowed inside one another, the operation can be relied on if every rule
can be tried. -/
theorem reliable_succ (faithful : environment.source.Faithful) {deeper : Nat → Prop} {fuel : Nat}
    (tries : ∀ grammar name rule parent, Active environment first grammar →
      grammar.rule? name = some rule → Tries environment first grammar deeper rule parent
        (attemptWith rule parent (perform environment (Parse.consume environment fuel) fuel rule)))
    (counts : ∀ height state, Active environment first state.grammar →
      exceededLimit? environment state = none → state.stack.length = height + 1 →
        deeper (height + 1) → excused height) :
    Reliable environment first excused (Parse.consume environment (fuel + 1)) := by
  intro parent name state ready
  have framed : Sound environment first
      { state with stack := { rule := name } :: state.stack } :=
    ⟨ready.tree, ready.grammar, ready.memoizing, ready.memo⟩
  have unframed : ∀ next, Sound environment first next →
      Sound environment first { next with stack := next.stack.tail } := fun _ sound =>
    ⟨sound.tree, sound.grammar, sound.memoizing, sound.memo⟩
  rw [Parse.consume, Step.withFrame]
  refine meets_note_bind (ready.proper_asked name) (meets_change_bind framed.proper ?_)
  let attempt : Rule → Nat → Step Bool := fun rule parent =>
    attemptWith rule parent (perform environment (Parse.consume environment fuel) fuel rule)
  have resolved : ∀ rule, state.grammar.rule? name = some rule →
      Tries environment first state.grammar deeper rule parent (attempt rule parent) :=
    fun rule found => tries _ name rule parent ready.grammar found
  have invoked := meets_invoke faithful ⟨framed, ready.isOpen⟩ name resolved
    (fun within => counts state.stack.length
      { state with stack := { rule := name } :: state.stack } ready.grammar within rfl)
  refine (invoked.ensuring (fun _ next invoked => (unframed next invoked.sound).proper)
    fun next proper => (unframed next proper.sound).proper).imp fun matched last ended => ?_
  obtain ⟨next, invoked, rfl⟩ := ended
  have stack_eq : next.stack.tail = state.stack := invoked.tail_eq
  exact ⟨⟨⟨unframed next invoked.sound, invoked.grammar_eq, congrArg List.tail stack_eq,
    congrArg List.length stack_eq⟩, invoked.restored, invoked.added, invoked.took⟩, stack_eq⟩

/-- However deep it may go, the operation can be relied on. -/
theorem reliable_consume (faithful : environment.source.Faithful)
    {excused : Nat → Nat → Prop} (excuses : Excuses environment first excused) (fuel : Nat) :
    Reliable environment first (excused fuel) (Parse.consume environment fuel) := by
  induction fuel with
  | zero => exact fun _ _ state _ => meets_exhausted (excuses.nothing state.stack.length)
  | succ fuel inductionHypothesis =>
    refine reliable_succ faithful (fun grammar name rule parent active found => ?_)
      (excuses.deeper fuel)
    exact tries_perform faithful inductionHypothesis grammar fuel rule parent fun height =>
      (excuses.rounds fuel height grammar name rule active found).imp_right fun roomy =>
        roomy.bounded inductionHypothesis

/-! ### A whole parse -/

/-- The environment in which a text is parsed. -/
def Environment.ofText (input : String) (registry : Registry) (options : ParseOptions)
    (tracing : Bool) : Environment :=
  { source := .ofString input, registry, options, tracing }

theorem Environment.faithful_ofText (input : String) (registry : Registry)
    (options : ParseOptions) (tracing : Bool) :
    (Environment.ofText input registry options tracing).source.Faithful :=
  Source.faithful_ofString input

theorem ready_initial (environment : Environment) (first : Grammar) :
    Ready environment first Tree.root (State.initial first environment.options) := by
  have memo_eq : (State.initial first environment.options).memo =
      if environment.options.memoizeTokens then some {} else none := rfl
  refine ⟨⟨Tree.intact_new _, .inl rfl, ?_, fun memo present key outcome found => ?_⟩,
    Tree.open_new⟩
  · rw [memo_eq]
    cases environment.options.memoizeTokens <;> rfl
  · have empty : memo = {} := by
      rw [memo_eq] at present
      split at present
      · exact (Option.some.inj present).symm
      · cases present
    rw [empty, Std.HashMap.getElem?_empty] at found
    cases found

/-- A parse skips whitespace at the root and then asks for the start rule. -/
theorem meets_begin_of_reliable (faithful : environment.source.Faithful) {fuel : Nat}
    (reliable : Reliable environment first excused (Parse.consume environment fuel))
    (start : String) (ready : Ready environment first Tree.root state) :
    (begin environment fuel start state).Meets (Proper environment first)
      (excused state.stack.length) fun matched after =>
        ∃ middle, Skipped environment first Tree.root state middle ∧
          Answered environment first Tree.root start middle matched after := by
  unfold begin
  refine (meets_skipWhitespace faithful ready).bind fun _ middle skipped => ?_
  rw [← skipped.height_eq]
  exact (reliable _ start middle skipped.ready).imp
    fun _ _ answered => ⟨middle, skipped, answered⟩

theorem meets_begin (faithful : environment.source.Faithful)
    {excused : Nat → Nat → Prop} (excuses : Excuses environment first excused) (fuel : Nat)
    (start : String) (ready : Ready environment first Tree.root state) :
    (begin environment fuel start state).Meets (Proper environment first)
      (excused fuel state.stack.length) fun matched after =>
        ∃ middle, Skipped environment first Tree.root state middle ∧
          Answered environment first Tree.root start middle matched after :=
  meets_begin_of_reliable faithful (reliable_consume faithful excuses fuel) start ready

/-- The moments of a parse from a rule on, with all that may be wanted of its depth. -/
def Passes (environment : Environment) (first : Grammar) (start : String) (moment : Moment) :
    Prop :=
  ∃ fuel, moment ∈
    (begin environment fuel start (State.initial first environment.options)).trail.moments

/-- The states that a parse reaches from a rule on. -/
def Reachable (environment : Environment) (first : Grammar) (start : String) (state : State) :
    Prop :=
  state = State.initial first environment.options ∨
    ∃ happening, Passes environment first start ⟨happening, state⟩

theorem Passes.proper (faithful : environment.source.Faithful) {start : String} {moment : Moment}
    (passes : Passes environment first start moment) : Proper environment first moment := by
  obtain ⟨fuel, member⟩ := passes
  exact (meets_begin faithful (excuses_always environment first) fuel start
    (ready_initial environment first)).passes moment member

theorem Reachable.sound (faithful : environment.source.Faithful) {start : String}
    (reached : Reachable environment first start state) : Sound environment first state := by
  rcases reached with rfl | ⟨happening, passes⟩
  · exact (ready_initial environment first).toSound
  · exact (passes.proper faithful).sound

end Rulebook.Parse
