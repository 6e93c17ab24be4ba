/-
This file takes two parses through the seven kinds of rules side by side. They begin in states
that agree in everything but the memo, and may be run with different settings and with a
different amount of work allowed. If they agree wherever a rule is tried with the memo in
front of it, and wherever a limit is checked, they agree to the end.

What differs from one comparison to the next is stated as a property of the settings and the
memos; the walk through the rules is made once.
-/

import Rulebook.Proofs.Parse.Comparison
import Rulebook.Proofs.Parse.Conduct

namespace Rulebook.Parse

open Match (Origin Tree)

variable {environment : Environment} {options : ParseOptions} {first : Grammar}
  {spared : Option ParseError → Prop} {memos : Option Memo → Option Memo → Prop}
  {consume consume' : Consume} {before left right : State} {node parent : Nat}

/-- Two ways of matching rules agree, and the first can be relied on. -/
structure Lockstep (environment : Environment) (first : Grammar)
    (spared : Option ParseError → Prop) (memos : Option Memo → Option Memo → Prop)
    (consume consume' : Consume) : Prop where
  reliable : Reliable environment first (fun _ => True) consume
  agrees : ∀ parent name left right, Ready environment first parent left →
    left.Agrees memos right →
      Run.Agrees spared memos (consume parent name left)
        (consume' parent name right)

/-- So much work is allowed on both sides that the first is done, or spared, before the second
runs out. -/
def Suffices (spared : Option ParseError → Prop) (budget budget' : Nat) : Prop :=
  budget = budget' ∨ spared none ∧ budget ≤ budget'

theorem Suffices.zero {budget' : Nat} (enough : Suffices spared 0 budget') :
    budget' = 0 ∨ spared none :=
  enough.imp Eq.symm And.left

theorem Suffices.succ {budget budget' : Nat} (enough : Suffices spared (budget + 1) budget') :
    ∃ less, budget' = less + 1 ∧ Suffices spared budget less := by
  rcases enough with rfl | ⟨holds, le⟩
  · exact ⟨budget, rfl, .inl rfl⟩
  · exact ⟨budget' - 1, by omega, .inr ⟨holds, by omega⟩⟩

/-! ### Steps at a node -/

theorem agrees_setAlternative (agree : left.Agrees memos right) (index : Nat) :
    Run.Agrees spared memos (Step.setAlternative index left)
      (Step.setAlternative index right) :=
  agrees_change agree fun _ _ => rfl

/-- After a rule has been asked for on both sides, work goes on at the node. -/
theorem Lockstep.bind (lockstep : Lockstep environment first spared memos consume consume')
    (working : Working environment first node before left) (agree : left.Agrees memos right)
    (name : String) {Value : Type} {second second' : Bool → Step Value}
    (rest : ∀ matched next next', Working environment first node before next →
      next.Agrees memos next' →
        Run.Agrees spared memos (second matched next)
          (second' matched next')) :
    Run.Agrees spared memos ((consume node name >>= second) left)
      ((consume' node name >>= second') right) :=
  (lockstep.agrees node name left right working.ready agree).bind
    (lockstep.reliable.working working name) rest

theorem Lockstep.consumeOptional
    (lockstep : Lockstep environment first spared memos consume consume')
    (working : Working environment first node before left) (agree : left.Agrees memos right)
    (rule : Option String) (otherwise : Bool) :
    Run.Agrees spared memos (Parse.consumeOptional consume node rule otherwise left)
      (Parse.consumeOptional consume' node rule otherwise right) := by
  cases rule with
  | none => exact .done agree
  | some name => exact lockstep.agrees node name left right working.ready agree

theorem Lockstep.bindOptional
    (lockstep : Lockstep environment first spared memos consume consume')
    (working : Working environment first node before left) (agree : left.Agrees memos right)
    (rule : Option String) (otherwise : Bool) {Value : Type} {second second' : Bool → Step Value}
    (rest : ∀ matched next next', Working environment first node before next →
      next.Agrees memos next' →
        Run.Agrees spared memos (second matched next)
          (second' matched next')) :
    Run.Agrees spared memos
      ((Parse.consumeOptional consume node rule otherwise >>= second) left)
      ((Parse.consumeOptional consume' node rule otherwise >>= second') right) :=
  (lockstep.consumeOptional working agree rule otherwise).bind
    (meets_consumeOptional lockstep.reliable working rule otherwise) rest

/-! ### Sequences and choices -/

theorem agrees_log (agree : left.Agrees memos right) (event : Log.Event) :
    Run.Agrees spared memos (Step.log event left) (Step.log event right) :=
  agrees_change agree fun _ _ => rfl

theorem agrees_count (agree : left.Agrees memos right) (update : Statistics → Statistics) :
    Run.Agrees spared memos (Step.count update left)
      (Step.count update right) :=
  agrees_change agree fun _ _ => rfl

theorem agrees_leaveOut (agree : left.Agrees memos right) (rule : String) :
    Run.Agrees spared memos (leaveOut environment node rule left)
      (leaveOut { environment with options } node rule right) := by
  unfold leaveOut
  refine agrees_change_bind agree (fun _ _ => rfl) fun agree => ?_
  cases environment.tracing with
  | false => exact .done agree
  | true => exact agrees_read_bind agree (fun _ _ => rfl) (agrees_log agree _)

theorem agrees_performSequence
    (lockstep : Lockstep environment first spared memos consume consume')
    (working : Working environment first node before left) (agree : left.Agrees memos right)
    (index : Nat) (items : List SequenceItem) :
    Run.Agrees spared memos
      (performSequence environment consume node index items left)
      (performSequence { environment with options } consume' node index items right) := by
  induction items generalizing index left right with
  | nil => exact .done agree
  | cons item rest inductionHypothesis =>
    rw [performSequence, performSequence]
    refine (agrees_setAlternative agree index).bind (meets_setAlternative working index)
      fun _ _ _ working agree => ?_
    refine lockstep.bind working agree item.rule fun matched _ _ working agree => ?_
    cases matched with
    | true => exact inductionHypothesis working agree (index + 1)
    | false =>
      cases item.required with
      | true => exact .done agree
      | false =>
        exact (agrees_leaveOut agree item.rule).bind (meets_leaveOut working item.rule)
          fun _ _ _ working agree => inductionHypothesis working agree (index + 1)

theorem agrees_performChoice
    (lockstep : Lockstep environment first spared memos consume consume')
    (working : Working environment first node before left) (agree : left.Agrees memos right)
    (index : Nat) (alternatives : List String) :
    Run.Agrees spared memos (performChoice consume node index alternatives left)
      (performChoice consume' node index alternatives right) := by
  induction alternatives generalizing index left right with
  | nil => exact .done agree
  | cons alternative rest inductionHypothesis =>
    rw [performChoice, performChoice]
    refine (agrees_setAlternative agree index).bind (meets_setAlternative working index)
      fun _ _ _ working agree => ?_
    refine lockstep.bind working agree alternative fun matched _ _ working agree => ?_
    cases matched with
    | true => exact .done agree
    | false => exact inductionHypothesis working agree (index + 1)

/-! ### Lists -/

theorem agrees_listRounds
    (lockstep : Lockstep environment first spared memos consume consume')
    (working : Working environment first node before left) (agree : left.Agrees memos right)
    (name : String) (rule : ListRule) {budget budget' : Nat}
    (enough : Suffices spared budget budget') (round : Nat) (last : Option Nat) :
    Run.Agrees spared memos
      (listRounds environment consume name rule node budget round last left)
      (listRounds { environment with options } consume' name rule node budget' round last
        right) := by
  induction budget generalizing budget' round last left right with
  | zero =>
    rcases enough.zero with rfl | holds
    · exact .exhausted
    · exact .sparedExhaustion holds
  | succ budget inductionHypothesis =>
    obtain ⟨budget', rfl, less⟩ := enough.succ
    rw [listRounds, listRounds]
    refine lockstep.bindOptional working agree _ _ fun separated _ _ working agree => ?_
    cases separated with
    | false => exact lockstep.consumeOptional working agree _ _
    | true =>
      refine agrees_read_bind agree (fun _ _ => rfl) ?_
      split
      · exact agrees_abort agree environment options _
      · refine (agrees_setAlternative agree _).bind (meets_setAlternative working _)
          fun _ _ _ working agree => ?_
        refine lockstep.bindOptional working agree _ _ fun closed _ _ working agree => ?_
        cases closed with
        | true => exact .done agree
        | false =>
          refine lockstep.bind working agree rule.item fun matched _ _ working agree => ?_
          cases matched with
          | false => exact .done agree
          | true => exact inductionHypothesis working agree less _ _

theorem agrees_performList
    (lockstep : Lockstep environment first spared memos consume consume')
    (working : Working environment first node before left) (agree : left.Agrees memos right)
    {budget budget' : Nat} (enough : Suffices spared budget budget') (name : String)
    (rule : ListRule) :
    Run.Agrees spared memos
      (performList environment consume budget name rule node left)
      (performList { environment with options } consume' budget' name rule node right) := by
  unfold performList
  refine lockstep.bindOptional working agree _ _ fun opened _ _ working agree => ?_
  cases opened with
  | false => exact .done agree
  | true =>
    refine lockstep.bindOptional working agree _ _ fun closed _ _ working agree => ?_
    cases closed with
    | true => exact .done agree
    | false =>
      refine lockstep.bind working agree rule.item fun matched _ _ working agree => ?_
      cases matched with
      | false => exact .done agree
      | true => exact agrees_listRounds lockstep working agree name rule enough 0 none

/-! ### Sets -/

theorem agrees_firstMatch
    (lockstep : Lockstep environment first spared memos consume consume')
    (working : Working environment first node before left) (agree : left.Agrees memos right)
    (items : List (Nat × String)) :
    Run.Agrees spared memos (firstMatch consume node items left)
      (firstMatch consume' node items right) := by
  induction items generalizing left right with
  | nil => exact .done agree
  | cons item rest inductionHypothesis =>
    rw [firstMatch, firstMatch]
    refine (agrees_setAlternative agree item.1).bind (meets_setAlternative working item.1)
      fun _ _ _ working agree => ?_
    refine lockstep.bind working agree item.2 fun matched _ _ working agree => ?_
    cases matched with
    | true => exact .done agree
    | false => exact inductionHypothesis working agree

theorem agrees_setRounds
    (lockstep : Lockstep environment first spared memos consume consume')
    (working : Working environment first node before left) (agree : left.Agrees memos right)
    (rule : SetRule) (rounds : Nat) (available : List (Nat × String)) (pending : Bool) :
    Run.Agrees spared memos (setRounds consume rule node rounds available pending left)
      (setRounds consume' rule node rounds available pending right) := by
  induction rounds generalizing available pending left right with
  | zero => exact .done agree
  | succ rounds inductionHypothesis =>
    rw [setRounds, setRounds]
    refine (agrees_firstMatch lockstep working agree available).bind
      (meets_firstMatch lockstep.reliable working available) fun matched _ _ working agree => ?_
    cases matched with
    | none => exact .done agree
    | some index =>
      cases rule.separator with
      | none => exact inductionHypothesis working agree _ _
      | some separator =>
        refine lockstep.bind working agree separator fun separated _ _ working agree => ?_
        cases separated with
        | true => exact inductionHypothesis working agree _ _
        | false => exact .done agree

theorem agrees_performSet
    (lockstep : Lockstep environment first spared memos consume consume')
    (working : Working environment first node before left) (agree : left.Agrees memos right)
    (rule : SetRule) :
    Run.Agrees spared memos (performSet consume rule node left)
      (performSet consume' rule node right) := by
  unfold performSet
  refine lockstep.bindOptional working agree _ _ fun opened _ _ working agree => ?_
  cases opened with
  | false => exact .done agree
  | true =>
    refine (agrees_setRounds lockstep working agree rule _ _ _).bind
      (meets_setRounds lockstep.reliable working rule _ _ _) fun pending _ _ working agree => ?_
    cases pending with
    | true => exact .done agree
    | false => exact lockstep.consumeOptional working agree _ _

/-! ### Operators -/

theorem agrees_operatorRounds
    (lockstep : Lockstep environment first spared memos consume consume')
    (working : Working environment first node before left) (agree : left.Agrees memos right)
    (rule : OperatorRule) {budget budget' : Nat} (enough : Suffices spared budget budget') :
    Run.Agrees spared memos (operatorRounds consume rule node budget left)
      (operatorRounds consume' rule node budget' right) := by
  induction budget generalizing budget' left right with
  | zero =>
    rcases enough.zero with rfl | holds
    · exact .exhausted
    · exact .sparedExhaustion holds
  | succ budget inductionHypothesis =>
    obtain ⟨budget', rfl, less⟩ := enough.succ
    rw [operatorRounds, operatorRounds]
    refine lockstep.bind working agree rule.operator fun found _ _ working agree => ?_
    cases found with
    | false => exact .done agree
    | true =>
      refine lockstep.bind working agree rule.operand fun matched _ _ working agree => ?_
      cases matched with
      | false => exact .done agree
      | true => exact inductionHypothesis working agree less

theorem agrees_performOperator
    (lockstep : Lockstep environment first spared memos consume consume')
    (working : Working environment first node before left) (agree : left.Agrees memos right)
    {budget budget' : Nat} (enough : Suffices spared budget budget') (self : Rule)
    (rule : OperatorRule) :
    Run.Agrees spared memos (performOperator consume budget self rule node left)
      (performOperator consume' budget' self rule node right) := by
  unfold performOperator
  refine agrees_read_bind agree (fun _ _ => rfl) ?_
  split
  · exact .done agree
  · refine lockstep.bind working agree rule.operand fun matched _ _ working agree => ?_
    cases matched with
    | false => exact .done agree
    | true => exact agrees_operatorRounds lockstep working agree rule enough

/-! ### Attempts and whitespace -/

theorem agrees_performToken (agree : left.Agrees memos right) (token : TokenRule) :
    Run.Agrees spared memos (performToken environment token node left)
      (performToken { environment with options } token node right) := by
  unfold performToken
  refine agrees_read_bind agree (fun _ _ => rfl) ?_
  cases token.matchAt? environment.source (left.tree.stop node) with
  | none => exact .done agree
  | some length => exact agrees_change_bind agree (fun _ _ => rfl) fun agree => .done agree

theorem agrees_attemptWith (agree : left.Agrees memos right) (rule : Rule)
    {perform perform' : Nat → Step Bool}
    (performs : ∀ right', State.Agrees memos
        { left with tree := left.tree.attach parent (.rule rule) } right' →
      Run.Agrees spared memos
        (perform left.tree.size
          { left with tree := left.tree.attach parent (.rule rule) })
        (perform' left.tree.size right')) :
    Run.Agrees spared memos (attemptWith rule parent perform left)
      (attemptWith rule parent perform' right) := by
  unfold attemptWith
  refine agrees_read_bind agree (fun _ _ => rfl) ?_
  refine agrees_change_bind agree (fun _ _ => rfl) fun agree => ?_
  refine (performs _ agree).bind (Run.meets_trivial _) fun matched _ _ _ agree => ?_
  cases matched with
  | true => exact .done agree
  | false => exact agrees_change_bind agree (fun _ _ => rfl) fun agree => .done agree

/-- Trying a rule with the memo in front of it agrees if trying it without the memo does. This
is where the memos of the two sides may differ. -/
def Replays (environment : Environment) (first : Grammar) (spared : Option ParseError → Prop)
    (memos : Option Memo → Option Memo → Prop) : Prop :=
  ∀ rule parent attempt attempt' left right, Known environment first rule →
    Tries environment first left.grammar (fun _ => True) rule parent attempt →
    (∀ token, rule.token? = some token → Tokenless attempt ∧ Tokenless attempt' ∧
      ∀ state : State, state.tree.Rising → parent < state.tree.size →
        (attempt' state).outcome = tokenOutcome environment rule token parent state) →
    Ready environment first parent left → left.Agrees memos right →
    (∀ next next', Ready environment first parent next → next.grammar = left.grammar →
      next.Agrees memos next' →
        Run.Agrees spared memos (attempt next) (attempt' next')) →
    Run.Agrees spared memos (attemptMemoized rule parent attempt left)
      (attemptMemoized rule parent attempt' right)

section Whitespace

variable (replays : Replays environment first spared memos)
  (faithful : environment.source.Faithful)
include replays faithful

theorem agrees_attemptBlank (ready : Ready environment first parent left)
    (agree : left.Agrees memos right) {rule : Rule} (known : Known environment first rule) :
    Run.Agrees spared memos (attemptBlank environment parent rule left)
      (attemptBlank { environment with options } parent rule right) := by
  unfold attemptBlank
  cases isToken : rule.token? with
  | none => exact .done agree
  | some token =>
    refine replays rule parent _ _ left right known (tries_token faithful isToken) ?_ ready
      agree fun next next' _ _ agree => ?_
    · intro other same
      obtain rfl := Option.some.inj (isToken.symm.trans same)
      exact ⟨tokenless_attemptToken rule parent token, tokenless_attemptToken rule parent token,
        fun state rising inside => outcome_attemptWith_token rising inside⟩
    · exact agrees_attemptWith agree rule fun _ agree => agrees_performToken agree token

theorem agrees_skipOne (ready : Ready environment first parent left)
    (agree : left.Agrees memos right) {tokens : List Rule}
    (known : ∀ rule ∈ tokens, Known environment first rule) :
    Run.Agrees spared memos (skipOne environment parent tokens left)
      (skipOne { environment with options } parent tokens right) := by
  induction tokens generalizing left right with
  | nil => exact .done agree
  | cons rule rest inductionHypothesis =>
    have rest_known := fun rule member => known rule (List.mem_cons_of_mem _ member)
    rw [skipOne, skipOne]
    refine agrees_read_bind agree (fun _ _ => rfl) ?_
    refine (agrees_attemptBlank replays faithful ready agree (known rule List.mem_cons_self)).bind
      (meets_attemptBlank faithful ready (known rule List.mem_cons_self))
      fun matched next _ attempted agree => ?_
    cases matched with
    | false =>
      have still : Still environment first left next :=
        ⟨attempted.toKept, attempted.restored rfl⟩
      exact inductionHypothesis (still.ready ready) agree rest_known
    | true =>
      refine agrees_read_bind agree (fun _ _ => rfl) ?_
      split
      · exact agrees_change_bind agree (fun _ _ => rfl) fun agree => .done agree
      · have still := still_discardLast ready attempted.toKept (attempted.grown rfl)
        exact agrees_change_bind agree (fun _ _ => rfl) fun agree =>
          inductionHypothesis (still.ready ready) agree rest_known

theorem agrees_skipAll (ready : Ready environment first parent left)
    (agree : left.Agrees memos right) {tokens : List Rule}
    (known : ∀ rule ∈ tokens, Known environment first rule) (rounds : Nat) :
    Run.Agrees spared memos (skipAll environment parent tokens rounds left)
      (skipAll { environment with options } parent tokens rounds right) := by
  induction rounds generalizing left right with
  | zero => exact .exhausted
  | succ rounds inductionHypothesis =>
    rw [skipAll, skipAll]
    refine (agrees_skipOne replays faithful ready agree known).bind
      (meets_skipOne faithful ready known) fun skipped _ _ round agree => ?_
    cases skipped with
    | false => exact .done agree
    | true => exact inductionHypothesis (round.skipped ready).ready agree

theorem agrees_skipWhitespace (ready : Ready environment first parent left)
    (agree : left.Agrees memos right) :
    Run.Agrees spared memos (skipWhitespace environment parent left)
      (skipWhitespace { environment with options } parent right) := by
  rw [skipWhitespace, skipWhitespace]
  refine agrees_read_bind agree (fun _ _ => rfl) ?_
  cases left.grammar.whitespaceDisabled with
  | true => exact .done agree
  | false =>
    exact agrees_skipAll replays faithful ready agree (known_whitespaceTokens ready.grammar) _

/-! ### Imports -/

theorem agrees_performImport
    (lockstep : Lockstep environment first spared memos consume consume')
    (ready : Ready environment first node left) (agree : left.Agrees memos right)
    (rule : ImportRule) :
    Run.Agrees spared memos (performImport environment consume rule node left)
      (performImport { environment with options } consume' rule node right) := by
  rw [performImport, performImport]
  cases found : environment.registry.lookup? rule.grammar with
  | none => exact agrees_abort agree environment options _
  | some grammar =>
    have inner : Ready environment first node { left with grammar } :=
      ⟨⟨ready.tree, .inr ⟨rule.grammar, found⟩, ready.memoizing, ready.memo⟩, ready.isOpen⟩
    simp only [Step.withGrammar]
    refine agrees_read_bind agree (fun _ _ => rfl) ?_
    refine agrees_change_bind agree (fun _ _ => rfl) fun agree => ?_
    refine agrees_ensuring ?_ fun _ _ => rfl
    exact (agrees_skipWhitespace replays faithful inner agree).bind
      (meets_skipWhitespace faithful inner) fun _ _ _ skipped agree =>
        lockstep.agrees node rule.rule _ _ skipped.ready agree

/-! ### Any rule -/

theorem agrees_perform
    (lockstep : Lockstep environment first spared memos consume consume')
    {budget budget' : Nat} (enough : Suffices spared budget budget')
    (ready : Ready environment first node left) (agree : left.Agrees memos right) (rule : Rule) :
    Run.Agrees spared memos (perform environment consume budget rule node left)
      (perform { environment with options } consume' budget' rule node right) := by
  have working := Working.refl ready
  rw [perform, perform]
  cases rule.kind with
  | token token => exact agrees_performToken agree token
  | sequence items => exact agrees_performSequence lockstep working agree 0 items
  | choice choice => exact agrees_performChoice lockstep working agree 0 choice.alternatives
  | list list => exact agrees_performList lockstep working agree enough rule.name list
  | set set => exact agrees_performSet lockstep working agree set
  | operator operator => exact agrees_performOperator lockstep working agree enough rule operator
  | imported target => exact agrees_performImport replays faithful lockstep ready agree target

/-! ### The operation itself -/

omit replays faithful in
theorem agrees_traceAttempt (agree : left.Agrees memos right) (offset : Nat)
    (event : Position → Nat → Log.Event) :
    Run.Agrees spared memos (traceAttempt environment offset event left)
      (traceAttempt { environment with options } offset event right) := by
  rw [traceAttempt, traceAttempt]
  cases environment.tracing with
  | false => exact .done agree
  | true => exact agrees_read_bind agree (fun _ _ => rfl) (agrees_log agree _)

end Whitespace

/-- The limits on the stack are the same on both sides, or exceeding one on the first side is
spared the comparison. -/
def Limits (environment : Environment) (options : ParseOptions)
    (spared : Option ParseError → Prop) : Prop :=
  ∀ state, exceededLimit? { environment with options } state = exceededLimit? environment state ∨
    ∃ limit, exceededLimit? environment state = some limit ∧
      ∀ error : ParseError, error.cause = .maxRecursionDepth limit → spared (some error)

theorem agrees_limit {second second' : Option Nat → Step Bool}
    (limits : Limits environment options spared) (agree : left.Agrees memos right)
    (same : Run.Agrees spared memos (second (exceededLimit? environment left) left)
      (second' (exceededLimit? environment left) right))
    (exceeded : ∀ limit state,
      second (some limit) state = abort environment (.maxRecursionDepth limit) state) :
    Run.Agrees spared memos
      ((Step.read (exceededLimit? environment) >>= second) left)
      ((Step.read (exceededLimit? { environment with options }) >>= second') right) := by
  have right_eq : exceededLimit? { environment with options } right =
      exceededLimit? { environment with options } left := agree.view_eq _ fun _ _ => rfl
  rcases limits left with equal | ⟨limit, found, holds⟩
  · exact agrees_read_views (by rw [right_eq, equal]; exact same)
  · have aborted : ((Step.read (exceededLimit? environment) >>= second) left).outcome =
        .aborted (left.abortion environment (.maxRecursionDepth limit)) left := by
      rw [Step.outcome_read_bind, found, exceeded]
      rfl
    exact .sparedAbortion aborted (holds _ rfl)

theorem agrees_invoke (replays : Replays environment first spared memos)
    (limits : Limits environment options spared) (faithful : environment.source.Faithful)
    (ready : Ready environment first parent left) (agree : left.Agrees memos right)
    (name : String) {attempt attempt' : Rule → Nat → Step Bool}
    (tries : ∀ rule, left.grammar.rule? name = some rule →
      Tries environment first left.grammar (fun _ => True) rule parent (attempt rule parent))
    (tokens : ∀ rule token, rule.token? = some token → Tokenless (attempt rule parent) ∧
      Tokenless (attempt' rule parent) ∧ ∀ state : State, state.tree.Rising →
        parent < state.tree.size →
          (attempt' rule parent state).outcome = tokenOutcome environment rule token parent state)
    (attempts : ∀ rule next next', Ready environment first parent next →
      next.Agrees memos next' →
        Run.Agrees spared memos (attempt rule parent next)
          (attempt' rule parent next')) :
    Run.Agrees spared memos (invoke environment attempt parent name left)
      (invoke { environment with options } attempt' parent name right) := by
  unfold invoke
  refine agrees_read_bind agree (fun _ _ => rfl) ?_
  refine (agrees_count agree _).bind (meets_count ready.toSound _)
    fun _ next _ counted agree => ?_
  refine agrees_read_bind agree (fun _ _ => rfl) ?_
  cases found : next.grammar.rule? name with
  | none => exact agrees_abort agree environment options _
  | some rule =>
    rw [counted.grammar_eq] at found
    have known : Known environment first rule := ⟨left.grammar, name, ready.grammar, found⟩
    have recording : Still environment first next { next with
        diagnostics := next.diagnostics.record (left.tree.stop parent) rule next.stack } :=
      .of_eq counted.sound rfl rfl rfl rfl rfl
    refine (agrees_change agree fun _ _ => rfl).bind (meets_still recording)
      fun _ noted noted' recorded agree => ?_
    have recorded := counted.trans recorded
    refine agrees_limit limits agree ?_ fun _ _ => rfl
    cases exceededLimit? environment noted with
    | some limit => exact agrees_abort agree environment options _
    | none =>
      refine (agrees_traceAttempt agree _ _).bind (meets_traceAttempt recorded.sound _ _)
        fun _ last _ traced agree => ?_
      have still := recorded.trans traced
      have tries := tries rule found
      rw [← still.grammar_eq] at tries
      refine (replays rule parent _ (attempt' rule parent) _ _ known tries
        (tokens rule) (still.ready ready) agree
          fun next next' ready _ agree => attempts rule next next' ready agree).bind
        (meets_attemptMemoized faithful (still.ready ready) known tries)
        fun matched next _ tried agree => ?_
      have tried := Tried.of_still still tried
      cases matched with
      | false => exact agrees_change_bind agree (fun _ _ => rfl) fun agree => .done agree
      | true =>
        have ready := (tried.working ready).1.ready
        refine (agrees_skipWhitespace replays faithful ready agree).bind
          (Run.meets_trivial _) fun _ _ _ _ agree => ?_
        refine agrees_change_bind agree (fun _ _ => rfl) fun agree => ?_
        exact (agrees_traceAttempt agree _ _).bind (Run.meets_trivial _)
          fun _ _ _ _ agree => .done agree

/-- Two parses that agree about the memo and the limits agree in everything. -/
theorem lockstep_consume (replays : Replays environment first spared memos)
    (limits : Limits environment options spared) (faithful : environment.source.Faithful)
    {fuel fuel' : Nat} (enough : Suffices spared fuel fuel') :
    Lockstep environment first spared memos (Parse.consume environment fuel)
      (Parse.consume { environment with options } fuel') := by
  induction fuel generalizing fuel' with
  | zero =>
    refine ⟨reliable_consume faithful (excuses_always environment first) 0, ?_⟩
    intro parent name left right ready agree
    rcases enough.zero with rfl | holds
    · exact .exhausted
    · exact .sparedExhaustion holds
  | succ fuel inductionHypothesis =>
    refine ⟨reliable_consume faithful (excuses_always environment first) (fuel + 1), ?_⟩
    intro parent name left right ready agree
    obtain ⟨fuel', rfl, less⟩ := enough.succ
    have lockstep := inductionHypothesis less
    have framed : Ready environment first parent
        { left with stack := { rule := name } :: left.stack } :=
      ⟨⟨ready.tree, ready.grammar, ready.memoizing, ready.memo⟩, ready.isOpen⟩
    rw [Parse.consume, Parse.consume, Step.withFrame, Step.withFrame]
    have unkeyed : Moment.key? ⟨.asked parent name, right⟩ =
        Moment.key? ⟨.asked parent name, left⟩ := rfl
    refine agrees_note_bind unkeyed (agrees_change_bind agree (fun _ _ => rfl) fun agree => ?_)
    refine agrees_ensuring ?_ fun _ _ => rfl
    refine agrees_invoke replays limits faithful framed agree name
      (fun rule _ => tries_perform faithful lockstep.reliable _ fuel rule parent
        fun _ => .inl trivial) (fun rule token isToken => ?_)
      fun rule next next' ready agree => ?_
    · rw [perform_of_token? isToken, perform_of_token? isToken]
      exact ⟨tokenless_attemptToken rule parent token, tokenless_attemptToken rule parent token,
        fun state rising inside => outcome_attemptWith_token rising inside⟩
    · exact agrees_attemptWith agree rule fun _ agree =>
        agrees_perform replays faithful lockstep less (ready_attach ready (.rule rule)) agree rule

theorem agrees_begin (replays : Replays environment first spared memos)
    (limits : Limits environment options spared) (faithful : environment.source.Faithful)
    {fuel fuel' : Nat} (enough : Suffices spared fuel fuel') (start : String)
    (ready : Ready environment first Tree.root left) (agree : left.Agrees memos right) :
    Run.Agrees spared memos (begin environment fuel start left)
      (begin { environment with options } fuel' start right) := by
  rw [begin, begin]
  exact (agrees_skipWhitespace replays faithful ready agree).bind
    (meets_skipWhitespace faithful ready) fun _ _ _ skipped agree =>
      (lockstep_consume replays limits faithful enough).agrees _ start _ _ skipped.ready agree

end Rulebook.Parse
