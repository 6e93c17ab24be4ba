/-
This file keeps the accounts of a parse. Every call of a rule is counted when it is made and
answered before it returns, so the calls that are still to be answered are the same before and
after every part of a parse that returns.

A memo counts each question that it is asked. If it knows the answer, the token is not tried;
if not, the token is tried, and from then on the memo knows. So the questions to which it had no
answer are its entries, and no key is among them twice.
-/

import Rulebook.Proofs.Parse.Conduct
import Rulebook.Proofs.Parse.Lexing

namespace Rulebook

/-- The calls that have been made and not been answered yet. -/
def Statistics.pending (statistics : Statistics) : Int :=
  statistics.calls - (statistics.found + statistics.notFound)

/-! ### Optional values that are related -/

section

variable {Left Right : Type} {relation : Left → Right → Prop} {last : Option Right}

theorem exists_of_rel_some {value : Left} (related : Option.Rel relation (some value) last) :
    ∃ other, last = some other ∧ relation value other := by
  cases related with
  | some holds => exact ⟨_, rfl, holds⟩

theorem eq_none_of_rel_none (related : Option.Rel relation none last) : last = none := by
  cases related
  rfl

end

/-! ### Questions to a memo -/

/-- A memo has been asked for some keys, and it did not know some of them until it was asked. -/
structure Memo.Asked (keys missed : List MemoKey) (before after : Memo) : Prop where
  asked_eq : after.hits + after.misses = before.hits + before.misses + keys.length
  missed_eq : after.misses = before.misses + missed.length
  size_eq : after.entries.size = before.entries.size + missed.length
  mem_iff : ∀ key, key ∈ after.entries ↔ key ∈ before.entries ∨ key ∈ missed
  fresh : ∀ key ∈ missed, key ∉ before.entries
  distinct : missed.Nodup

namespace Memo

variable {keys missed later laterMissed : List MemoKey} {before middle after memo : Memo}
  {key : MemoKey}

theorem asked_refl (memo : Memo) : memo.Asked [] [] memo where
  asked_eq := rfl
  missed_eq := rfl
  size_eq := rfl
  mem_iff key := by simp
  fresh key absurd := nomatch absurd
  distinct := List.nodup_nil

theorem Asked.trans (left : Asked keys missed before middle)
    (right : Asked later laterMissed middle after) :
    Asked (keys ++ later) (missed ++ laterMissed) before after where
  asked_eq := by rw [right.asked_eq, left.asked_eq, List.length_append, Nat.add_assoc]
  missed_eq := by rw [right.missed_eq, left.missed_eq, List.length_append, Nat.add_assoc]
  size_eq := by rw [right.size_eq, left.size_eq, List.length_append, Nat.add_assoc]
  mem_iff key := by rw [right.mem_iff, left.mem_iff, List.mem_append, or_assoc]
  fresh key member := by
    rcases List.mem_append.mp member with early | late
    · exact left.fresh key early
    · exact fun known => right.fresh key late ((left.mem_iff key).mpr (.inl known))
  distinct := by
    refine List.nodup_append.mpr ⟨left.distinct, right.distinct, fun key early other late => ?_⟩
    rintro rfl
    exact right.fresh key late ((left.mem_iff key).mpr (.inr early))

/-- A question to which the memo knows the answer. -/
theorem asked_of_known (known : key ∈ memo.entries) :
    memo.Asked [key] [] (memo.lookup key).2 := by
  obtain ⟨outcome, found⟩ : ∃ outcome, memo.entries[key]? = some outcome :=
    ⟨_, Std.HashMap.getElem?_eq_some_getElem known⟩
  rw [lookup, found]
  exact ⟨Nat.add_right_comm _ _ _, rfl, rfl, fun key => by simp,
    fun _ absurd => (by cases absurd), List.nodup_nil⟩

/-- A question to which the memo learns the answer, after it was asked nothing else. -/
theorem asked_of_unknown (unknown : key ∉ memo.entries)
    (rest : Asked [] [] (memo.lookup key).2 after) (outcome : Option Nat) :
    memo.Asked [key] [key] (after.store key outcome) := by
  have missing : memo.entries[key]? = none := Std.HashMap.getElem?_eq_none unknown
  rw [lookup, missing] at rest
  have sameKeys : ∀ other, other ∈ after.entries ↔ other ∈ memo.entries := by
    intro other
    rw [rest.mem_iff]
    simp
  refine ⟨rest.asked_eq.trans (Nat.add_assoc _ _ _).symm, rest.missed_eq, ?_, fun other => ?_,
    ?_, List.nodup_singleton key⟩
  · have notThere : key ∉ after.entries := fun there => unknown ((sameKeys key).mp there)
    rw [store, Std.HashMap.size_insert, if_neg notThere, rest.size_eq]
    rfl
  · rw [store, Std.HashMap.mem_insert, sameKeys, beq_iff_eq, List.mem_singleton, or_comm,
      eq_comm]
  · rintro other member
    rw [List.mem_singleton.mp member]
    exact unknown

end Memo

namespace Parse

open Match (Tree)

variable {Value Result : Type} {environment : Environment} {state : State} {rule : Rule}
  {parent : Nat}

/-! ### Accounts -/

/-- What happens between two states is accounted for: the memo was asked for some keys, and did
not know some of them. Some calls may still have to be answered, or had to be before. -/
structure Accounted (owed : Int) (keys missed : List MemoKey) (before after : State) :
    Prop where
  pending_eq : after.statistics.pending = before.statistics.pending + owed
  hits_eq : after.statistics.cacheHits = before.statistics.cacheHits
  misses_eq : after.statistics.cacheMisses = before.statistics.cacheMisses
  memo : Option.Rel (Memo.Asked keys missed) before.memo after.memo

/-- Whatever happens in a step that returns is accounted for, up to some calls. -/
def Owes (owed : Int) (step : Step Value) : Prop :=
  ∀ state value after, (step state).outcome = .done value after →
    Accounted owed (tokenAttempts (step state).trail.moments)
      (evaluations (step state).trail.moments) state after

/-- Whatever happens in a step that returns is accounted for. -/
abbrev Accountable (step : Step Value) : Prop :=
  Owes 0 step

variable {owed : Int} {before middle after : State} {keys missed later laterMissed : List MemoKey}
  {moments : List Moment}

/-- The memo was not asked, and the counters are what they were. -/
theorem accounted_of_unasked (memo_eq : after.memo = before.memo)
    (statistics_eq : after.statistics = before.statistics) :
    Accounted 0 [] [] before after where
  pending_eq := by rw [statistics_eq, Int.add_zero]
  hits_eq := by rw [statistics_eq]
  misses_eq := by rw [statistics_eq]
  memo := by
    rw [memo_eq]
    cases before.memo with
    | none => exact .none
    | some memo => exact .some (Memo.asked_refl memo)

theorem Accounted.trans {more : Int} (left : Accounted owed keys missed before middle)
    (right : Accounted more later laterMissed middle after) :
    Accounted (owed + more) (keys ++ later) (missed ++ laterMissed) before after where
  pending_eq := by rw [right.pending_eq, left.pending_eq, Int.add_assoc]
  hits_eq := right.hits_eq.trans left.hits_eq
  misses_eq := right.misses_eq.trans left.misses_eq
  memo := by
    have first := left.memo
    have second := right.memo
    generalize before.memo = old, middle.memo = between, after.memo = new at first second ⊢
    cases first with
    | none =>
      cases second
      exact .none
    | some first =>
      cases second with
      | some second => exact .some (first.trans second)

/-- A step that returns and tries no token has been accounted for if it asked no questions. -/
theorem accounted_of_keyless (keyless : Keyless moments)
    (accounted : Accounted owed [] [] before after) :
    Accounted owed (tokenAttempts moments) (evaluations moments) before after := by
  rw [keyless.tokenAttempts, keyless.evaluations]
  exact accounted

namespace Owes

theorem pure (value : Value) : Accountable (Pure.pure value : Step Value) := by
  intro state other after done
  cases done
  refine accounted_of_keyless ?_ (accounted_of_unasked rfl rfl)
  rw [show ((Pure.pure value : Step Value) state).trail.moments = [] from Trail.moments_empty]
  exact List.forall_mem_nil _

theorem read (view : State → Value) : Accountable (Step.read view) := by
  intro state other after done
  cases done
  refine accounted_of_keyless ?_ (accounted_of_unasked rfl rfl)
  rw [show (Step.read view state).trail.moments = [] from Trail.moments_empty]
  exact List.forall_mem_nil _

theorem exhausted : Owes owed (Step.exhausted : Step Value) :=
  fun _ _ _ done => nomatch done

theorem abort {cause : FailureCause} :
    Owes owed (Parse.abort environment cause : Step Value) :=
  fun _ _ _ done => nomatch done

/-- A change that concerns neither the counters nor the memo. -/
theorem change {update : State → State}
    (blind : ∀ state, (update state).memo = state.memo ∧
      (update state).statistics = state.statistics) : Accountable (Step.change update) := by
  intro state value after done
  cases done
  refine accounted_of_keyless (keyless_single rfl)
    (accounted_of_unasked (blind state).1 (blind state).2)

theorem changeTree (update : Tree → Tree) : Accountable (Step.changeTree update) :=
  change fun _ => ⟨rfl, rfl⟩

theorem setAlternative (index : Nat) : Accountable (Step.setAlternative index) :=
  change fun _ => ⟨rfl, rfl⟩

theorem log (event : Log.Event) : Accountable (Step.log event) :=
  change fun _ => ⟨rfl, rfl⟩

/-- A change of the counters. -/
theorem count {update : Statistics → Statistics}
    (pending_eq : ∀ statistics, (update statistics).pending = statistics.pending + owed)
    (cache_eq : ∀ statistics, (update statistics).cacheHits = statistics.cacheHits ∧
      (update statistics).cacheMisses = statistics.cacheMisses) :
    Owes owed (Step.count update) := by
  intro state value after done
  cases done
  exact accounted_of_keyless (keyless_single rfl) ⟨pending_eq _, (cache_eq _).1, (cache_eq _).2,
    (accounted_of_unasked rfl rfl).memo⟩

theorem note {happening : Happening} (keyless : ∀ state, Moment.key? ⟨happening, state⟩ = none) :
    Accountable (Step.note happening) := by
  intro state value after done
  cases done
  exact accounted_of_keyless (keyless_single (keyless state)) (accounted_of_unasked rfl rfl)

/-- What one step owes and what the next one owes adds up. -/
theorem bind_of_add {less : Int} (more : Int) {first : Step Value}
    {second : Value → Step Result} (left : Owes less first)
    (right : ∀ value, Owes more (second value)) (sum : less + more = owed) :
    Owes owed (first >>= second) := by
  subst sum
  intro state result after done
  cases ended : (first state).outcome with
  | done value next =>
    obtain ⟨outcome_eq, moments_eq⟩ := Step.bind_of_done second ended
    rw [outcome_eq] at done
    rw [moments_eq, tokenAttempts_append, evaluations_append]
    exact (left state value next ended).trans (right value next result after done)
  | aborted error next =>
    rw [(Step.bind_of_aborted second ended).1] at done
    cases done
  | exhausted =>
    rw [(Step.bind_of_exhausted second ended).1] at done
    cases done

theorem bind {first : Step Value} {second : Value → Step Result} (left : Accountable first)
    (right : ∀ value, Owes owed (second value)) : Owes owed (first >>= second) :=
  left.bind_of_add owed right (Int.zero_add owed)

theorem ensuring {update : State → State} {body : Step Value} (inner : Accountable body)
    (blind : ∀ state, (update state).memo = state.memo ∧
      (update state).statistics = state.statistics) : Accountable (Step.ensuring update body) := by
  intro state value after done
  obtain ⟨next, ended, rfl⟩ := Outcome.mapState_eq_done.mp done
  rw [Step.moments_ensuring, tokenAttempts_append, evaluations_append]
  exact (inner state value next ended).trans (accounted_of_keyless (keyless_trail _)
    (accounted_of_unasked (blind next).1 (blind next).2))

end Owes

/-! ### Tokens and whitespace -/

theorem accountable_attemptWith (rule : Rule) (parent : Nat) {perform : Nat → Step Bool}
    (performs : ∀ node, Accountable (perform node)) :
    Accountable (attemptWith rule parent perform) := by
  refine (Owes.read _).bind fun node => (Owes.changeTree _).bind fun _ =>
    (performs node).bind fun matched => ?_
  cases matched with
  | true => exact .pure _
  | false => exact (Owes.changeTree _).bind fun _ => .pure _

theorem accountable_performToken (token : TokenRule) (node : Nat) :
    Accountable (performToken environment token node) := by
  refine (Owes.read _).bind fun offset => ?_
  cases token.matchAt? environment.source offset with
  | some length => exact (Owes.changeTree _).bind fun _ => .pure _
  | none => exact .pure _

/-- A memo that is asked for a token knows the outcome, or the token is tried and the outcome
is remembered. -/
theorem accounted_attemptRemembering {memo : Memo} (present : state.memo = some memo)
    {attempt : Step Bool} (attempts : Accountable attempt) (tokenless : Tokenless attempt)
    {key : MemoKey} (key_eq : key = ⟨rule.grammar, state.tree.stop parent, rule.name⟩)
    {matched : Bool}
    (done : (attemptRemembering rule parent attempt state).outcome = .done matched after) :
    Accounted 0 [key] (if state.knows key then [] else [key]) state after := by
  rw [outcome_attemptRemembering present rule parent attempt key_eq] at done
  cases found : memo.entries[key]? with
  | some outcome =>
    have known : key ∈ memo.entries := Std.HashMap.isSome_getElem?_iff_mem.mp (by rw [found]; rfl)
    have asked : Option.Rel (Memo.Asked [key] []) state.memo (some (memo.lookup key).2) := by
      rw [present]
      exact .some (Memo.asked_of_known known)
    rw [if_pos ((State.knows_iff present key).mpr known)]
    rw [Memo.lookup_fst, found] at done
    cases outcome with
    | none =>
      cases done
      exact ⟨(Int.add_zero _).symm, rfl, rfl, asked⟩
    | some length =>
      cases done
      exact ⟨(Int.add_zero _).symm, rfl, rfl, asked⟩
  | none =>
    have unknown : key ∉ memo.entries := fun known => by
      rw [Std.HashMap.getElem?_eq_some_getElem known] at found
      cases found
    rw [if_neg fun knows => unknown ((State.knows_iff present key).mp knows)]
    rw [Memo.lookup_fst, found] at done
    cases ended : (attempt { state with memo := some (memo.lookup key).2 }).outcome with
    | done value next =>
      have tried := attempts _ value next ended
      rw [Keyless.tokenAttempts (tokenless _).passes,
        Keyless.evaluations (tokenless _).passes] at tried
      obtain ⟨memo', present', asked⟩ := exists_of_rel_some tried.memo
      simp only [(Step.bind_of_done _ ended).1] at done
      obtain ⟨outcome, rfl⟩ : ∃ outcome,
          after = { next with memo := next.memo.map (·.store key outcome) } := by
        cases done
        exact ⟨_, rfl⟩
      refine ⟨tried.pending_eq, tried.hits_eq, tried.misses_eq, ?_⟩
      rw [present, present', Option.map_some]
      exact .some (Memo.asked_of_unknown unknown asked outcome)
    | aborted error next =>
      simp only [(Step.bind_of_aborted _ ended).1] at done
      cases done
    | exhausted =>
      simp only [(Step.bind_of_exhausted _ ended).1] at done
      cases done

/-- A token is tried at the first moment of its attempt, and at no other. It is matched with the
text unless the memo knows the outcome. -/
theorem accounts_attemptMemoized (isToken : rule.isToken = true) (parent : Nat)
    {attempt : Step Bool} (tokenless : Tokenless attempt) (state : State) :
    let key : MemoKey := ⟨rule.grammar, state.tree.stop parent, rule.name⟩
    let moments := (attemptMemoized rule parent attempt state).trail.moments
    tokenAttempts moments = [key] ∧
      evaluations moments = if state.knows key then [] else [key] := by
  intro key moments
  have keyless : Keyless ((if state.memo.isSome && rule.isToken then
      attemptRemembering rule parent attempt else attempt) state).trail.moments := by
    split
    · exact (tokenless_attemptRemembering rule parent tokenless state).passes
    · exact (tokenless state).passes
  have here : Moment.evaluated? ⟨.tried parent rule, state⟩ =
      if state.knows key then none else some key := by
    rw [Moment.evaluated?, key?_tried isToken, Option.filter_some]
    cases state.knows key <;> rfl
  show tokenAttempts (attemptMemoized rule parent attempt state).trail.moments = [key] ∧
    evaluations (attemptMemoized rule parent attempt state).trail.moments =
      if state.knows key then [] else [key]
  rw [attemptMemoized, Step.moments_note_bind, Step.moments_read_bind]
  constructor
  · rw [tokenAttempts, List.filterMap_cons_some (key?_tried isToken), ← tokenAttempts,
      keyless.tokenAttempts]
  · rw [evaluations]
    cases knows : state.knows key with
    | true =>
      rw [knows] at here
      rw [List.filterMap_cons_none here, ← evaluations, keyless.evaluations]
      rfl
    | false =>
      rw [knows] at here
      rw [List.filterMap_cons_some here, ← evaluations, keyless.evaluations]
      rfl

theorem accountable_attemptMemoized (rule : Rule) (parent : Nat) {attempt : Step Bool}
    (attempts : Accountable attempt) (tokenless : rule.isToken = true → Tokenless attempt) :
    Accountable (attemptMemoized rule parent attempt) := by
  cases isToken : rule.isToken with
  | false =>
    refine (Owes.note fun state => key?_tried_other isToken).bind fun _ =>
      (Owes.read _).bind fun memoizing => ?_
    rw [isToken, Bool.and_false]
    exact attempts
  | true =>
    intro state matched after done
    obtain ⟨attempts_eq, missed_eq⟩ :=
      accounts_attemptMemoized isToken parent (tokenless isToken) state
    rw [attempts_eq, missed_eq]
    rw [outcome_attemptMemoized, isToken, Bool.and_true] at done
    cases present : state.memo with
    | some memo =>
      rw [present] at done
      exact accounted_attemptRemembering present attempts (tokenless isToken) rfl done
    | none =>
      rw [present] at done
      have tried := attempts state matched after done
      rw [Keyless.tokenAttempts (tokenless isToken state).passes,
        Keyless.evaluations (tokenless isToken state).passes] at tried
      refine ⟨tried.pending_eq, tried.hits_eq, tried.misses_eq, ?_⟩
      have forgotten := tried.memo
      rw [present] at forgotten ⊢
      rw [eq_none_of_rel_none forgotten]
      exact .none

theorem accountable_attemptBlank (parent : Nat) (rule : Rule) :
    Accountable (attemptBlank environment parent rule) := by
  unfold attemptBlank
  cases rule.token? with
  | none => exact .pure _
  | some token =>
    exact accountable_attemptMemoized rule parent
      (accountable_attemptWith rule parent (accountable_performToken token))
      fun _ => tokenless_attemptToken rule parent token

theorem accountable_skipOne (parent : Nat) (tokens : List Rule) :
    Accountable (skipOne environment parent tokens) := by
  induction tokens with
  | nil => exact .pure _
  | cons rule rest inductionHypothesis =>
    refine (Owes.read _).bind fun before => (accountable_attemptBlank parent rule).bind
      fun matched => ?_
    cases matched with
    | false => exact inductionHypothesis
    | true =>
      refine (Owes.read _).bind fun after => ?_
      by_cases further : before < after
      · simp only [if_pos further]
        exact (Owes.changeTree _).bind fun _ => .pure _
      · simp only [if_neg further]
        exact (Owes.changeTree _).bind fun _ => inductionHypothesis

theorem accountable_skipAll (parent : Nat) (tokens : List Rule) (rounds : Nat) :
    Accountable (skipAll environment parent tokens rounds) := by
  induction rounds with
  | zero => exact .exhausted
  | succ rounds inductionHypothesis =>
    refine (accountable_skipOne parent tokens).bind fun skipped => ?_
    cases skipped with
    | true => exact inductionHypothesis
    | false => exact .pure _

theorem accountable_skipWhitespace (parent : Nat) :
    Accountable (skipWhitespace environment parent) := by
  refine (Owes.read _).bind fun grammar => ?_
  cases grammar.whitespaceDisabled with
  | true => exact .pure _
  | false => exact accountable_skipAll parent _ _

/-! ### The kinds of rules -/

section Kinds

variable {consume : Consume} (consumes : ∀ node name, Accountable (consume node name))
  (node : Nat)
include consumes

theorem accountable_consumeOptional (rule : Option String) (otherwise : Bool) :
    Accountable (consumeOptional consume node rule otherwise) := by
  cases rule with
  | none => exact .pure _
  | some name => exact consumes node name

theorem accountable_performSequence (index : Nat) (items : List SequenceItem) :
    Accountable (performSequence environment consume node index items) := by
  induction items generalizing index with
  | nil => exact .pure _
  | cons item rest inductionHypothesis =>
    refine (Owes.setAlternative _).bind fun _ => (consumes node item.rule).bind fun matched => ?_
    cases matched with
    | true => exact inductionHypothesis (index + 1)
    | false =>
      cases item.required with
      | true => exact .pure _
      | false =>
        refine ((Owes.changeTree _).bind fun _ => ?_).bind fun _ =>
          inductionHypothesis (index + 1)
        cases environment.tracing with
        | false => exact .pure _
        | true => exact (Owes.read _).bind fun _ => .log _

theorem accountable_performChoice (index : Nat) (alternatives : List String) :
    Accountable (performChoice consume node index alternatives) := by
  induction alternatives generalizing index with
  | nil => exact .pure _
  | cons alternative rest inductionHypothesis =>
    refine (Owes.setAlternative _).bind fun _ => (consumes node alternative).bind
      fun matched => ?_
    cases matched with
    | true => exact .pure _
    | false => exact inductionHypothesis (index + 1)

theorem accountable_listRounds (name : String) (rule : ListRule) (budget round : Nat)
    (last : Option Nat) :
    Accountable (listRounds environment consume name rule node budget round last) := by
  induction budget generalizing round last with
  | zero => exact .exhausted
  | succ budget inductionHypothesis =>
    refine (accountable_consumeOptional consumes node _ _).bind fun separated => ?_
    cases separated with
    | false => exact accountable_consumeOptional consumes node _ _
    | true =>
      refine (Owes.read _).bind fun position => ?_
      by_cases stuck : last.any (position ≤ ·)
      · simp only [if_pos stuck]
        exact .abort
      · simp only [if_neg stuck]
        refine (Owes.setAlternative _).bind fun _ =>
          (accountable_consumeOptional consumes node _ _).bind fun closed => ?_
        cases closed with
        | true => exact .pure _
        | false =>
          refine (consumes node rule.item).bind fun matched => ?_
          cases matched with
          | true => exact inductionHypothesis (round + 1) (some position)
          | false => exact .pure _

theorem accountable_performList (budget : Nat) (name : String) (rule : ListRule) :
    Accountable (performList environment consume budget name rule node) := by
  refine (accountable_consumeOptional consumes node _ _).bind fun opened => ?_
  cases opened with
  | false => exact .pure _
  | true =>
    refine (accountable_consumeOptional consumes node _ _).bind fun closed => ?_
    cases closed with
    | true => exact .pure _
    | false =>
      refine (consumes node rule.item).bind fun matched => ?_
      cases matched with
      | false => exact .pure _
      | true => exact accountable_listRounds consumes node name rule budget 0 none

theorem accountable_firstMatch (items : List (Nat × String)) :
    Accountable (firstMatch consume node items) := by
  induction items with
  | nil => exact .pure _
  | cons item rest inductionHypothesis =>
    refine (Owes.setAlternative _).bind fun _ => (consumes node item.2).bind fun matched => ?_
    cases matched with
    | true => exact .pure _
    | false => exact inductionHypothesis

theorem accountable_setRounds (rule : SetRule) (rounds : Nat) (available : List (Nat × String))
    (pending : Bool) : Accountable (setRounds consume rule node rounds available pending) := by
  induction rounds generalizing available pending with
  | zero => exact .pure _
  | succ rounds inductionHypothesis =>
    refine (accountable_firstMatch consumes node available).bind fun matched => ?_
    cases matched with
    | none => exact .pure _
    | some index =>
      cases separator : rule.separator with
      | none => exact inductionHypothesis _ false
      | some name =>
        refine (consumes node name).bind fun separated => ?_
        cases separated with
        | true => exact inductionHypothesis _ true
        | false => exact .pure _

theorem accountable_performSet (rule : SetRule) :
    Accountable (performSet consume rule node) := by
  refine (accountable_consumeOptional consumes node _ _).bind fun opened => ?_
  cases opened with
  | false => exact .pure _
  | true =>
    refine (accountable_setRounds consumes node rule _ _ _).bind fun pending => ?_
    cases pending with
    | true => exact .pure _
    | false => exact accountable_consumeOptional consumes node _ _

theorem accountable_operatorRounds (rule : OperatorRule) (budget : Nat) :
    Accountable (operatorRounds consume rule node budget) := by
  induction budget with
  | zero => exact .exhausted
  | succ budget inductionHypothesis =>
    refine (consumes node rule.operator).bind fun separated => ?_
    cases separated with
    | false => exact .pure _
    | true =>
      refine (consumes node rule.operand).bind fun matched => ?_
      cases matched with
      | true => exact inductionHypothesis
      | false => exact .pure _

theorem accountable_performOperator (budget : Nat) (self : Rule) (rule : OperatorRule) :
    Accountable (performOperator consume budget self rule node) := by
  refine (Owes.read _).bind fun repeating => ?_
  cases repeating with
  | true => exact .pure _
  | false =>
    refine (consumes node rule.operand).bind fun matched => ?_
    cases matched with
    | false => exact .pure _
    | true => exact accountable_operatorRounds consumes node rule budget

theorem accountable_performImport (rule : ImportRule) :
    Accountable (performImport environment consume rule node) := by
  unfold performImport
  cases environment.registry.lookup? rule.grammar with
  | none => exact .abort
  | some grammar =>
    refine (Owes.read _).bind fun _ => Owes.bind (.change fun _ => ⟨rfl, rfl⟩) fun _ => ?_
    exact .ensuring ((accountable_skipWhitespace node).bind fun _ => consumes node rule.rule)
      fun _ => ⟨rfl, rfl⟩

theorem accountable_perform (budget : Nat) (rule : Rule) :
    Accountable (perform environment consume budget rule node) := by
  unfold perform
  cases rule.kind with
  | token token => exact accountable_performToken token node
  | sequence items => exact accountable_performSequence consumes node 0 items
  | choice choice => exact accountable_performChoice consumes node 0 choice.alternatives
  | list list => exact accountable_performList consumes node budget rule.name list
  | set set => exact accountable_performSet consumes node set
  | operator operator => exact accountable_performOperator consumes node budget rule operator
  | imported target => exact accountable_performImport consumes node target

end Kinds

/-! ### The operation itself -/

theorem accountable_traceAttempt (offset : Nat) (event : Position → Nat → Log.Event) :
    Accountable (traceAttempt environment offset event) := by
  unfold traceAttempt
  cases environment.tracing with
  | false => exact .pure _
  | true => exact (Owes.read _).bind fun _ => .log _

/-- A call is counted, and so is its answer. -/
theorem accountable_invoke {attempt : Rule → Nat → Step Bool}
    (attempts : ∀ rule parent, Accountable (attempt rule parent))
    (tokenless : ∀ rule parent, rule.isToken = true → Tokenless (attempt rule parent))
    (parent : Nat) (name : String) :
    Accountable (invoke environment attempt parent name) := by
  have called : Owes 1 (Step.count fun statistics =>
      { statistics with calls := statistics.calls + 1 }) :=
    .count (fun statistics => by simp only [Statistics.pending]; omega) fun _ => ⟨rfl, rfl⟩
  have found : Owes (-1) (Step.count fun statistics =>
      { statistics with found := statistics.found + 1 }) :=
    .count (fun statistics => by simp only [Statistics.pending]; omega) fun _ => ⟨rfl, rfl⟩
  have notFound : Owes (-1) (Step.count fun statistics =>
      { statistics with notFound := statistics.notFound + 1 }) :=
    .count (fun statistics => by simp only [Statistics.pending]; omega) fun _ => ⟨rfl, rfl⟩
  refine (Owes.read _).bind fun offset => called.bind_of_add (-1) (fun _ => ?_) rfl
  refine (Owes.read _).bind fun resolved => ?_
  cases resolved with
  | none => exact .abort
  | some rule =>
    refine Owes.bind (.change fun _ => ⟨rfl, rfl⟩) fun _ => (Owes.read _).bind fun exceeded => ?_
    cases exceeded with
    | some limit => exact .abort
    | none =>
      refine (accountable_traceAttempt _ _).bind fun _ => (accountable_attemptMemoized rule parent
        (attempts rule parent) (tokenless rule parent)).bind fun matched => ?_
      cases matched with
      | false => exact notFound.bind_of_add 0 (fun _ => .pure _) rfl
      | true =>
        refine (accountable_skipWhitespace parent).bind fun _ => ?_
        exact found.bind_of_add 0
          (fun _ => (accountable_traceAttempt _ _).bind fun _ => .pure _) rfl

theorem accountable_consume (fuel : Nat) :
    ∀ parent name, Accountable (Parse.consume environment fuel parent name) := by
  induction fuel with
  | zero => exact fun _ _ => .exhausted
  | succ fuel inductionHypothesis =>
    intro parent name
    refine (Owes.note fun _ => rfl).bind fun _ => ?_
    refine Owes.bind (.change fun _ => ⟨rfl, rfl⟩) fun _ => .ensuring ?_ fun _ => ⟨rfl, rfl⟩
    refine accountable_invoke (fun rule parent => accountable_attemptWith rule parent fun node =>
      accountable_perform inductionHypothesis node fuel rule)
      (fun rule parent isToken => ?_) parent name
    obtain ⟨token, found⟩ := Option.isSome_iff_exists.mp isToken
    rw [perform_of_token? found]
    exact tokenless_attemptToken rule parent token

theorem accountable_begin (fuel : Nat) (start : String) :
    Accountable (begin environment fuel start) :=
  (accountable_skipWhitespace _).bind fun _ => accountable_consume fuel _ start

end Parse

end Rulebook
