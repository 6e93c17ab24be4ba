/-
This file says for which reasons a parse is given up before its start rule is done with: a
rule or a grammar that does not exist, a stack of rules that is too high, or a list that would
go on for ever. No other reason is ever given, whatever the state of the parse is. A failure to
match is not one of them; it comes out only at the end, when the parse is concluded.
-/

import Rulebook.Parse.Run
import Rulebook.Proofs.Parse.Contract

namespace Rulebook

/-- A failure that says nothing about where the text stops to match: the parse did not begin, or
it was given up whatever alternatives remained. -/
def FailureCause.isAbortion : FailureCause → Bool
  | .noStartSymbol | .maxRecursionDepth _ | .unterminatedList _ _ | .unresolvedImport _
  | .undefinedRule _ => true
  | .unexpectedCharacter _ | .unexpectedEndOfInput | .trailingInput | .unknownGrammar _ => false

namespace Parse

variable {Value Result : Type} {environment : Environment}

/-- Whatever a step is given up for, it is a reason to end the whole parse. -/
def Aborting (step : Step Value) : Prop :=
  ∀ state error last, (step state).outcome = .aborted error last → error.cause.isAbortion = true

/-! ### Compound steps -/

namespace Aborting

/-- A step that always comes to an end, or runs out of work, is not given up. -/
theorem of_never {step : Step Value}
    (never : ∀ state error last, (step state).outcome ≠ .aborted error last) : Aborting step :=
  fun state error last aborted => absurd aborted (never state error last)

theorem pure (value : Value) : Aborting (Pure.pure value : Step Value) :=
  of_never fun _ _ _ aborted => nomatch aborted

theorem read (view : State → Value) : Aborting (Step.read view) :=
  of_never fun _ _ _ aborted => nomatch aborted

theorem change (update : State → State) : Aborting (Step.change update) :=
  of_never fun _ _ _ aborted => nomatch aborted

theorem note (happening : Happening) : Aborting (Step.note happening) :=
  of_never fun _ _ _ aborted => nomatch aborted

theorem exhausted : Aborting (Step.exhausted : Step Value) :=
  of_never fun _ _ _ aborted => nomatch aborted

theorem abort {cause : FailureCause} (isAbortion : cause.isAbortion = true) :
    Aborting (Parse.abort environment cause : Step Value) := by
  intro state error last aborted
  cases aborted
  exact isAbortion

theorem bind {first : Step Value} {second : Value → Step Result} (left : Aborting first)
    (right : ∀ value, Aborting (second value)) : Aborting (first >>= second) := by
  intro state error last aborted
  cases ended : (first state).outcome with
  | done value next =>
    rw [(Step.bind_of_done second ended).1] at aborted
    exact right value next error last aborted
  | aborted other next =>
    rw [(Step.bind_of_aborted second ended).1] at aborted
    cases aborted
    exact left state error last ended
  | exhausted =>
    rw [(Step.bind_of_exhausted second ended).1] at aborted
    cases aborted

theorem ensuring (update : State → State) {body : Step Value} (inner : Aborting body) :
    Aborting (Step.ensuring update body) := by
  intro state error last aborted
  obtain ⟨_, ended, -⟩ := Outcome.mapState_eq_aborted.mp aborted
  exact inner state error _ ended

end Aborting

/-! ### Tokens and whitespace -/

theorem aborting_attemptWith (rule : Rule) (parent : Nat) {perform : Nat → Step Bool}
    (performs : ∀ node, Aborting (perform node)) :
    Aborting (attemptWith rule parent perform) := by
  refine (Aborting.read _).bind fun node => (Aborting.change _).bind fun _ =>
    (performs node).bind fun matched => ?_
  cases matched with
  | true => exact .pure _
  | false => exact (Aborting.change _).bind fun _ => .pure _

theorem aborting_performToken (token : TokenRule) (node : Nat) :
    Aborting (performToken environment token node) := by
  refine (Aborting.read _).bind fun offset => ?_
  cases token.matchAt? environment.source offset with
  | some length => exact (Aborting.change _).bind fun _ => .pure _
  | none => exact .pure _

theorem aborting_consult (key : MemoKey) : Aborting (consult key) := by
  refine .of_never fun state error last aborted => ?_
  cases present : state.memo <;> simp [consult, present] at aborted

theorem aborting_attemptMemoized (rule : Rule) (parent : Nat) {attempt : Step Bool}
    (attempts : Aborting attempt) : Aborting (attemptMemoized rule parent attempt) := by
  refine (Aborting.note _).bind fun _ => (Aborting.read _).bind fun memoizing => ?_
  cases memoizing && rule.isToken with
  | false => exact attempts
  | true =>
    refine (Aborting.read _).bind fun offset => (aborting_consult _).bind fun known => ?_
    match known with
    | some (some length) =>
      exact (Aborting.read _).bind fun _ => (Aborting.change _).bind fun _ => .pure _
    | some none => exact .pure _
    | none =>
      exact attempts.bind fun _ => (Aborting.read _).bind fun _ =>
        (Aborting.change _).bind fun _ => .pure _

theorem aborting_attemptBlank (parent : Nat) (rule : Rule) :
    Aborting (attemptBlank environment parent rule) := by
  unfold attemptBlank
  cases rule.token? with
  | none => exact .pure _
  | some token =>
    exact aborting_attemptMemoized rule parent
      (aborting_attemptWith rule parent (aborting_performToken token))

theorem aborting_skipOne (parent : Nat) (tokens : List Rule) :
    Aborting (skipOne environment parent tokens) := by
  induction tokens with
  | nil => exact .pure _
  | cons rule rest inductionHypothesis =>
    refine (Aborting.read _).bind fun before => (aborting_attemptBlank parent rule).bind
      fun matched => ?_
    cases matched with
    | false => exact inductionHypothesis
    | true =>
      refine (Aborting.read _).bind fun after => ?_
      by_cases further : before < after
      · simp only [if_pos further]
        exact (Aborting.change _).bind fun _ => .pure _
      · simp only [if_neg further]
        exact (Aborting.change _).bind fun _ => inductionHypothesis

theorem aborting_skipAll (parent : Nat) (tokens : List Rule) (rounds : Nat) :
    Aborting (skipAll environment parent tokens rounds) := by
  induction rounds with
  | zero => exact .exhausted
  | succ rounds inductionHypothesis =>
    refine (aborting_skipOne parent tokens).bind fun skipped => ?_
    cases skipped with
    | true => exact inductionHypothesis
    | false => exact .pure _

theorem aborting_skipWhitespace (parent : Nat) :
    Aborting (skipWhitespace environment parent) := by
  refine (Aborting.read _).bind fun grammar => ?_
  cases grammar.whitespaceDisabled with
  | true => exact .pure _
  | false => exact aborting_skipAll parent _ _

/-! ### The kinds of rules -/

variable {consume : Consume} (consumes : ∀ node name, Aborting (consume node name)) (node : Nat)
include consumes

theorem aborting_consumeOptional (rule : Option String) (otherwise : Bool) :
    Aborting (consumeOptional consume node rule otherwise) := by
  cases rule with
  | none => exact .pure _
  | some name => exact consumes node name

theorem aborting_performSequence (index : Nat) (items : List SequenceItem) :
    Aborting (performSequence environment consume node index items) := by
  induction items generalizing index with
  | nil => exact .pure _
  | cons item rest inductionHypothesis =>
    refine (Aborting.change _).bind fun _ => (consumes node item.rule).bind fun matched => ?_
    cases matched with
    | true => exact inductionHypothesis (index + 1)
    | false =>
      cases item.required with
      | true => exact .pure _
      | false =>
        refine ((Aborting.change _).bind fun _ => ?_).bind fun _ =>
          inductionHypothesis (index + 1)
        cases environment.tracing with
        | false => exact .pure _
        | true => exact (Aborting.read _).bind fun _ => .change _

theorem aborting_performChoice (index : Nat) (alternatives : List String) :
    Aborting (performChoice consume node index alternatives) := by
  induction alternatives generalizing index with
  | nil => exact .pure _
  | cons alternative rest inductionHypothesis =>
    refine (Aborting.change _).bind fun _ => (consumes node alternative).bind fun matched => ?_
    cases matched with
    | true => exact .pure _
    | false => exact inductionHypothesis (index + 1)

theorem aborting_listRounds (name : String) (rule : ListRule) (budget round : Nat)
    (last : Option Nat) :
    Aborting (listRounds environment consume name rule node budget round last) := by
  induction budget generalizing round last with
  | zero => exact .exhausted
  | succ budget inductionHypothesis =>
    refine (aborting_consumeOptional consumes node _ _).bind fun separated => ?_
    cases separated with
    | false => exact aborting_consumeOptional consumes node _ _
    | true =>
      refine (Aborting.read _).bind fun position => ?_
      by_cases stuck : last.any (position ≤ ·)
      · simp only [if_pos stuck]
        exact .abort rfl
      · simp only [if_neg stuck]
        refine (Aborting.change _).bind fun _ =>
          (aborting_consumeOptional consumes node _ _).bind fun closed => ?_
        cases closed with
        | true => exact .pure _
        | false =>
          refine (consumes node rule.item).bind fun matched => ?_
          cases matched with
          | true => exact inductionHypothesis (round + 1) (some position)
          | false => exact .pure _

theorem aborting_performList (budget : Nat) (name : String) (rule : ListRule) :
    Aborting (performList environment consume budget name rule node) := by
  refine (aborting_consumeOptional consumes node _ _).bind fun opened => ?_
  cases opened with
  | false => exact .pure _
  | true =>
    refine (aborting_consumeOptional consumes node _ _).bind fun closed => ?_
    cases closed with
    | true => exact .pure _
    | false =>
      refine (consumes node rule.item).bind fun matched => ?_
      cases matched with
      | false => exact .pure _
      | true => exact aborting_listRounds consumes node name rule budget 0 none

theorem aborting_firstMatch (items : List (Nat × String)) :
    Aborting (firstMatch consume node items) := by
  induction items with
  | nil => exact .pure _
  | cons item rest inductionHypothesis =>
    refine (Aborting.change _).bind fun _ => (consumes node item.2).bind fun matched => ?_
    cases matched with
    | true => exact .pure _
    | false => exact inductionHypothesis

theorem aborting_setRounds (rule : SetRule) (rounds : Nat) (available : List (Nat × String))
    (pending : Bool) : Aborting (setRounds consume rule node rounds available pending) := by
  induction rounds generalizing available pending with
  | zero => exact .pure _
  | succ rounds inductionHypothesis =>
    refine (aborting_firstMatch consumes node available).bind fun matched => ?_
    cases matched with
    | none => exact .pure _
    | some index =>
      cases separator : rule.separator with
      | none => exact inductionHypothesis _ false
      | some name =>
        refine (consumes node name).bind fun separated => ?_
        cases separated with
        | true => exact inductionHypothesis _ true
        | false => exact .pure _

theorem aborting_performSet (rule : SetRule) : Aborting (performSet consume rule node) := by
  refine (aborting_consumeOptional consumes node _ _).bind fun opened => ?_
  cases opened with
  | false => exact .pure _
  | true =>
    refine (aborting_setRounds consumes node rule _ _ _).bind fun pending => ?_
    cases pending with
    | true => exact .pure _
    | false => exact aborting_consumeOptional consumes node _ _

theorem aborting_operatorRounds (rule : OperatorRule) (budget : Nat) :
    Aborting (operatorRounds consume rule node budget) := by
  induction budget with
  | zero => exact .exhausted
  | succ budget inductionHypothesis =>
    refine (consumes node rule.operator).bind fun separated => ?_
    cases separated with
    | false => exact .pure _
    | true =>
      refine (consumes node rule.operand).bind fun matched => ?_
      cases matched with
      | true => exact inductionHypothesis
      | false => exact .pure _

theorem aborting_performOperator (budget : Nat) (self : Rule) (rule : OperatorRule) :
    Aborting (performOperator consume budget self rule node) := by
  refine (Aborting.read _).bind fun repeating => ?_
  cases repeating with
  | true => exact .pure _
  | false =>
    refine (consumes node rule.operand).bind fun matched => ?_
    cases matched with
    | false => exact .pure _
    | true => exact aborting_operatorRounds consumes node rule budget

theorem aborting_performImport (rule : ImportRule) :
    Aborting (performImport environment consume rule node) := by
  unfold performImport
  cases environment.registry.lookup? rule.grammar with
  | none => exact .abort rfl
  | some grammar =>
    exact (Aborting.read _).bind fun _ => (Aborting.change _).bind fun _ => .ensuring _
      ((aborting_skipWhitespace node).bind fun _ => consumes node rule.rule)

theorem aborting_perform (budget : Nat) (rule : Rule) :
    Aborting (perform environment consume budget rule node) := by
  unfold perform
  cases rule.kind with
  | token token => exact aborting_performToken token node
  | sequence items => exact aborting_performSequence consumes node 0 items
  | choice choice => exact aborting_performChoice consumes node 0 choice.alternatives
  | list list => exact aborting_performList consumes node budget rule.name list
  | set set => exact aborting_performSet consumes node set
  | operator operator => exact aborting_performOperator consumes node budget rule operator
  | imported target => exact aborting_performImport consumes node target

omit consumes

/-! ### A whole parse -/

theorem aborting_traceAttempt (offset : Nat) (event : Position → Nat → Log.Event) :
    Aborting (traceAttempt environment offset event) := by
  unfold traceAttempt
  cases environment.tracing with
  | false => exact .pure _
  | true => exact (Aborting.read _).bind fun _ => .change _

theorem aborting_invoke {attempt : Rule → Nat → Step Bool}
    (attempts : ∀ rule parent, Aborting (attempt rule parent)) (parent : Nat) (name : String) :
    Aborting (invoke environment attempt parent name) := by
  refine (Aborting.read _).bind fun offset => (Aborting.change _).bind fun _ =>
    (Aborting.read _).bind fun found => ?_
  cases found with
  | none => exact .abort rfl
  | some rule =>
    refine (Aborting.change _).bind fun _ => (Aborting.read _).bind fun exceeded => ?_
    cases exceeded with
    | some limit => exact .abort rfl
    | none =>
      refine (aborting_traceAttempt _ _).bind fun _ =>
        (aborting_attemptMemoized rule parent (attempts rule parent)).bind fun matched => ?_
      cases matched with
      | false => exact (Aborting.change _).bind fun _ => .pure _
      | true =>
        exact (aborting_skipWhitespace parent).bind fun _ => (Aborting.change _).bind fun _ =>
          (aborting_traceAttempt _ _).bind fun _ => .pure _

theorem aborting_consume (fuel : Nat) :
    ∀ parent name, Aborting (Parse.consume environment fuel parent name) := by
  induction fuel with
  | zero => exact fun _ _ => .exhausted
  | succ fuel inductionHypothesis =>
    exact fun parent name => (Aborting.note _).bind fun _ => (Aborting.change _).bind fun _ =>
      .ensuring _ (aborting_invoke (fun rule parent => aborting_attemptWith rule parent fun node =>
        aborting_perform inductionHypothesis node fuel rule) parent name)

/-- A parse that is given up is given up for a reason to end it at once. -/
theorem aborting_begin (fuel : Nat) (start : String) :
    Aborting (begin environment fuel start) :=
  (aborting_skipWhitespace _).bind fun _ => aborting_consume fuel _ start

end Parse

end Rulebook
