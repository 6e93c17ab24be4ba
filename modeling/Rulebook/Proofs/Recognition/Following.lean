/-
This file relates the steps of a parse to a recognizer. A step follows a verdict if it ends in
the same way: with a value that corresponds to what the recognizer gives, with a failure of
the same cause, or for want of work allowed. Steps that follow verdicts can be put together in
the way in which the verdicts are, and bookkeeping between them does not matter.

What a parse and a recognizer have in common at a node is the grammar and the offset at which
the node ends. The whitespace that a parse skips depends on nothing else.
-/

import Rulebook.Proofs.Parse.Conduct
import Rulebook.Proofs.Recognition.Blanks

namespace Rulebook.Parse

open Recognition (Verdict accept afterBlanks)

variable {Value Middle Result Answer : Type}

/-- An outcome corresponds to a verdict. -/
inductive Outcome.Follows (relate : Value → State → Answer → Prop) :
    Outcome Value → Verdict Answer → Prop where
  | gives {value : Value} {state : State} {answer : Answer} (holds : relate value state answer) :
    Follows relate (.done value state) (.gives answer)
  | aborts (error : ParseError) (state : State) :
    Follows relate (.aborted error state) (.aborts error.cause)
  | exhausted : Follows relate .exhausted .exhausted

namespace Outcome.Follows

variable {first : Step Value} {second : Value → Step Result} {state : State}
  {between : Value → State → Middle → Prop} {relate : Result → State → Answer → Prop}

theorem bind {verdict : Verdict Middle} {next : Middle → Verdict Answer}
    (follows : Outcome.Follows between (first state).outcome verdict)
    (rest : ∀ value after answer, between value after answer →
      Outcome.Follows relate (second value after).outcome (next answer)) :
    Outcome.Follows relate ((first >>= second) state).outcome (verdict >>= next) := by
  generalize ended : (first state).outcome = outcome at follows
  cases follows with
  | gives holds =>
    rw [(Step.bind_of_done second ended).1]
    exact rest _ _ _ holds
  | aborts error after =>
    rw [(Step.bind_of_aborted second ended).1]
    exact .aborts error after
  | exhausted =>
    rw [(Step.bind_of_exhausted second ended).1]
    exact .exhausted

/-- What comes last may be something that a recognizer need not do. -/
theorem conclude {verdict : Verdict Answer} {between : Value → State → Answer → Prop}
    (follows : Outcome.Follows between (first state).outcome verdict)
    (rest : ∀ value after answer, between value after answer →
      ∃ result last, (second value after).outcome = .done result last ∧
        relate result last answer) :
    Outcome.Follows relate ((first >>= second) state).outcome verdict := by
  generalize ended : (first state).outcome = outcome at follows
  cases follows with
  | gives holds =>
    obtain ⟨result, last, done, holds⟩ := rest _ _ _ holds
    rw [(Step.bind_of_done second ended).1, done]
    exact .gives holds
  | aborts error after =>
    rw [(Step.bind_of_aborted second ended).1]
    exact .aborts error after
  | exhausted =>
    rw [(Step.bind_of_exhausted second ended).1]
    exact .exhausted

/-- What comes first may be something that a recognizer need not do. -/
theorem after {verdict : Verdict Answer} {good : State → Prop} {value : Value}
    (done : ∃ next, (first state).outcome = .done value next ∧ good next)
    (rest : ∀ next, good next → Outcome.Follows relate (second value next).outcome verdict) :
    Outcome.Follows relate ((first >>= second) state).outcome verdict := by
  obtain ⟨next, ended, good⟩ := done
  rw [(Step.bind_of_done second ended).1]
  exact rest next good

theorem read_bind {verdict : Verdict Answer} {view : State → Value}
    (follows : Outcome.Follows relate (second (view state) state).outcome verdict) :
    Outcome.Follows relate ((Step.read view >>= second) state).outcome verdict :=
  follows

variable {outcome : Outcome Result} {verdict : Verdict Answer}

theorem imp {weaker : Result → State → Answer → Prop}
    (follows : Outcome.Follows relate outcome verdict)
    (implies : ∀ value after answer, outcome = .done value after → relate value after answer →
      weaker value after answer) : Outcome.Follows weaker outcome verdict := by
  cases follows with
  | gives holds => exact .gives (implies _ _ _ rfl holds)
  | aborts error after => exact .aborts error after
  | exhausted => exact .exhausted

theorem mapState {update : State → State} {relate' : Result → State → Answer → Prop}
    (follows : Outcome.Follows relate outcome verdict)
    (implies : ∀ value after answer, relate value after answer →
      relate' value (update after) answer) :
    Outcome.Follows relate' (outcome.mapState update) verdict := by
  cases follows with
  | gives holds => exact .gives (implies _ _ _ holds)
  | aborts error after => exact .aborts error (update after)
  | exhausted => exact .exhausted

end Outcome.Follows

/-! ### A node and an offset -/

/-- A rule was tried at a node, and a match of it ended where the node ends now. -/
def Ends (node : Nat) (matched : Bool) (after : State) (answer : Option Nat) : Prop :=
  answer = accept matched (after.tree.stop node)

/-- Work goes on at a node under a grammar, from an offset on. -/
structure Situated (environment : Environment) (first active : Grammar) (node offset : Nat)
    (state : State) : Prop extends Ready environment first node state where
  grammar_eq : state.grammar = active
  stop_eq : state.tree.stop node = offset

/-- A rule was asked for at a node, and work goes on where a match of it ended, or where it was
asked for. -/
inductive Lands (environment : Environment) (first grammar : Grammar) (node offset : Nat) :
    Bool → State → Option Nat → Prop where
  | matched {stop : Nat} {after : State}
    (here : Situated environment first grammar node stop after) :
    Lands environment first grammar node offset true after (some stop)
  | unmatched {after : State} (here : Situated environment first grammar node offset after) :
    Lands environment first grammar node offset false after none

variable {environment : Environment} {first grammar : Grammar} {node parent offset : Nat}
  {state after : State} {name : String}

theorem Ready.situated (ready : Ready environment first node state) :
    Situated environment first state.grammar node (state.tree.stop node) state :=
  ⟨ready, rfl, rfl⟩

namespace Situated

theorem ends (here : Situated environment first grammar node offset state) (matched : Bool) :
    Ends node matched state (accept matched offset) := by
  rw [Ends, here.stop_eq]

theorem lands (here : Situated environment first grammar node offset state) (matched : Bool) :
    Lands environment first grammar node offset matched state (accept matched offset) := by
  cases matched with
  | true => exact .matched here
  | false => exact .unmatched here

/-- Bookkeeping makes no difference. -/
theorem still (here : Situated environment first grammar node offset state)
    (still : Still environment first state after) :
    Situated environment first grammar node offset after :=
  ⟨still.ready here.toReady, still.grammar_eq.trans here.grammar_eq,
    still.tree_eq ▸ here.stop_eq⟩

/-- After work at the node, it goes on where the node ends. -/
theorem working (here : Situated environment first grammar node offset state)
    (working : Working environment first node state after) {stop : Nat}
    (stop_eq : after.tree.stop node = stop) :
    Situated environment first grammar node stop after :=
  ⟨working.ready, working.grammar_eq.trans here.grammar_eq, stop_eq⟩

/-- A request for a rule lands where it ends. -/
theorem answered (here : Situated environment first grammar node offset state) {matched : Bool}
    {answer : Option Nat} (answered : Answered environment first node name state matched after)
    (ends : Ends node matched after answer) :
    Lands environment first grammar node offset matched after answer := by
  have working := (Working.refl here.toReady).answered answered
  rw [ends]
  cases matched with
  | true => exact .matched (here.working working rfl)
  | false =>
    exact .unmatched (here.still ⟨answered.toKept, answered.restored rfl⟩)

theorem books (here : Situated environment first grammar node offset state) {step : Step Unit}
    (books : Bookkeeping environment first state step) :
    ∃ next, (step state).outcome = .done () next ∧
      Situated environment first grammar node offset next := by
  obtain ⟨update, rfl, still, -⟩ := books
  exact ⟨update state, rfl, here.still still⟩

theorem setAlternative (here : Situated environment first grammar node offset state)
    (index : Nat) : ∃ next, (Step.setAlternative index state).outcome = .done () next ∧
      Situated environment first grammar node offset next :=
  here.books (bookkeeping_setAlternative here.toSound index)

theorem count (here : Situated environment first grammar node offset state)
    (update : Statistics → Statistics) : ∃ next, (Step.count update state).outcome =
      .done () next ∧ Situated environment first grammar node offset next :=
  here.books (bookkeeping_count here.toSound update)

theorem log (here : Situated environment first grammar node offset state) (event : Log.Event) :
    ∃ next, (Step.log event state).outcome = .done () next ∧
      Situated environment first grammar node offset next :=
  here.books (bookkeeping_log here.toSound event)

theorem traceAttempt (here : Situated environment first grammar node offset state)
    (start : Nat) (event : Position → Nat → Log.Event) :
    ∃ next, (traceAttempt environment start event state).outcome = .done () next ∧
      Situated environment first grammar node offset next := by
  unfold Parse.traceAttempt
  cases environment.tracing with
  | false => exact ⟨state, rfl, here⟩
  | true => exact here.log _

/-- A missing item takes no input. -/
theorem leaveOut (here : Situated environment first grammar node offset state)
    (rule : String) :
    ∃ next, (leaveOut environment node rule state).outcome = .done () next ∧
      Situated environment first grammar node offset next := by
  have attached := here.working (working_attach (.refl here.toReady) (.lambda rule))
    ((Match.Tree.stop_attach here.isOpen.inside).trans here.stop_eq)
  unfold Parse.leaveOut
  cases environment.tracing with
  | false => exact ⟨_, rfl, attached⟩
  | true => exact attached.log _

end Situated

/-! ### Whitespace -/

/-- Nothing is remembered. -/
def Forgetful (environment : Environment) : Prop :=
  environment.options.memoizeTokens = false

theorem outcome_attemptMemoized_of_forgetful (forgetful : Forgetful environment)
    (ready : Ready environment first parent state) (rule : Rule) (attempt : Step Bool) :
    (attemptMemoized rule parent attempt state).outcome = (attempt state).outcome := by
  rw [outcome_attemptMemoized, ready.memoizing, forgetful]
  rfl

/-- Where nothing is remembered, nothing can be mistaken. -/
theorem Forgetful.unmistaken (forgetful : Forgetful environment) (rule : Rule) :
    Unmistaken environment first rule := by
  intro remembering
  rw [forgetful] at remembering
  cases remembering

theorem Situated.skipWhitespace
    (here : Situated environment first grammar parent offset state)
    (faithful : environment.source.Faithful) (forgetful : Forgetful environment) :
    ∃ after, (skipWhitespace environment parent state).outcome = .done () after ∧
      Situated environment first grammar parent
        (afterBlanks environment.source grammar offset) after := by
  have met : Run.Meets _ _ True _ := meets_skipWhitespace faithful here.toReady
  obtain ⟨after, done, ends⟩ := skipWhitespace_done faithful here.toReady
  have stop_eq := ends fun rule _ => forgetful.unmistaken rule
  rw [here.grammar_eq, here.stop_eq] at stop_eq
  exact ⟨after, done, here.working (met.returns () after done).toWorking stop_eq⟩

end Rulebook.Parse
