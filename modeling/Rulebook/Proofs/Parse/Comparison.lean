/-
This file compares two runs of a step, or of two steps that are much alike. The runs start in
states that agree in everything but the memo, and their outcomes are to agree again. The first
of the two may be spared the comparison if it ends in certain ways, such as for want of work
allowed.

Two runs that return agree also in the tokens that they try, one after the other.

What is known about the first run alone is carried along, since it is mostly by such knowledge
that the next steps are seen to agree.
-/

import Rulebook.Proofs.Parse.Lexing

namespace Rulebook.Parse

variable {Value Result : Type}

/-- Two states agree in everything but the memo, and their memos are as they should be. -/
structure State.Agrees (memos : Option Memo → Option Memo → Prop) (left right : State) :
    Prop where
  right_eq : right = { left with memo := right.memo }
  memos : memos left.memo right.memo

/-- Two outcomes are the same, up to the memo, or the first is spared the comparison. What may
be spared is an exhaustion, which has no error, or the abortion with some error. -/
inductive Outcome.Agrees (spared : Option ParseError → Prop)
    (memos : Option Memo → Option Memo → Prop) : Outcome Value → Outcome Value → Prop where
  | done {value : Value} {left right : State} (agree : left.Agrees memos right) :
    Agrees spared memos (.done value left) (.done value right)
  | aborted {error : ParseError} {left right : State} (agree : left.Agrees memos right) :
    Agrees spared memos (.aborted error left) (.aborted error right)
  | exhausted : Agrees spared memos .exhausted .exhausted
  | sparedExhaustion {outcome : Outcome Value} (holds : spared none) :
    Agrees spared memos .exhausted outcome
  | sparedAbortion {error : ParseError} {state : State} {outcome : Outcome Value}
    (holds : spared (some error)) : Agrees spared memos (.aborted error state) outcome

/-- Two runs end in the same way, up to the memo, and if they return they have tried the same
tokens at the same offsets; or the first is spared the comparison. -/
structure Run.Agrees (spared : Option ParseError → Prop)
    (memos : Option Memo → Option Memo → Prop) (left right : Run Value) : Prop where
  ends : left.outcome.Agrees spared memos right.outcome
  attempts_eq : ∀ value last, left.outcome = .done value last →
    tokenAttempts right.trail.moments = tokenAttempts left.trail.moments

variable {spared : Option ParseError → Prop} {memos : Option Memo → Option Memo → Prop}
  {left right : State}

/-! ### States that agree -/

namespace State.Agrees

/-- States that agree look the same to whatever does not look at the memo. -/
theorem view_eq (agree : left.Agrees memos right) (view : State → Value)
    (blind : ∀ (state : State) memo, view { state with memo } = view state) :
    view right = view left := by
  rw [agree.right_eq, blind]

/-- States that agree still do so after a change that leaves the memo alone. -/
theorem change (agree : left.Agrees memos right) {update : State → State}
    (blind : ∀ (state : State) memo, update { state with memo } = { update state with memo }) :
    (update left).Agrees memos (update right) := by
  have memo_eq : ∀ state : State, (update state).memo = state.memo := by
    intro state
    have same : update state = { update state with memo := state.memo } :=
      blind state state.memo
    rw [same]
  refine ⟨?_, ?_⟩
  · rw [memo_eq, ← blind, ← agree.right_eq]
  · rw [memo_eq, memo_eq]
    exact agree.memos

end State.Agrees

/-! ### Runs that agree -/

/-- If the first of two outcomes that agree is a return, so is the second. -/
theorem Outcome.Agrees.done_right {value : Value} {outcome : Outcome Value}
    (agrees : Outcome.Agrees spared memos (.done value left) outcome) :
    ∃ right, outcome = .done value right ∧ left.Agrees memos right := by
  cases agrees with
  | done agree => exact ⟨_, rfl, agree⟩

theorem Outcome.Agrees.bind {first first' : Step Value} {second second' : Value → Step Result}
    {always : Moment → Prop} {between : Value → State → Prop}
    (agrees : Outcome.Agrees spared memos (first left).outcome (first' right).outcome)
    (meets : (first left).Meets always True between)
    (rest : ∀ value next next', between value next → next.Agrees memos next' →
      Outcome.Agrees spared memos (second value next).outcome (second' value next').outcome) :
    Outcome.Agrees spared memos ((first >>= second) left).outcome
      ((first' >>= second') right).outcome := by
  generalize ended : (first left).outcome = outcome at agrees
  generalize ended' : (first' right).outcome = outcome' at agrees
  cases agrees with
  | done agree =>
    rw [(Step.bind_of_done second ended).1, (Step.bind_of_done second' ended').1]
    exact rest _ _ _ (meets.returns _ _ ended) agree
  | aborted agree =>
    rw [(Step.bind_of_aborted second ended).1, (Step.bind_of_aborted second' ended').1]
    exact .aborted agree
  | exhausted =>
    rw [(Step.bind_of_exhausted second ended).1, (Step.bind_of_exhausted second' ended').1]
    exact .exhausted
  | sparedExhaustion holds =>
    rw [(Step.bind_of_exhausted second ended).1]
    exact .sparedExhaustion holds
  | sparedAbortion holds =>
    rw [(Step.bind_of_aborted second ended).1]
    exact .sparedAbortion holds

namespace Run.Agrees

/-- Runs that pass through nothing agree if they end in the same way. -/
theorem of_silent {outcome outcome' : Outcome Value}
    (ends : outcome.Agrees spared memos outcome') :
    Run.Agrees spared memos ⟨outcome, .empty⟩ ⟨outcome', .empty⟩ :=
  ⟨ends, fun _ _ _ => rfl⟩

theorem done {value : Value} (agree : left.Agrees memos right) :
    Run.Agrees spared memos ⟨.done value left, .empty⟩ ⟨.done value right, .empty⟩ :=
  of_silent (.done agree)

theorem exhausted :
    Run.Agrees spared memos (⟨.exhausted, .empty⟩ : Run Value) ⟨.exhausted, .empty⟩ :=
  of_silent .exhausted

theorem sparedExhaustion {run : Run Value} (holds : spared none) :
    Run.Agrees spared memos ⟨.exhausted, .empty⟩ run :=
  ⟨.sparedExhaustion holds, fun _ _ absurd => nomatch absurd⟩

theorem sparedAbortion {error : ParseError} {state : State} {run run' : Run Value}
    (aborted : run.outcome = .aborted error state) (holds : spared (some error)) :
    Run.Agrees spared memos run run' where
  ends := aborted ▸ .sparedAbortion holds
  attempts_eq _ _ done := by
    rw [aborted] at done
    cases done

/-- Steps that try no token agree if they end in the same way. -/
theorem of_tokenless {step step' : Step Value} (tokenless : Tokenless step)
    (tokenless' : Tokenless step')
    (ends : (step left).outcome.Agrees spared memos (step' right).outcome) :
    (step left).Agrees spared memos (step' right) where
  ends
  attempts_eq _ _ _ := by
    rw [Keyless.tokenAttempts (tokenless left).passes,
      Keyless.tokenAttempts (tokenless' right).passes]

theorem bind {first first' : Step Value} {second second' : Value → Step Result}
    {always : Moment → Prop} {between : Value → State → Prop}
    (agrees : (first left).Agrees spared memos (first' right))
    (meets : (first left).Meets always True between)
    (rest : ∀ value next next', between value next → next.Agrees memos next' →
      (second value next).Agrees spared memos (second' value next')) :
    ((first >>= second) left).Agrees spared memos ((first' >>= second') right) where
  ends := agrees.ends.bind meets fun value next next' known agree =>
    (rest value next next' known agree).ends
  attempts_eq value last done := by
    obtain ⟨between, next, ended, done⟩ := Step.done_of_bind done
    obtain ⟨next', ended', agree⟩ := (ended ▸ agrees.ends).done_right
    rw [(Step.bind_of_done second ended).2, (Step.bind_of_done second' ended').2,
      tokenAttempts_append, tokenAttempts_append, agrees.attempts_eq _ _ ended,
      (rest _ _ _ (meets.returns _ _ ended) agree).attempts_eq _ _ done]

end Run.Agrees

/-- Reading changes nothing, also if something else is read on the second side. -/
theorem agrees_read_views {view view' : State → Value} {second second' : Value → Step Result}
    (rest : (second (view left) left).Agrees spared memos (second' (view' right) right)) :
    ((Step.read view >>= second) left).Agrees spared memos
      ((Step.read view' >>= second') right) := by
  constructor
  · rw [Step.outcome_read_bind, Step.outcome_read_bind]
    exact rest.ends
  · rw [Step.outcome_read_bind, Step.moments_read_bind, Step.moments_read_bind]
    exact rest.attempts_eq

theorem agrees_read_bind (agree : left.Agrees memos right) {view : State → Value}
    (blind : ∀ (state : State) memo, view { state with memo } = view state)
    {second second' : Value → Step Result}
    (rest : (second (view left) left).Agrees spared memos (second' (view left) right)) :
    ((Step.read view >>= second) left).Agrees spared memos
      ((Step.read view >>= second') right) :=
  agrees_read_views (by rw [agree.view_eq view blind]; exact rest)

theorem agrees_change (agree : left.Agrees memos right) {update : State → State}
    (blind : ∀ (state : State) memo, update { state with memo } = { update state with memo }) :
    (Step.change update left).Agrees spared memos (Step.change update right) :=
  .of_tokenless (tokenless_change _) (tokenless_change _) (.done (agree.change blind))

theorem agrees_change_bind (agree : left.Agrees memos right) {update : State → State}
    (blind : ∀ (state : State) memo, update { state with memo } = { update state with memo })
    {second second' : Unit → Step Result}
    (rest : (update left).Agrees memos (update right) →
      (second () (update left)).Agrees spared memos (second' () (update right))) :
    ((Step.change update >>= second) left).Agrees spared memos
      ((Step.change update >>= second') right) := by
  have changed := rest (agree.change blind)
  constructor
  · rw [Step.outcome_change_bind, Step.outcome_change_bind]
    exact changed.ends
  · intro value last done
    rw [Step.outcome_change_bind] at done
    rw [Step.moments_change_bind, Step.moments_change_bind]
    exact changed.attempts_eq value last done

/-- Saying what happens tells the two runs apart only if a token is tried. -/
theorem agrees_note_bind {happening : Happening}
    (key_eq : Moment.key? ⟨happening, right⟩ = Moment.key? ⟨happening, left⟩)
    {second second' : Unit → Step Result}
    (rest : (second () left).Agrees spared memos (second' () right)) :
    ((Step.note happening >>= second) left).Agrees spared memos
      ((Step.note happening >>= second') right) := by
  constructor
  · rw [Step.outcome_note_bind, Step.outcome_note_bind]
    exact rest.ends
  · intro value last done
    rw [Step.outcome_note_bind] at done
    rw [Step.moments_note_bind, Step.moments_note_bind, tokenAttempts, tokenAttempts,
      List.filterMap_cons, List.filterMap_cons, key_eq, ← tokenAttempts, ← tokenAttempts,
      rest.attempts_eq value last done]

/-- Failures are the same when the states agree, whatever the settings. -/
theorem agrees_abort (agree : left.Agrees memos right) (environment : Environment)
    (options : ParseOptions) (cause : FailureCause) :
    (abort environment cause left : Run Value).Agrees spared memos
      (abort { environment with options } cause right) := by
  have same : right.abortion { environment with options } cause =
      left.abortion environment cause :=
    agree.view_eq (fun state => state.abortion environment cause) fun _ _ => rfl
  refine .of_silent ?_
  rw [same]
  exact .aborted agree

theorem agrees_ensuring {body body' : Step Value} {update : State → State}
    (agrees : (body left).Agrees spared memos (body' right))
    (blind : ∀ (state : State) memo, update { state with memo } = { update state with memo }) :
    (Step.ensuring update body left).Agrees spared memos (Step.ensuring update body' right) := by
  obtain ⟨ends, attempts_eq⟩ := agrees
  constructor
  · show Outcome.Agrees spared memos ((body left).outcome.mapState update)
      ((body' right).outcome.mapState update)
    generalize (body left).outcome = outcome at ends ⊢
    generalize (body' right).outcome = outcome' at ends ⊢
    cases ends with
    | done agree => exact .done (agree.change blind)
    | aborted agree => exact .aborted (agree.change blind)
    | exhausted => exact .exhausted
    | sparedExhaustion holds => exact .sparedExhaustion holds
    | sparedAbortion holds => exact .sparedAbortion holds
  · intro value last done
    obtain ⟨next, ended, rfl⟩ := Outcome.mapState_eq_done.mp done
    rw [Step.moments_ensuring, Step.moments_ensuring, tokenAttempts_append,
      tokenAttempts_append, attempts_eq value next ended, (keyless_trail _).tokenAttempts,
      (keyless_trail _).tokenAttempts]

end Rulebook.Parse
