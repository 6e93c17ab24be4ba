/-
This file holds a small logic for the steps of a parse. A run meets a contract if every
moment that it passes through is as it should be, if its value and its state are as promised
in case it returns, and if its state is as it should be also in case it fails. A contract for
a compound step is put together from contracts for its parts.

A contract also says what excuses a run for not coming to an end. An excuse that always holds
leaves the matter open; with an excuse that never holds, the contract promises an end.
-/

import Rulebook.Parse.Step

namespace Rulebook.Parse

variable {Value Result : Type}

/-! ### Compound runs -/

namespace Step

theorem outcome_read_bind (view : State → Value) (second : Value → Step Result)
    (state : State) : ((read view >>= second) state).outcome =
      (second (view state) state).outcome := rfl

theorem outcome_change_bind (update : State → State) (second : Unit → Step Result)
    (state : State) : ((change update >>= second) state).outcome =
      (second () (update state)).outcome := rfl

theorem outcome_note_bind (happening : Happening) (second : Unit → Step Result)
    (state : State) : ((note happening >>= second) state).outcome =
      (second () state).outcome := rfl

theorem bind_of_done {first : Step Value} (second : Value → Step Result) {state next : State}
    {value : Value} (done : (first state).outcome = .done value next) :
    ((first >>= second) state).outcome = (second value next).outcome ∧
      ((first >>= second) state).trail.moments =
        (first state).trail.moments ++ (second value next).trail.moments := by
  show (Step.bind first second state).outcome = _ ∧
    (Step.bind first second state).trail.moments = _
  unfold Step.bind
  rcases run : first state with ⟨outcome, trail⟩
  rw [run] at done
  simp only at done
  subst done
  exact ⟨rfl, Trail.moments_append _ _⟩

theorem bind_of_aborted {first : Step Value} (second : Value → Step Result)
    {state next : State} {error : ParseError}
    (aborted : (first state).outcome = .aborted error next) :
    ((first >>= second) state).outcome = .aborted error next ∧
      ((first >>= second) state).trail = (first state).trail := by
  show (Step.bind first second state).outcome = _ ∧ (Step.bind first second state).trail = _
  unfold Step.bind
  rcases run : first state with ⟨outcome, trail⟩
  rw [run] at aborted
  simp only at aborted
  subst aborted
  exact ⟨rfl, rfl⟩

theorem bind_of_exhausted {first : Step Value} (second : Value → Step Result) {state : State}
    (exhausted : (first state).outcome = .exhausted) :
    ((first >>= second) state).outcome = .exhausted ∧
      ((first >>= second) state).trail = (first state).trail := by
  show (Step.bind first second state).outcome = _ ∧ (Step.bind first second state).trail = _
  unfold Step.bind
  rcases run : first state with ⟨outcome, trail⟩
  rw [run] at exhausted
  simp only at exhausted
  subst exhausted
  exact ⟨rfl, rfl⟩

/-- A compound step that is done has gone through a state in between. -/
theorem done_of_bind {first : Step Value} {second : Value → Step Result}
    {state last : State} {result : Result}
    (done : ((first >>= second) state).outcome = .done result last) :
    ∃ value next, (first state).outcome = .done value next ∧
      (second value next).outcome = .done result last := by
  cases ended : (first state).outcome with
  | done value next => exact ⟨value, next, rfl, (bind_of_done second ended).1 ▸ done⟩
  | aborted error next =>
    rw [(bind_of_aborted second ended).1] at done
    cases done
  | exhausted =>
    rw [(bind_of_exhausted second ended).1] at done
    cases done

/-- What a step passes through is passed through also if something may follow. -/
theorem mem_moments_bind {first : Step Value} {state : State} {moment : Moment}
    (member : moment ∈ (first state).trail.moments) (second : Value → Step Result) :
    moment ∈ ((first >>= second) state).trail.moments := by
  cases ended : (first state).outcome with
  | done value next =>
    rw [(bind_of_done second ended).2]
    exact List.mem_append_left _ member
  | aborted error next => exact (bind_of_aborted second ended).2 ▸ member
  | exhausted => exact (bind_of_exhausted second ended).2 ▸ member

theorem moments_read_bind (view : State → Value) (second : Value → Step Result)
    (state : State) : ((read view >>= second) state).trail.moments =
      (second (view state) state).trail.moments := by
  have ended : (read view state).outcome = .done (view state) state := rfl
  rw [(bind_of_done second ended).2]
  show Trail.empty.moments ++ _ = _
  rw [Trail.moments_empty, List.nil_append]

theorem moments_change_bind (update : State → State) (second : Unit → Step Result)
    (state : State) : ((change update >>= second) state).trail.moments =
      ⟨.changed, update state⟩ :: (second () (update state)).trail.moments := by
  have ended : (change update state).outcome = .done () (update state) := rfl
  rw [(bind_of_done second ended).2]
  show (Trail.single _).moments ++ _ = _
  rw [Trail.moments_single, List.singleton_append]

theorem moments_note_bind (happening : Happening) (second : Unit → Step Result)
    (state : State) : ((note happening >>= second) state).trail.moments =
      ⟨happening, state⟩ :: (second () state).trail.moments := by
  have ended : (note happening state).outcome = .done () state := rfl
  rw [(bind_of_done second ended).2]
  show (Trail.single _).moments ++ _ = _
  rw [Trail.moments_single, List.singleton_append]

theorem moments_ensuring (update : State → State) (body : Step Value) (state : State) :
    (ensuring update body state).trail.moments =
      (body state).trail.moments ++ ((body state).outcome.mapState update).trail.moments :=
  Trail.moments_append _ _

end Step

/-! ### Contracts -/

/-- A run passes through proper moments only, and ends as promised, unless it is excused. -/
structure Run.Meets (run : Run Value) (always : Moment → Prop) (excused : Prop)
    (ensures : Value → State → Prop) : Prop where
  passes : ∀ moment ∈ run.trail.moments, always moment
  returns : ∀ value state, run.outcome = .done value state → ensures value state
  fails : ∀ error state, run.outcome = .aborted error state → always ⟨.changed, state⟩
  exhausts : run.outcome = .exhausted → excused

variable {always : Moment → Prop} {excused : Prop} {state : State}

theorem Run.Meets.imp {run : Run Value} {ensures weaker : Value → State → Prop}
    (meets : run.Meets always excused ensures)
    (implies : ∀ value state, ensures value state → weaker value state) :
    run.Meets always excused weaker where
  passes := meets.passes
  returns value state done := implies value state (meets.returns value state done)
  fails := meets.fails
  exhausts := meets.exhausts

/-- A weaker excuse is enough. -/
theorem Run.Meets.excuse {run : Run Value} {ensures : Value → State → Prop} {weaker : Prop}
    (meets : run.Meets always excused ensures) (implies : excused → weaker) :
    run.Meets always weaker ensures where
  passes := meets.passes
  returns := meets.returns
  fails := meets.fails
  exhausts exhausted := implies (meets.exhausts exhausted)

/-- What is known about the outcome of a run may be added to its contract. -/
theorem Run.Meets.and_done {run : Run Value} {ensures : Value → State → Prop}
    (meets : run.Meets always excused ensures) :
    run.Meets always excused fun value state =>
      ensures value state ∧ run.outcome = .done value state where
  passes := meets.passes
  returns value state done := ⟨meets.returns value state done, done⟩
  fails := meets.fails
  exhausts := meets.exhausts

/-- There may be nothing to say about a run. -/
theorem Run.meets_trivial (run : Run Value) :
    run.Meets (fun _ => True) True fun _ _ => True where
  passes _ _ := trivial
  returns _ _ _ := trivial
  fails _ _ _ := trivial
  exhausts _ := trivial

theorem Run.Meets.bind {first : Step Value} {second : Value → Step Result}
    {between : Value → State → Prop} {ensures : Result → State → Prop}
    (left : (first state).Meets always excused between)
    (right : ∀ value next, between value next → (second value next).Meets always excused ensures) :
    ((first >>= second) state).Meets always excused ensures := by
  cases ended : (first state).outcome with
  | done value next =>
    obtain ⟨outcome_eq, moments_eq⟩ := Step.bind_of_done second ended
    have rest := right value next (left.returns value next ended)
    refine ⟨fun moment member => ?_, ?_, ?_, ?_⟩
    · rw [moments_eq] at member
      exact (List.mem_append.mp member).elim (left.passes moment) (rest.passes moment)
    · rw [outcome_eq]
      exact rest.returns
    · rw [outcome_eq]
      exact rest.fails
    · rw [outcome_eq]
      exact rest.exhausts
  | aborted error next =>
    obtain ⟨outcome_eq, trail_eq⟩ := Step.bind_of_aborted second ended
    refine ⟨fun moment member => ?_, fun result last done => ?_, fun other last aborted => ?_,
      fun exhausted => ?_⟩
    · exact left.passes moment (trail_eq ▸ member)
    · rw [outcome_eq] at done
      cases done
    · rw [outcome_eq] at aborted
      cases aborted
      exact left.fails error next ended
    · rw [outcome_eq] at exhausted
      cases exhausted
  | exhausted =>
    obtain ⟨outcome_eq, trail_eq⟩ := Step.bind_of_exhausted second ended
    refine ⟨fun moment member => ?_, fun result last done => ?_, fun other last aborted => ?_,
      fun _ => left.exhausts ended⟩
    · exact left.passes moment (trail_eq ▸ member)
    · rw [outcome_eq] at done
      cases done
    · rw [outcome_eq] at aborted
      cases aborted

theorem meets_of_silent {outcome : Outcome Value} {ensures : Value → State → Prop}
    (returns : ∀ value state, outcome = .done value state → ensures value state)
    (fails : ∀ error state, outcome = .aborted error state → always ⟨.changed, state⟩)
    (exhausts : outcome = .exhausted → excused) :
    Run.Meets ⟨outcome, .empty⟩ always excused ensures where
  passes moment member := by
    rw [Trail.moments_empty] at member
    cases member
  returns
  fails
  exhausts

theorem meets_pure {ensures : Value → State → Prop} {value : Value}
    (holds : ensures value state) :
    ((pure value : Step Value) state).Meets always excused ensures :=
  meets_of_silent (fun _ _ done => (by cases done; exact holds))
    (fun _ _ aborted => by cases aborted) fun exhausted => by cases exhausted

theorem meets_read {ensures : Value → State → Prop} {view : State → Value}
    (holds : ensures (view state) state) :
    (Step.read view state).Meets always excused ensures :=
  meets_of_silent (fun _ _ done => (by cases done; exact holds))
    (fun _ _ aborted => by cases aborted) fun exhausted => by cases exhausted

theorem meets_exhausted {ensures : Value → State → Prop} (excuse : excused) :
    ((Step.exhausted : Step Value) state).Meets always excused ensures :=
  meets_of_silent (fun _ _ done => by cases done) (fun _ _ aborted => by cases aborted)
    fun _ => excuse

theorem meets_abort {ensures : Value → State → Prop} {environment : Environment}
    {cause : FailureCause} (proper : always ⟨.changed, state⟩) :
    ((abort environment cause : Step Value) state).Meets always excused ensures :=
  meets_of_silent (fun _ _ done => by cases done)
    (fun _ _ aborted => (by cases aborted; exact proper)) fun exhausted => by cases exhausted

theorem meets_of_single {moment : Moment} {value : Value} {next : State}
    {ensures : Value → State → Prop} (proper : always moment) (holds : ensures value next) :
    Run.Meets ⟨.done value next, .single moment⟩ always excused ensures where
  passes other member := by
    rw [Trail.moments_single, List.mem_singleton] at member
    rw [member]
    exact proper
  returns _ _ done := by
    cases done
    exact holds
  fails _ _ aborted := by cases aborted
  exhausts exhausted := by cases exhausted

theorem meets_change {ensures : Unit → State → Prop} {update : State → State}
    (proper : always ⟨.changed, update state⟩) (holds : ensures () (update state)) :
    (Step.change update state).Meets always excused ensures :=
  meets_of_single proper holds

theorem meets_note {ensures : Unit → State → Prop} {happening : Happening}
    (proper : always ⟨happening, state⟩) (holds : ensures () state) :
    (Step.note happening state).Meets always excused ensures :=
  meets_of_single proper holds

/-- Reading changes nothing, so what follows may take the value as known. -/
theorem meets_read_bind {ensures : Result → State → Prop} {view : State → Value}
    {second : Value → Step Result}
    (meets : (second (view state) state).Meets always excused ensures) :
    ((Step.read view >>= second) state).Meets always excused ensures := by
  have read : (Step.read view state).Meets always excused fun value next =>
      value = view state ∧ next = state := meets_read ⟨rfl, rfl⟩
  refine read.bind fun value next same => ?_
  rw [same.1, same.2]
  exact meets

/-- After a change the state is known. -/
theorem meets_change_bind {ensures : Result → State → Prop} {update : State → State}
    {second : Unit → Step Result} (proper : always ⟨.changed, update state⟩)
    (meets : (second () (update state)).Meets always excused ensures) :
    ((Step.change update >>= second) state).Meets always excused ensures := by
  have changed : (Step.change update state).Meets always excused fun _ next =>
      next = update state := meets_change proper rfl
  refine changed.bind fun _ next same => ?_
  rw [same]
  exact meets

/-- Saying what happens changes nothing. -/
theorem meets_note_bind {ensures : Result → State → Prop} {happening : Happening}
    {second : Unit → Step Result} (proper : always ⟨happening, state⟩)
    (meets : (second () state).Meets always excused ensures) :
    ((Step.note happening >>= second) state).Meets always excused ensures := by
  have noted : (Step.note happening state).Meets always excused fun _ next => next = state :=
    meets_note proper rfl
  refine noted.bind fun _ next same => ?_
  rw [same]
  exact meets

namespace Outcome

variable {outcome : Outcome Value} {update : State → State}

theorem mapState_eq_done {value : Value} {last : State} :
    outcome.mapState update = .done value last ↔
      ∃ next, outcome = .done value next ∧ last = update next := by
  cases outcome <;> simp [mapState, eq_comm, and_assoc]

theorem mapState_eq_aborted {error : ParseError} {last : State} :
    outcome.mapState update = .aborted error last ↔
      ∃ next, outcome = .aborted error next ∧ last = update next := by
  cases outcome <;> simp [mapState, eq_comm, and_assoc]

theorem mapState_eq_exhausted :
    outcome.mapState update = .exhausted ↔ outcome = .exhausted := by
  cases outcome <;> simp [mapState]

end Outcome

/-- What is done with another grammar is done, and the grammar is what it was. -/
theorem Step.done_of_withGrammar {grammar : Grammar} {body : Step Value} {state last : State}
    {value : Value} (done : (withGrammar grammar body state).outcome = .done value last) :
    ∃ next, (body { state with grammar }).outcome = .done value next ∧
      last = { next with grammar := state.grammar } :=
  Outcome.mapState_eq_done.mp done

/-- The moments of an outcome are proper if the state at its end is. -/
theorem Outcome.passes_trail {outcome : Outcome Value}
    (returns : ∀ value state, outcome = .done value state → always ⟨.changed, state⟩)
    (fails : ∀ error state, outcome = .aborted error state → always ⟨.changed, state⟩) :
    ∀ moment ∈ outcome.trail.moments, always moment := by
  intro moment member
  cases outcome with
  | done value state =>
    rw [trail, Trail.moments_single, List.mem_singleton] at member
    rw [member]
    exact returns value state rfl
  | aborted error state =>
    rw [trail, Trail.moments_single, List.mem_singleton] at member
    rw [member]
    exact fails error state rfl
  | exhausted =>
    rw [trail, Trail.moments_empty] at member
    cases member

theorem Run.Meets.ensuring {body : Step Value} {update : State → State}
    {between : Value → State → Prop} (meets : (body state).Meets always excused between)
    (returns : ∀ value next, between value next → always ⟨.changed, update next⟩)
    (fails : ∀ next, always ⟨.changed, next⟩ → always ⟨.changed, update next⟩) :
    (Step.ensuring update body state).Meets always excused fun value last =>
      ∃ next, between value next ∧ last = update next := by
  have outcome_eq : (Step.ensuring update body state).outcome =
      (body state).outcome.mapState update := rfl
  have failed : ∀ error last, (body state).outcome.mapState update = .aborted error last →
      always ⟨.changed, last⟩ := by
    intro error last aborted
    obtain ⟨next, ended, rfl⟩ := Outcome.mapState_eq_aborted.mp aborted
    exact fails next (meets.fails error next ended)
  refine ⟨fun moment member => ?_, fun value last done => ?_, fun error last aborted => ?_,
    fun exhausted => ?_⟩
  · rcases List.mem_append.mp (Trail.moments_append _ _ ▸ member) with earlier | last
    · exact meets.passes moment earlier
    · refine Outcome.passes_trail (fun value last done => ?_) failed moment last
      obtain ⟨next, ended, rfl⟩ := Outcome.mapState_eq_done.mp done
      exact returns value next (meets.returns value next ended)
  · obtain ⟨next, ended, equal⟩ := Outcome.mapState_eq_done.mp (outcome_eq ▸ done)
    exact ⟨next, meets.returns value next ended, equal⟩
  · exact failed error last (outcome_eq ▸ aborted)
  · exact meets.exhausts (Outcome.mapState_eq_exhausted.mp (outcome_eq ▸ exhausted))

end Rulebook.Parse
