/-
This file shows that the work allowed makes no difference to a parse that comes to an end. With
more work allowed it takes the very same steps, so it answers and logs the same. A parse that
terminates therefore has one answer, and a parse that does not terminate has none however much
work is allowed.
-/

import Rulebook.Proofs.Parse.Lockstep

namespace Rulebook.Parse

open Match (Tree)

variable {Value : Type} {environment : Environment} {first : Grammar}
  {spared : Option ParseError → Prop} {left right : State}

/-- States that agree in their memos, too, are the same. -/
theorem State.Agrees.eq (agree : left.Agrees Eq right) : right = left := by
  have same := agree.right_eq
  rwa [← agree.memos] at same

theorem State.agrees_refl (state : State) : state.Agrees Eq state :=
  ⟨rfl, rfl⟩

theorem Outcome.agrees_refl (outcome : Outcome Value) :
    Outcome.Agrees spared Eq outcome outcome := by
  cases outcome with
  | done value state => exact .done (State.agrees_refl state)
  | aborted error state => exact .aborted (State.agrees_refl state)
  | exhausted => exact .exhausted

theorem Run.agrees_refl (run : Run Value) : run.Agrees spared Eq run :=
  ⟨Outcome.agrees_refl run.outcome, fun _ _ _ => rfl⟩

/-- With the same memos, the memo makes no difference. -/
theorem replays_same : Replays environment first spared Eq := by
  intro rule parent attempt attempt' left right known tries _ ready agree attempts
  have same := agree.eq
  subst same
  unfold attemptMemoized
  refine agrees_note_bind rfl (agrees_read_views ?_)
  split
  · unfold attemptRemembering
    refine agrees_read_bind agree (fun _ _ => rfl) ?_
    refine (Run.agrees_refl _).bind (meets_consult ready.toSound _)
      fun answer next next' told agree => ?_
    have same := agree.eq
    subst same
    match answer with
    | some (some length) => exact Run.agrees_refl _
    | some none => exact Run.agrees_refl _
    | none =>
      refine (attempts _ _ (told.1.ready ready) told.1.grammar_eq agree).bind
        (Run.meets_trivial _) fun matched after after' _ agree => ?_
      have same := agree.eq
      subst same
      exact Run.agrees_refl _
  · exact attempts _ _ ready rfl agree

/-- A parse that comes to an end ends in the same way with more work allowed. -/
theorem begin_eq_of_le (faithful : environment.source.Faithful) {fuel more : Nat}
    (le : fuel ≤ more) (start : String) (ready : Ready environment first Tree.root left)
    (finished : (begin environment fuel start left).outcome ≠ .exhausted) :
    (begin environment more start left).outcome = (begin environment fuel start left).outcome := by
  have agrees : Outcome.Agrees (Eq none) Eq (begin environment fuel start left).outcome
      (begin environment more start left).outcome :=
    (agrees_begin replays_same (fun _ => .inl rfl) faithful (.inr ⟨rfl, le⟩) start ready
      (State.agrees_refl left)).ends
  generalize (begin environment fuel start left).outcome = outcome at *
  generalize (begin environment more start left).outcome = outcome' at *
  cases agrees with
  | done agree => rw [agree.eq]
  | aborted agree => rw [agree.eq]
  | exhausted => rfl
  | sparedExhaustion holds => exact absurd rfl finished
  | sparedAbortion holds => cases holds

/-- A parse with an answer gives the same report with more work allowed. -/
theorem run_eq_of_le (faithful : environment.source.Faithful) {fuel more : Nat}
    (le : fuel ≤ more) {start : Option String}
    (answered : (run environment fuel first start).answer ≠ .exhausted) :
    run environment more first start = run environment fuel first start := by
  rw [run] at answered
  unfold run
  cases chosen : start <|> first.startSymbol with
  | none => rfl
  | some name =>
    rw [chosen] at answered
    have finished : (begin environment fuel name
        (State.initial first environment.options)).outcome ≠ .exhausted := by
      intro exhausted
      apply answered
      simp only [exhausted]
      rfl
    simp only [begin_eq_of_le faithful le name (ready_initial environment first) finished]

end Rulebook.Parse
