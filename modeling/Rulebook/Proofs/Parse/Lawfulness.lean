/-
This file shows that a whole parse obeys every law of parses. What is done for a rule once its
attempt has been noted conforms to the law, by way of its kind; so every request for a rule
takes a course that the law foresees, and the operation with which rules are asked for is
closed under the kinds.
-/

import Rulebook.Proofs.Parse.Conformity

namespace Rulebook.Parse

open Match (Tree)

variable {environment : Environment} {first : Grammar} {law : Law} {state : State}
  {parent : Nat} {rule : Rule} {excused : Nat → Prop}

theorem conforms_pursue (lawful : Lawful environment first law)
    (faithful : environment.source.Faithful) (ready : Ready environment first parent state)
    (known : Known environment first rule) (attempt : Rule → Nat → Step Bool) (name : String)
    (offset : Nat)
    (tries : Tries environment first state.grammar excused rule parent (attempt rule parent))
    (conforms : ∀ next, Ready environment first parent next →
      Conforms environment first law (some rule) parent next [] (attempt rule parent next)) :
    Conforms environment first law (some rule) parent state []
      (pursue environment attempt parent name offset rule state) := by
  unfold pursue
  refine .read_bind ?_
  cases exceededLimit? environment state with
  | some limit => exact conforms_abort lawful ready _
  | none =>
    refine .bind lawful ready (conforms_traceAttempt lawful ready _ _) fun _ next here => ?_
    rw [← here.grammar_eq] at tries
    refine .bind lawful here.toReady
      (conforms_attemptMemoized lawful faithful here.toReady known tries conforms)
      fun matched next here => ?_
    cases matched with
    | false =>
      have counts := bookkeeping_count here.toSound fun statistics =>
        { statistics with notFound := statistics.notFound + 1 }
      exact .bind lawful here.toReady (conforms_books lawful here.toReady counts)
        fun _ _ there => conforms_pure lawful there.toReady _
    | true =>
      refine .bind lawful here.toReady (conforms_skipWhitespace lawful faithful here.toReady)
        fun _ next here => ?_
      have counts := bookkeeping_count here.toSound fun statistics =>
        { statistics with found := statistics.found + 1 }
      refine .bind lawful here.toReady (conforms_books lawful here.toReady counts)
        fun _ next here => ?_
      exact .bind lawful here.toReady (conforms_traceAttempt lawful here.toReady _ _)
        fun _ _ there => conforms_pure lawful there.toReady _

/-- A request for a rule takes one of its courses. -/
theorem called_consume (lawful : Lawful environment first law)
    (faithful : environment.source.Faithful) (fuel : Nat)
    (serves : ∀ fewer, fewer < fuel →
      Serves environment first law (Parse.consume environment fewer))
    (ready : Ready environment first parent state) (name : String) :
    Called law parent name state
      (Parse.consume environment fuel parent name state).trail.moments
      (Parse.consume environment fuel parent name state).outcome.ending := by
  cases fuel with
  | zero =>
    have quiet : (Parse.consume environment 0 parent name state).trail.moments = [] :=
      Trail.moments_empty
    rw [quiet]
    exact .unworked
  | succ fuel =>
    have inner := serves fuel (Nat.lt_succ_self fuel)
    let attempt : Rule → Nat → Step Bool := fun rule parent =>
      attemptWith rule parent (perform environment (Parse.consume environment fuel) fuel rule)
    obtain ⟨outcome_eq, moments_eq⟩ := consume_succ environment fuel parent name state
    rw [outcome_eq, moments_eq]
    cases found : state.grammar.rule? name with
    | none =>
      obtain ⟨aborted, passed⟩ := invoke_of_absent environment attempt parent found
      rw [aborted, passed]
      simp only [Outcome.mapState, Outcome.trail, Outcome.ending, Trail.moments_single]
      exact .unresolved found _
    | some rule =>
      obtain ⟨invoked, passed⟩ := invoke_of_found environment attempt parent found
      rw [invoked, passed]
      have entered := ready.entered name rule
      have known : Known environment first rule := ⟨state.grammar, name, ready.grammar, found⟩
      have tries := tries_perform faithful inner.reliable state.grammar fuel rule parent
        fun _ => .inl trivial
      have pursued := conforms_pursue lawful faithful entered known attempt name
        (state.tree.stop parent) tries fun next ready =>
          conforms_attempt lawful inner faithful fuel ready rule
      rw [Outcome.ending_mapState, ← Outcome.trail_ending, Outcome.ending_mapState]
      exact .resolved found pursued.obeys

theorem serves_consume (lawful : Lawful environment first law)
    (faithful : environment.source.Faithful) (fuel : Nat) :
    Serves environment first law (Parse.consume environment fuel) := by
  induction fuel using Nat.strongRecOn with
  | ind fuel inductionHypothesis =>
    have reliable := reliable_consume faithful (excuses_always environment first) fuel
    refine ⟨reliable, fun node name state ready mentions => ⟨?_, fun matched next done => ?_⟩⟩
    · exact lawful.call ready mentions
        (called_consume lawful faithful fuel inductionHypothesis ready name)
    · exact (((Working.refl ready).answered
        ((reliable node name state ready).returns matched next done))).continues

/-- Every request for a rule that is made at an open node takes one of its courses. -/
theorem Lawful.called_consume (lawful : Lawful environment first law)
    (faithful : environment.source.Faithful) (fuel : Nat)
    (ready : Ready environment first parent state) (name : String) :
    Called law parent name state
      (Parse.consume environment fuel parent name state).trail.moments
      (Parse.consume environment fuel parent name state).outcome.ending :=
  Parse.called_consume lawful faithful fuel
    (fun fewer _ => serves_consume lawful faithful fewer) ready name

/-- A whole parse obeys every law of parses. -/
theorem Lawful.begin (lawful : Lawful environment first law)
    (faithful : environment.source.Faithful) (fuel : Nat) (start : String) :
    law none Tree.root (State.initial first environment.options)
      (begin environment fuel start
        (State.initial first environment.options)).trail.moments
      (begin environment fuel start
        (State.initial first environment.options)).outcome.ending := by
  have ready := ready_initial environment first
  have conforms : Conforms environment first law none Tree.root
      (State.initial first environment.options) []
      (Parse.begin environment fuel start (State.initial first environment.options)) := by
    unfold Parse.begin
    refine .bind lawful ready (conforms_skipWhitespace lawful faithful ready)
      fun _ next here => ?_
    refine (serves_consume lawful faithful fuel).conforms _ start next here.toReady ?_
    intro rule found
    rw [here.outline.rule?_eq (Nat.lt_succ_self _)] at found
    cases found
  exact conforms.obeys

end Rulebook.Parse
