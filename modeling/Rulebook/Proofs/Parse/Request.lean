/-
This file takes a request for a rule apart. The name is put on the stack and the call is
counted; the rule of that name is looked up, and the attempt is noted before anything is done
for the rule; what is then done for it depends on the rule; and in the end the name is taken
off the stack again.
-/

import Rulebook.Proofs.Parse.Conduct

namespace Rulebook.Parse

variable {environment : Environment} {first : Grammar} {state : State} {parent : Nat}
  {rule : Rule} {name : String}

namespace State

/-- The state after a name has been put on the stack. -/
def pushed (state : State) (name : String) : State :=
  { state with stack := { rule := name } :: state.stack }

/-- The state after the call of a name has been counted. -/
def counted (state : State) (name : String) : State :=
  { state.pushed name with
    statistics := { state.statistics with calls := state.statistics.calls + 1 } }

/-- The state after the attempt of a rule has been noted. -/
def entered (state : State) (parent : Nat) (name : String) (rule : Rule) : State :=
  { state.counted name with
    diagnostics :=
      state.diagnostics.record (state.tree.stop parent) rule ({ rule := name } :: state.stack) }

/-- The state after a name has been taken off the stack. -/
def popped (state : State) : State :=
  { state with stack := state.stack.tail }

end State

/-- What is done for a rule once its attempt has been noted. -/
def pursue (environment : Environment) (attempt : Rule → Nat → Step Bool) (parent : Nat)
    (name : String) (offset : Nat) (rule : Rule) : Step Bool := do
  match ← Step.read (exceededLimit? environment) with
  | some limit => abort environment (.maxRecursionDepth limit)
  | none =>
    traceAttempt environment offset (.tried · · name)
    if ← attemptMemoized rule parent (attempt rule parent) then
      skipWhitespace environment parent
      Step.count fun statistics => { statistics with found := statistics.found + 1 }
      traceAttempt environment offset (.matched · · name)
      return true
    else
      Step.count fun statistics => { statistics with notFound := statistics.notFound + 1 }
      return false

/-- A call is counted, its rule is looked up, and the attempt is noted before anything is done
for the rule. -/
theorem invoke_eq (environment : Environment) (attempt : Rule → Nat → Step Bool) (parent : Nat)
    (name : String) : invoke environment attempt parent name = (do
      let offset ← Step.stop parent
      Step.count fun statistics => { statistics with calls := statistics.calls + 1 }
      match ← Step.read (·.grammar.rule? name) with
      | none => abort environment (.undefinedRule name)
      | some rule =>
        Step.change fun state =>
          { state with diagnostics := state.diagnostics.record offset rule state.stack }
        pursue environment attempt parent name offset rule) := rfl

theorem invoke_of_absent (environment : Environment) (attempt : Rule → Nat → Step Bool)
    (parent : Nat) (absent : state.grammar.rule? name = none) :
    (invoke environment attempt parent name (state.pushed name)).outcome =
        .aborted ((state.counted name).abortion environment (.undefinedRule name))
          (state.counted name) ∧
      (invoke environment attempt parent name (state.pushed name)).trail.moments =
        [⟨.changed, state.counted name⟩] := by
  rw [invoke_eq]
  unfold Step.stop Step.count
  constructor
  · rw [Step.outcome_read_bind, Step.outcome_change_bind, Step.outcome_read_bind]
    simp only [State.pushed, absent]
    rfl
  · rw [Step.moments_read_bind, Step.moments_change_bind, Step.moments_read_bind]
    simp only [State.pushed, absent]
    exact congrArg (_ :: ·) Trail.moments_empty

theorem invoke_of_found (environment : Environment) (attempt : Rule → Nat → Step Bool)
    (parent : Nat) (found : state.grammar.rule? name = some rule) :
    (invoke environment attempt parent name (state.pushed name)).outcome =
        (pursue environment attempt parent name (state.tree.stop parent) rule
          (state.entered parent name rule)).outcome ∧
      (invoke environment attempt parent name (state.pushed name)).trail.moments =
        ⟨.changed, state.counted name⟩ :: ⟨.changed, state.entered parent name rule⟩ ::
          (pursue environment attempt parent name (state.tree.stop parent) rule
            (state.entered parent name rule)).trail.moments := by
  rw [invoke_eq]
  unfold Step.stop Step.count
  constructor
  · rw [Step.outcome_read_bind, Step.outcome_change_bind, Step.outcome_read_bind]
    simp only [State.pushed, found]
    rfl
  · rw [Step.moments_read_bind, Step.moments_change_bind, Step.moments_read_bind]
    simp only [State.pushed, found]
    rw [Step.moments_change_bind]
    rfl

/-- The moments of a request for a rule: it is made, the name is put on the stack, the rule is
invoked, and the name is taken off the stack. -/
theorem consume_succ (environment : Environment) (fuel parent : Nat) (name : String)
    (state : State) :
    let invoked := invoke environment (fun rule parent =>
      attemptWith rule parent (perform environment (Parse.consume environment fuel) fuel rule))
      parent name (state.pushed name)
    (Parse.consume environment (fuel + 1) parent name state).outcome =
        invoked.outcome.mapState State.popped ∧
      (Parse.consume environment (fuel + 1) parent name state).trail.moments =
        ⟨.asked parent name, state⟩ :: ⟨.changed, state.pushed name⟩ ::
          (invoked.trail.moments ++ (invoked.outcome.mapState State.popped).trail.moments) := by
  unfold Parse.consume Step.withFrame
  refine ⟨rfl, ?_⟩
  rw [Step.moments_note_bind, Step.moments_change_bind, Step.moments_ensuring]
  rfl

theorem Ready.entered (ready : Ready environment first parent state) (name : String)
    (rule : Rule) : Ready environment first parent (state.entered parent name rule) :=
  ⟨⟨ready.tree, ready.grammar, ready.memoizing, ready.memo⟩, ready.isOpen⟩

end Rulebook.Parse
