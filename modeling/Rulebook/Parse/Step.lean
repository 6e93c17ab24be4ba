/-
This file holds the steps that change the state of a parse. A step ends in one of three
ways: with a value, with a failure that ends the whole parse, or because the bound on the
work ran out. The last is kept apart from the other two, so that a statement about a
finished parse says nothing about an unfinished one. The state is part of the result also
when a parse fails.

However a step ends, it has passed through some moments. Its run holds both.
-/

import Rulebook.Parse.Trail

namespace Rulebook.Parse

/-- How a step ends. -/
inductive Outcome (Value : Type) where
  /-- With a value. -/
  | done (value : Value) (state : State)
  /-- With a failure of the whole parse. -/
  | aborted (error : ParseError) (state : State)
  /-- The bound on the work was too small. -/
  | exhausted

namespace Outcome

variable {Value : Type}

/-- Change the state at the end of a step, however it ends. -/
@[inline]
def mapState (update : State → State) : Outcome Value → Outcome Value
  | .done value state => .done value (update state)
  | .aborted error state => .aborted error (update state)
  | .exhausted => .exhausted

/-- The moment at which the state of an outcome was reached. -/
@[inline]
def trail : Outcome Value → Trail
  | .done _ state => .single ⟨.changed, state⟩
  | .aborted _ state => .single ⟨.changed, state⟩
  | .exhausted => .empty

end Outcome

/-- How a step ends, and what it passes through. -/
structure Run (Value : Type) where
  outcome : Outcome Value
  trail : Trail

/-- A part of a parse. -/
def Step (Value : Type) : Type :=
  State → Run Value

namespace Step

variable {Value Result : Type}

/-- Do nothing. -/
@[always_inline, inline]
protected def pure (value : Value) : Step Value :=
  fun state => ⟨.done value state, .empty⟩

/-- One step after another. -/
@[always_inline, inline]
protected def bind (first : Step Value) (second : Value → Step Result) : Step Result :=
  fun state => match first state with
    | ⟨.done value state, trail⟩ =>
      let next := second value state
      ⟨next.outcome, trail.append next.trail⟩
    | ⟨.aborted error state, trail⟩ => ⟨.aborted error state, trail⟩
    | ⟨.exhausted, trail⟩ => ⟨.exhausted, trail⟩

@[always_inline]
instance : Monad Step where
  pure := Step.pure
  bind := Step.bind

/-- Give up for want of work allowed. -/
def exhausted : Step Value :=
  fun _ => ⟨.exhausted, .empty⟩

/-- Read something off the state. -/
@[always_inline, inline]
def read (view : State → Value) : Step Value :=
  fun state => ⟨.done (view state) state, .empty⟩

/-- Change the state. -/
@[always_inline, inline]
def change (update : State → State) : Step Unit :=
  fun state =>
    let state := update state
    ⟨.done () state, .single ⟨.changed, state⟩⟩

/-- Change the tree. -/
@[always_inline, inline]
def changeTree (update : Match.Tree → Match.Tree) : Step Unit :=
  change fun state => { state with tree := update state.tree }

/-- Change the counters. -/
@[always_inline, inline]
def count (update : Statistics → Statistics) : Step Unit :=
  change fun state => { state with statistics := update state.statistics }

/-- Log an event. -/
def log (event : Log.Event) : Step Unit :=
  change fun state => { state with log := state.log.push event }

/-- Say what happens at this moment. -/
@[always_inline, inline]
def note (happening : Happening) : Step Unit :=
  fun state => ⟨.done () state, .single ⟨happening, state⟩⟩

/-- The offset at which the next child of a node would start. -/
@[always_inline, inline]
def stop (id : Nat) : Step Nat :=
  read fun state => state.tree.stop id

/-- Note which part the innermost rule is trying. -/
def setAlternative (index : Nat) : Step Unit :=
  change fun state =>
    { state with stack := match state.stack with
        | [] => []
        | frame :: rest => { frame with alternative := index } :: rest }

/-- Change the state at the end of a step, however the step ends. -/
@[inline]
def ensuring (update : State → State) (body : Step Value) : Step Value :=
  fun state =>
    let run := body state
    let outcome := run.outcome.mapState update
    ⟨outcome, run.trail.append outcome.trail⟩

/-- Run a step with one more rule on the stack. -/
@[inline]
def withFrame (rule : String) (body : Step Value) : Step Value := do
  change fun state => { state with stack := { rule } :: state.stack }
  ensuring (fun state => { state with stack := state.stack.tail }) body

/-- Run a step with another grammar. -/
@[inline]
def withGrammar (grammar : Grammar) (body : Step Value) : Step Value := do
  let previous ← read (·.grammar)
  change fun state => { state with grammar }
  ensuring (fun state => { state with grammar := previous }) body

end Step

/-- End the parse, whatever alternatives remain. -/
def abort {Value : Type} (environment : Environment) (cause : FailureCause) : Step Value :=
  fun state => ⟨.aborted (state.abortion environment cause) state, .empty⟩

end Rulebook.Parse
