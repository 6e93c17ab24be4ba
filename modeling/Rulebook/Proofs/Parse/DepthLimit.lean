/-
This file shows that the limit on the stack of rules is transparent. A parse that does not
fail for want of room on the stack goes the same way with a wider limit and with none at all:
it answers, counts and logs the same. The same is true of every request for a rule within a
parse. So a rule that cannot be tried for want of room is never taken for one that does not
match; it ends the parse.
-/

import Rulebook.Proofs.Parse.Patience
import Rulebook.Proofs.Parse.Restoration

namespace Rulebook.Parse

open Match (Tree)

variable {environment : Environment} {first : Grammar} {left : State} {limit : Nat}
  {wider : Option Nat}

/-- A parse failed because the stack of rules was higher than a limit allows. -/
def OutOfRoom (error : ParseError) : Prop :=
  ∃ limit, error.cause = .maxRecursionDepth limit

/-- Failures for want of room on the stack are spared the comparison. -/
def SparesRoom (error : Option ParseError) : Prop :=
  ∃ failure, error = some failure ∧ OutOfRoom failure

/-- The same environment with a limit on the stack for grammars that set none themselves. -/
def Environment.limited (environment : Environment) (limit : Option Nat) : Environment :=
  { environment with options := { environment.options with maxDepth := limit } }

/-- A limit is at least as wide as another, or there is none. -/
def Widens (limit : Nat) (wider : Option Nat) : Prop :=
  ∀ more, wider = some more → limit ≤ more

/-- Where a wider limit makes a difference, the narrower one has been exceeded. -/
theorem limits_of_widens (widens : Widens limit wider) :
    Limits (environment.limited (some limit)) (environment.limited wider).options SparesRoom := by
  intro state
  cases own : state.grammar.depthLimit with
  | some fixed =>
    left
    rw [exceededLimit?, exceededLimit?, own]
    rfl
  | none =>
    have narrow : exceededLimit? (environment.limited (some limit)) state =
        if limit < state.stack.length then some limit else none := by
      rw [exceededLimit?, own]
      rfl
    by_cases exceeded : limit < state.stack.length
    · rw [if_pos exceeded] at narrow
      exact .inr ⟨limit, narrow, fun error cause => ⟨error, rfl, limit, cause⟩⟩
    · left
      rw [narrow, if_neg exceeded, exceededLimit?, own]
      cases wide : wider with
      | none => rfl
      | some more =>
        have enough : ¬ more < state.stack.length := by
          have le := widens more wide
          omega
        exact if_neg enough

/-- An outcome that agrees with another is the same, or it failed for want of room. -/
theorem Outcome.Agrees.eq_or_outOfRoom {Value : Type} {outcome other : Outcome Value}
    (agrees : Outcome.Agrees SparesRoom Eq outcome other) :
    (∃ error after, outcome = .aborted error after ∧ OutOfRoom error) ∨ other = outcome := by
  cases agrees with
  | done agree => exact .inr (by rw [agree.eq])
  | aborted agree => exact .inr (by rw [agree.eq])
  | exhausted => exact .inr rfl
  | sparedExhaustion holds =>
    obtain ⟨_, absurd, _⟩ := holds
    cases absurd
  | sparedAbortion holds =>
    obtain ⟨_, same, outOfRoom⟩ := holds
    cases same
    exact .inl ⟨_, _, rfl, outOfRoom⟩

/-- A request for a rule fails for want of room, or a wider limit makes no difference to it. -/
theorem consume_limited (faithful : environment.source.Faithful) (widens : Widens limit wider)
    {parent : Nat} (ready : Ready (environment.limited (some limit)) first parent left)
    (fuel : Nat) (name : String) :
    (∃ error after, (consume (environment.limited (some limit)) fuel parent name left).outcome =
        .aborted error after ∧ OutOfRoom error) ∨
      (consume (environment.limited wider) fuel parent name left).outcome =
        (consume (environment.limited (some limit)) fuel parent name left).outcome := by
  have lockstep : Lockstep (environment.limited (some limit)) first SparesRoom Eq
      (consume (environment.limited (some limit)) fuel)
      (consume (environment.limited wider) fuel) :=
    lockstep_consume replays_same (limits_of_widens widens) faithful (.inl rfl)
  exact (lockstep.agrees parent name left left ready
    (State.agrees_refl left)).ends.eq_or_outOfRoom

/-- A parse fails for want of room, or a wider limit makes no difference to it. -/
theorem run_limited (faithful : environment.source.Faithful) (widens : Widens limit wider)
    (fuel : Nat) (start : Option String)
    (roomy : ∀ error, (run (environment.limited (some limit)) fuel first start).answer =
      .failed error → ¬ OutOfRoom error) :
    run (environment.limited wider) fuel first start =
      run (environment.limited (some limit)) fuel first start := by
  unfold run at roomy ⊢
  cases chosen : start <|> first.startSymbol with
  | none => rfl
  | some name =>
    rw [chosen] at roomy
    have ready := ready_initial (environment.limited (some limit)) first
    have agrees : Outcome.Agrees SparesRoom Eq
        (begin (environment.limited (some limit)) fuel name
          (State.initial first (environment.limited (some limit)).options)).outcome
        (begin (environment.limited wider) fuel name
          (State.initial first (environment.limited (some limit)).options)).outcome :=
      (agrees_begin replays_same (limits_of_widens widens) faithful (.inl (Eq.refl fuel)) name
        ready (State.agrees_refl _)).ends
    rcases agrees.eq_or_outOfRoom with ⟨error, after, aborted, outOfRoom⟩ | same
    · dsimp only at roomy
      rw [aborted] at roomy
      exact absurd outOfRoom (roomy error rfl)
    · exact congrArg (conclude (environment.limited (some limit))) same

/-- The limit on the stack is transparent. If a parse with a limit does not fail for want of
room, then with a wider limit and with none it gives the same report: the same tree with the
same counters, or the same failure, and the same log. And in every state that a parse with a
limit reaches, a request for a rule fails for want of room or has the very outcome that it has
with a wider limit and with none; what is found not to match with the limit does not match
without it. -/
theorem depth_limit_transparent (input : String) (registry : Registry) (options : ParseOptions)
    (tracing : Bool) (fuel limit : Nat) (wider : Option Nat) (widens : Widens limit wider) :
    let environment maxDepth :=
      Environment.ofText input registry { options with maxDepth } tracing
    (∀ first start,
      (∀ error, (run (environment (some limit)) fuel first start).answer = .failed error →
        ¬ OutOfRoom error) →
      run (environment wider) fuel first start =
        run (environment (some limit)) fuel first start) ∧
    (∀ name start,
      (∀ error, (runNamed (environment (some limit)) fuel name start).answer = .failed error →
        ¬ OutOfRoom error) →
      runNamed (environment wider) fuel name start =
        runNamed (environment (some limit)) fuel name start) ∧
    ∀ first start state parent name, Reachable (environment (some limit)) first start state →
      state.tree.Open parent →
        let outcome maxDepth := (consume (environment maxDepth) fuel parent name state).outcome
        (∃ error after, outcome (some limit) = .aborted error after ∧ OutOfRoom error) ∨
          outcome wider = outcome (some limit) := by
  intro environment
  have faithful := Environment.faithful_ofText input registry options tracing
  refine ⟨fun first start roomy => ?_, fun name start roomy => ?_,
    fun first start state parent name reached isOpen => ?_⟩
  · exact run_limited faithful widens fuel start roomy
  · have lookup_eq : ∀ maxDepth, (environment maxDepth).registry.lookup? name =
        registry.lookup? name := fun _ => rfl
    rw [runNamed, lookup_eq] at roomy ⊢
    rw [runNamed, lookup_eq]
    cases found : registry.lookup? name with
    | none => rfl
    | some first =>
      rw [found] at roomy
      exact run_limited faithful widens fuel start roomy
  · exact consume_limited faithful widens ⟨reached.sound faithful, isOpen⟩ fuel name

/-- A pair needs room for two rules on the stack. With room for one it fails, and with more
than it needs it goes as it does with just enough. -/
theorem pair_needs_room_for_two :
    let report maxDepth :=
      run (Environment.ofText "xy" {} { maxDepth } false) 3 pair (some "pair")
    (∃ error, (report (some 1)).answer = .failed error ∧ OutOfRoom error) ∧
      Widens 2 none ∧
      (∀ error, (report (some 2)).answer = .failed error → ¬ OutOfRoom error) ∧
        report none = report (some 2) := by
  intro report
  have widens : Widens 2 none := fun _ absurd => nomatch absurd
  have roomy : ∀ error, (report (some 2)).answer = .failed error → ¬ OutOfRoom error :=
    fun _ absurd => nomatch absurd
  exact ⟨⟨_, rfl, 1, rfl⟩, widens, roomy,
    (depth_limit_transparent "xy" {} {} false 3 2 none widens).1 pair (some "pair") roomy⟩

end Rulebook.Parse
