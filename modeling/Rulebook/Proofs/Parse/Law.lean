/-
This file is about laws that all parts of a parse obey. A law says something of the moments
that a part passes through and of how it ends, in view of the state in which it begins, the
node at which it works, and the rule that has been called there and has no node of its own
yet. It is a law of parses if it speaks truly of the few things that a parse does by itself,
and if it can be told of a whole once it can be told of its parts.

A part works at a node and comes back to it: whatever happens to the tree further down, the
node and its ancestors keep their outline, and work can go on there.
-/

import Rulebook.Proofs.Grammar.References
import Rulebook.Proofs.Parse.Request
import Rulebook.Proofs.Tree.Outline

namespace Rulebook.Parse

open Match (Origin Tree)

variable {Value Result : Type}

namespace Outcome

/-- How a step ends, whatever its value. -/
def ending : Outcome Value → Outcome Unit
  | .done _ state => .done () state
  | .aborted error state => .aborted error state
  | .exhausted => .exhausted

/-- The state at the end of a step, if there is an end. -/
def last? : Outcome Value → Option State
  | .done _ state => some state
  | .aborted _ state => some state
  | .exhausted => none

@[simp]
theorem last?_ending (outcome : Outcome Value) : outcome.ending.last? = outcome.last? := by
  cases outcome <;> rfl

theorem last?_mapState (update : State → State) (outcome : Outcome Value) :
    (outcome.mapState update).last? = outcome.last?.map update := by
  cases outcome <;> rfl

theorem ending_mapState (update : State → State) (outcome : Outcome Value) :
    (outcome.mapState update).ending = outcome.ending.mapState update := by
  cases outcome <;> rfl

theorem trail_ending (outcome : Outcome Value) : outcome.ending.trail = outcome.trail := by
  cases outcome <;> rfl

theorem moments_trail (outcome : Outcome Value) :
    outcome.trail.moments = outcome.last?.toList.map (⟨.changed, ·⟩) := by
  cases outcome with
  | done value state => exact Trail.moments_single _
  | aborted error state => exact Trail.moments_single _
  | exhausted => exact Trail.moments_empty

/-- The only moment of an outcome is the one at which its state was reached. -/
theorem mem_moments_trail_mapState {outcome : Outcome Value} {update : State → State}
    {moment : Moment} : moment ∈ (outcome.mapState update).trail.moments ↔
      ∃ last, outcome.last? = some last ∧ moment = ⟨.changed, update last⟩ := by
  rw [moments_trail, last?_mapState]
  cases outcome.last? with
  | none => simp
  | some last => simp

end Outcome

/-! ### Coming back to a node -/

/-- Work has come back to a node. The node and its ancestors have the outline they had. -/
structure Continues (environment : Environment) (first : Grammar) (node : Nat)
    (before after : State) : Prop extends Ready environment first node after where
  grammar_eq : after.grammar = before.grammar
  tail_eq : after.stack.tail = before.stack.tail
  height_eq : after.stack.length = before.stack.length
  outline : Tree.SameOutline (node + 1) before.tree after.tree

/-- A change that concerns neither the outline of the tree nor the reports of the parse. Nodes
may be detached. -/
structure Slight (environment : Environment) (first : Grammar) (node : Nat)
    (before after : State) : Prop extends Continues environment first node before after where
  diagnostics_eq : after.diagnostics = before.diagnostics
  pruned : Tree.Pruned before.tree after.tree

/-- What has no children: the mark of a missing item, and tokens. -/
inductive Childless : Origin → Prop where
  | lambda (name : String) : Childless (.lambda name)
  | token {rule : Rule} (isToken : rule.isToken = true) : Childless (.rule rule)

/-- A childless node has been attached to a node. -/
structure Sprouting (environment : Environment) (first : Grammar) (node : Nat)
    (before after : State) : Prop extends Continues environment first node before after where
  diagnostics_eq : after.diagnostics = before.diagnostics
  sprouted : ∃ origin, Childless origin ∧ Tree.Sprouted node origin before.tree after.tree

variable {environment : Environment} {first : Grammar} {node parent : Nat}
  {before middle after state next : State} {rule : Rule} {name : String}

namespace Continues

theorem refl (ready : Ready environment first node state) :
    Continues environment first node state state :=
  ⟨ready, rfl, rfl, rfl, fun _ _ => rfl, fun _ _ => rfl, fun _ _ => rfl⟩

theorem trans (left : Continues environment first node before middle)
    (right : Continues environment first node middle after) :
    Continues environment first node before after where
  toReady := right.toReady
  grammar_eq := right.grammar_eq.trans left.grammar_eq
  tail_eq := right.tail_eq.trans left.tail_eq
  height_eq := right.height_eq.trans left.height_eq
  outline := left.outline.trans right.outline

end Continues

/-- Work at a node comes back to it. -/
theorem Working.continues (working : Working environment first node before after) :
    Continues environment first node before after :=
  ⟨working.ready, working.grammar_eq, working.tail_eq, working.height_eq,
    working.grown.sameOutline.mono working.grown.inside⟩

theorem Still.slight (still : Still environment first before after)
    (ready : Ready environment first node before)
    (diagnostics_eq : after.diagnostics = before.diagnostics) :
    Slight environment first node before after :=
  ⟨((Working.refl ready).still still).continues, diagnostics_eq, by
    rw [still.tree_eq]
    exact Tree.pruned_refl _⟩

/-- The state after a node has been attached for a rule. -/
def State.attached (state : State) (parent : Nat) (rule : Rule) : State :=
  { state with tree := state.tree.attach parent (.rule rule) }

/-- Work at a child comes back to the parent. -/
theorem Worked.continues (ready : Ready environment first parent state)
    (worked : Worked environment first state.tree.size (state.attached parent rule) next) :
    Continues environment first parent (state.attached parent rule) next := by
  have inside := ready.isOpen.inside
  have grown := worked.grown
  have above := grown.of_child ready.tree.rising inside
  have unmatched : (next.tree.node parent).terminal = false := by
    rw [grown.node_parent ready.tree.rising inside]
    exact ready.isOpen.unmatched
  refine ⟨⟨worked.sound, ready.isOpen.of_grown above unmatched⟩, worked.grammar_eq,
    worked.tail_eq, worked.height_eq, grown.sameOutline.mono ?_⟩
  show parent < (state.tree.attach parent (.rule rule)).size
  rw [Tree.size_attach]
  exact Nat.lt_succ_of_lt inside

/-! ### Laws -/

/-- What may be said of a part of a parse. -/
abbrev Law := Option Rule → Nat → State → List Moment → Outcome Unit → Prop

/-- The rule at a node, if there is one, mentions a name. -/
def Mentions (tree : Tree) (node : Nat) (name : String) : Prop :=
  ∀ rule, (tree.node node).rule? = some rule → name ∈ rule.kind.references

/-- The course of a request for a rule. Either the allowance of work does not even reach to
that, or there is no rule of that name, or the rule is entered and what follows is a part of
the parse at the same node, with the rule called there. -/
inductive Called (law : Law) (parent : Nat) (name : String) (state : State) :
    List Moment → Outcome Unit → Prop where
  | unworked : Called law parent name state [] .exhausted
  | unresolved (absent : state.grammar.rule? name = none) (error : ParseError) :
    Called law parent name state
      [⟨.asked parent name, state⟩, ⟨.changed, state.pushed name⟩,
        ⟨.changed, state.counted name⟩, ⟨.changed, (state.counted name).popped⟩]
      (.aborted error (state.counted name).popped)
  | resolved {rule : Rule} (found : state.grammar.rule? name = some rule)
    {moments : List Moment} {ending : Outcome Unit}
    (inner : law (some rule) parent (state.entered parent name rule) moments ending) :
    Called law parent name state
      (⟨.asked parent name, state⟩ :: ⟨.changed, state.pushed name⟩ ::
        ⟨.changed, state.counted name⟩ :: ⟨.changed, state.entered parent name rule⟩ ::
          (moments ++ (ending.mapState State.popped).trail.moments))
      (ending.mapState State.popped)

/-- What makes something a law of parses. -/
structure Lawful (environment : Environment) (first : Grammar) (law : Law) : Prop where
  /-- Nothing happens. -/
  silent : ∀ {called node state ending}, Ready environment first node state →
    (∀ last, ending.last? = some last → last = state) → law called node state [] ending
  /-- One part comes after another. -/
  join : ∀ {called node before middle moments later ending},
    Ready environment first node before → Continues environment first node before middle →
      law called node before moments (.done () middle) →
        law called node middle later ending →
          law called node before (moments ++ later) ending
  slight : ∀ {called node before after happening}, Ready environment first node before →
    Slight environment first node before after →
      (∀ parent name, happening ≠ .asked parent name) →
        law called node before [⟨happening, after⟩] (.done () after)
  sprout : ∀ {called node before after}, Ready environment first node before →
    Sprouting environment first node before after →
      law called node before [⟨.changed, after⟩] (.done () after)
  /-- A node is attached for the rule that has been called, and work goes on there. If the
  rule is an operator, it is not being matched already. -/
  child : ∀ {node state rule moments ending}, Ready environment first node state →
    rule.isToken = false →
      (rule.isOperator = true → isRepeating (state.attached node rule).tree rule
        ((state.attached node rule).tree.lineage state.tree.size).tail = false) →
        law none state.tree.size (state.attached node rule) moments ending →
          law (some rule) node state (⟨.changed, state.attached node rule⟩ :: moments) ending
  /-- An operator is being matched already, and the node attached for it is detached. -/
  refuse : ∀ {node state rule}, Ready environment first node state →
    rule.isOperator = true →
      isRepeating (state.attached node rule).tree rule
        ((state.attached node rule).tree.lineage state.tree.size).tail = true →
        law (some rule) node state
          [⟨.changed, state.attached node rule⟩, ⟨.changed, state⟩] (.done () state)
  /-- An import works with another grammar. -/
  switch : ∀ {node state self target grammar moments ending},
    Ready environment first node state → (state.tree.node node).origin = .rule self →
      self.kind = .imported target →
        environment.registry.lookup? target.grammar = some grammar →
          law none node { state with grammar } moments ending →
            law none node state (⟨.changed, { state with grammar }⟩ :: (moments ++
              (ending.mapState ({ · with grammar := state.grammar })).trail.moments))
              (ending.mapState ({ · with grammar := state.grammar }))
  call : ∀ {node name state moments ending}, Ready environment first node state →
    Mentions state.tree node name → Called law node name state moments ending →
      law none node state moments ending

/-! ### Safe parts -/

/-- A part passes through proper moments only, and ends as promised. -/
structure Safe (always : Moment → Prop) (ensures : State → Prop) (moments : List Moment)
    (ending : Outcome Unit) : Prop where
  passes : ∀ moment ∈ moments, always moment
  ends : ∀ last, ending.last? = some last → ensures last

namespace Safe

variable {always : Moment → Prop} {ensures : State → Prop} {moment : Moment}
  {moments later : List Moment} {ending : Outcome Unit}

theorem single (proper : always moment) (holds : ensures state) :
    Safe always ensures [moment] (.done () state) where
  passes := List.forall_mem_singleton.mpr proper
  ends _ ended := Option.some.inj ended ▸ holds

theorem cons (proper : always moment) (safe : Safe always ensures moments ending) :
    Safe always ensures (moment :: moments) ending where
  passes := List.forall_mem_cons.mpr ⟨proper, safe.passes⟩
  ends := safe.ends

theorem append (left : Safe always ensures moments (.done () middle))
    (right : ensures middle → Safe always ensures later ending) :
    Safe always ensures (moments ++ later) ending where
  passes := List.forall_mem_append.mpr ⟨left.passes, (right (left.ends middle rfl)).passes⟩
  ends := (right (left.ends middle rfl)).ends

/-- What is done at the end, however a part ends. -/
theorem mapState (safe : Safe always ensures moments ending) {update : State → State}
    (proper : ∀ state, ensures state → always ⟨.changed, state⟩)
    (kept : ∀ state, ensures state → ensures (update state)) :
    Safe always ensures (moments ++ (ending.mapState update).trail.moments)
      (ending.mapState update) where
  passes := by
    refine List.forall_mem_append.mpr ⟨safe.passes, fun moment member => ?_⟩
    obtain ⟨last, ended, rfl⟩ := Outcome.mem_moments_trail_mapState.mp member
    exact proper _ (kept last (safe.ends last ended))
  ends last ended := by
    rw [Outcome.last?_mapState] at ended
    obtain ⟨next, reached, rfl⟩ := Option.map_eq_some_iff.mp ended
    exact kept next (safe.ends next reached)

end Safe

/-- A request for a rule is safe if what is done for the rule is. -/
theorem Called.safe {law : Law} {always : Moment → Prop} {ensures : State → Prop}
    {moments : List Moment} {ending : Outcome Unit}
    (called : Called law node name state moments ending)
    (proper : ∀ happening state, ensures state → always ⟨happening, state⟩)
    (asked : ensures state) (pushed : ensures (state.pushed name))
    (counted : ensures (state.counted name))
    (entered : ∀ rule, ensures (state.entered node name rule))
    (popped : ∀ state, ensures state → ensures state.popped)
    (inner : ∀ rule moments ending, state.grammar.rule? name = some rule →
      law (some rule) node (state.entered node name rule) moments ending →
        Safe always ensures moments ending) :
    Safe always ensures moments ending := by
  cases called with
  | unworked => exact ⟨List.forall_mem_nil _, fun last ended => by cases ended⟩
  | unresolved absent error =>
    have last := popped _ counted
    exact .cons (proper _ _ asked) (.cons (proper _ _ pushed) (.cons (proper _ _ counted)
      ⟨List.forall_mem_singleton.mpr (proper _ _ last), fun _ ended =>
        Option.some.inj ended ▸ last⟩))
  | resolved found obeys =>
    have safe := (inner _ _ _ found obeys).mapState (proper .changed) popped
    exact .cons (proper _ _ asked) (.cons (proper _ _ pushed) (.cons (proper _ _ counted)
      (.cons (proper _ _ (entered _)) safe)))

/-! ### Runs that conform to a law -/

variable {law : Law} {called : Option Rule} {earlier : List Moment}

/-- Some moments that came earlier and a run after them obey a law, and the run comes back to
the node. -/
structure Conforms (environment : Environment) (first : Grammar) (law : Law)
    (called : Option Rule) (node : Nat) (before : State) (earlier : List Moment)
    (run : Run Value) : Prop where
  obeys : law called node before (earlier ++ run.trail.moments) run.outcome.ending
  continues : ∀ value next, run.outcome = .done value next →
    Continues environment first node before next

namespace Conforms

/-- What is known about the end of a step may be used in what follows. -/
theorem bind_of_done (lawful : Lawful environment first law)
    (ready : Ready environment first node before) {step : Step Value}
    {second : Value → Step Result}
    (left : Conforms environment first law called node before earlier (step state))
    (right : ∀ value next, (step state).outcome = .done value next →
      Continues environment first node before next →
        Conforms environment first law called node next [] (second value next)) :
    Conforms environment first law called node before earlier ((step >>= second) state) := by
  obtain ⟨obeys, continues⟩ := left
  cases ended : (step state).outcome with
  | done value next =>
    obtain ⟨outcome_eq, moments_eq⟩ := Step.bind_of_done second ended
    have here := continues value next ended
    have rest := right value next ended here
    rw [ended] at obeys
    constructor
    · rw [outcome_eq, moments_eq, ← List.append_assoc]
      exact lawful.join ready here obeys rest.obeys
    · intro result last done
      rw [outcome_eq] at done
      exact here.trans (rest.continues result last done)
  | aborted error next =>
    obtain ⟨outcome_eq, trail_eq⟩ := Step.bind_of_aborted second ended
    rw [ended] at obeys
    constructor
    · rw [outcome_eq, trail_eq]
      exact obeys
    · intro result last done
      rw [outcome_eq] at done
      cases done
  | exhausted =>
    obtain ⟨outcome_eq, trail_eq⟩ := Step.bind_of_exhausted second ended
    rw [ended] at obeys
    constructor
    · rw [outcome_eq, trail_eq]
      exact obeys
    · intro result last done
      rw [outcome_eq] at done
      cases done

theorem bind (lawful : Lawful environment first law)
    (ready : Ready environment first node before) {step : Step Value}
    {second : Value → Step Result}
    (left : Conforms environment first law called node before earlier (step state))
    (right : ∀ value next, Continues environment first node before next →
      Conforms environment first law called node next [] (second value next)) :
    Conforms environment first law called node before earlier ((step >>= second) state) :=
  left.bind_of_done lawful ready fun value next _ => right value next

theorem read_bind {view : State → Value} {second : Value → Step Result}
    (conforms : Conforms environment first law called node before earlier
      (second (view state) state)) :
    Conforms environment first law called node before earlier
      ((Step.read view >>= second) state) where
  obeys := by
    rw [Step.moments_read_bind, Step.outcome_read_bind]
    exact conforms.obeys
  continues := by
    rw [Step.outcome_read_bind]
    exact conforms.continues

/-- A change may be told of as something that came earlier. -/
theorem change_bind {update : State → State} {second : Unit → Step Result}
    (conforms : Conforms environment first law called node before
      (earlier ++ [⟨.changed, update state⟩]) (second () (update state))) :
    Conforms environment first law called node before earlier
      ((Step.change update >>= second) state) where
  obeys := by
    rw [Step.moments_change_bind, Step.outcome_change_bind]
    have obeys := conforms.obeys
    rw [List.append_assoc] at obeys
    exact obeys
  continues := by
    rw [Step.outcome_change_bind]
    exact conforms.continues

end Conforms

/-- A run that passes through a single moment. -/
theorem conforms_single {moment : Moment} {value : Value} {next : State}
    (obeys : law called node state [moment] (.done () next))
    (continues : Continues environment first node state next) :
    Conforms environment first law called node state [] ⟨.done value next, .single moment⟩ where
  obeys := by
    rw [Trail.moments_single]
    exact obeys
  continues _ _ done := by
    cases done
    exact continues

section

variable (lawful : Lawful environment first law) (ready : Ready environment first node state)
include lawful ready

/-- A run that passes through nothing. -/
theorem conforms_silent {outcome : Outcome Value}
    (unchanged : ∀ last, outcome.last? = some last → last = state) :
    Conforms environment first law called node state [] ⟨outcome, .empty⟩ where
  obeys := by
    rw [Trail.moments_empty]
    exact lawful.silent ready fun last same => unchanged last (outcome.last?_ending ▸ same)
  continues value next done := by
    dsimp only at done
    rw [unchanged next (by rw [done]; rfl)]
    exact .refl ready

theorem conforms_pure (value : Value) :
    Conforms environment first law called node state [] ((pure value : Step Value) state) :=
  conforms_silent lawful ready fun _ same => (Option.some.inj same).symm

theorem conforms_abort (cause : FailureCause) :
    Conforms environment first law called node state []
      ((abort environment cause : Step Value) state) :=
  conforms_silent lawful ready fun _ same => (Option.some.inj same).symm

theorem conforms_exhausted :
    Conforms environment first law called node state []
      ((Step.exhausted : Step Value) state) :=
  conforms_silent lawful ready fun _ absurd => nomatch absurd

theorem conforms_change {update : State → State}
    (slight : Slight environment first node state (update state)) :
    Conforms environment first law called node state [] (Step.change update state) :=
  conforms_single
    (lawful.slight ready slight fun _ _ absurd => nomatch absurd) slight.toContinues

theorem conforms_sprout {update : State → State}
    (sprouting : Sprouting environment first node state (update state)) :
    Conforms environment first law called node state [] (Step.change update state) :=
  conforms_single (lawful.sprout ready sprouting) sprouting.toContinues

theorem conforms_note {happening : Happening}
    (notAsked : ∀ parent name, happening ≠ .asked parent name) :
    Conforms environment first law called node state [] (Step.note happening state) :=
  conforms_single
    (lawful.slight ready ((Still.refl ready.toSound).slight ready rfl) notAsked) (.refl ready)

end

end Rulebook.Parse
