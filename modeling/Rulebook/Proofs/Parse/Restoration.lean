/-
This file shows that a failed attempt leaves no trace. Whatever the rule, and however much has
matched inside the attempt before it failed, the tree afterwards is the tree before it, node
by node. It holds for asking for a rule by name, for trying a rule with the memo in front of
it, and for trying it without.

What makes it true is that attempts are made at open nodes only, so that whatever an attempt
adds to the tree comes after everything else.
-/

import Rulebook.Proofs.Grammar.Provenance
import Rulebook.Proofs.Parse.Conduct
import Rulebook.Workspace

namespace Rulebook.Parse

open Match (Tree)

variable {environment : Environment} {first : Grammar} {state after : State} {parent : Nat}

theorem tree_eq_of_consume (faithful : environment.source.Faithful)
    (ready : Ready environment first parent state) {fuel : Nat} {name : String}
    (failed : (consume environment fuel parent name state).outcome = .done false after) :
    after.tree = state.tree :=
  ((reliable_consume faithful (excuses_always environment first) fuel parent name state
    ready).returns false after failed).restored rfl

theorem tree_eq_of_attemptMemoized (faithful : environment.source.Faithful)
    (ready : Ready environment first parent state) {rule : Rule}
    (known : Known environment first rule) {fuel budget : Nat}
    (failed : (attemptMemoized rule parent (attemptWith rule parent
      (perform environment (consume environment fuel) budget rule)) state).outcome =
        .done false after) :
    after.tree = state.tree := by
  have tries := tries_perform faithful
    (reliable_consume faithful (excuses_always environment first) fuel) state.grammar budget
    rule parent fun _ => .inl trivial
  exact ((meets_attemptMemoized faithful ready known tries).returns false after failed).restored
    rfl

theorem tree_eq_of_attemptWith (faithful : environment.source.Faithful)
    (ready : Ready environment first parent state) {rule : Rule} {fuel budget : Nat}
    (failed : (attemptWith rule parent
      (perform environment (consume environment fuel) budget rule) state).outcome =
        .done false after) :
    after.tree = state.tree := by
  have tries := tries_perform faithful
    (reliable_consume faithful (excuses_always environment first) fuel) state.grammar budget
    rule parent fun _ => .inl trivial
  exact ((tries.meets state ready rfl).returns false after failed).restored rfl

/-- In every state that a parse reaches, an attempt at an open node that does not match leaves
the tree as it was: the same nodes, and each of them the same. A parse makes all its attempts
at open nodes. -/
theorem failed_attempts_leave_no_trace (input : String) (registry : Registry)
    (options : ParseOptions) (tracing : Bool) (first : Grammar) (start : String) :
    let environment := Environment.ofText input registry options tracing
    (∀ state parent, Reachable environment first start state → state.tree.Open parent →
      ∀ fuel after,
        (∀ name, (consume environment fuel parent name state).outcome = .done false after →
          after.tree = state.tree) ∧
        ∀ rule, Known environment first rule → ∀ budget,
          let attempt := attemptWith rule parent
            (perform environment (consume environment fuel) budget rule)
          ((attemptMemoized rule parent attempt state).outcome = .done false after →
            after.tree = state.tree) ∧
          ((attempt state).outcome = .done false after → after.tree = state.tree)) ∧
    ∀ moment, Passes environment first start moment →
      ∀ parent, moment.happening.parent? = some parent → moment.state.tree.Open parent := by
  have faithful := Environment.faithful_ofText input registry options tracing
  refine ⟨fun state parent reached isOpen fuel after => ?_, fun moment passes => ?_⟩
  · have ready : Ready _ first parent state := ⟨reached.sound faithful, isOpen⟩
    refine ⟨fun name => tree_eq_of_consume faithful ready, fun rule known budget => ⟨?_, ?_⟩⟩
    · exact tree_eq_of_attemptMemoized faithful ready known
    · exact tree_eq_of_attemptWith faithful ready
  · exact (passes.proper faithful).isOpen

/-- Two tokens, one after the other. -/
def pair : Grammar :=
  .ofCalls Workspace.compile "g" [.token "x" "x" false, .token "y" "y" false,
    .sequence "pair" [{ rule := "x" }, { rule := "y" }]]

/-- The first half of a pair matches and the second does not. -/
theorem failed_pair_leaves_no_trace :
    ∃ after, (consume (Environment.ofText "xx" {} {} false) 3 Tree.root "pair"
        (State.initial pair {})).outcome = .done false after ∧
      after.tree = (State.initial pair {}).tree := by
  obtain ⟨after, failed⟩ : ∃ after, (consume (Environment.ofText "xx" {} {} false) 3 Tree.root
      "pair" (State.initial pair {})).outcome = .done false after := ⟨_, rfl⟩
  have general := failed_attempts_leave_no_trace "xx" {} {} false pair "pair"
  exact ⟨after, failed, (general.1 _ _ (.inl rfl) Tree.open_new 3 after).1 "pair" failed⟩

end Rulebook.Parse
