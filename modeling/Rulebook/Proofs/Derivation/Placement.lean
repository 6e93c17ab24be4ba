/-
This file says all that decides how a parse goes on at a node: the grammar, the offset at which
the node ends, and the rules on the way up to the root, each with the offset at which it
started. An operator that looks for itself above finds it by these rules and offsets alone, since
all nodes at the right edge of a tree end at the same place.
-/

import Rulebook.Proofs.Derivation.Reading
import Rulebook.Proofs.Parse.Height
import Rulebook.Proofs.Recognition.Following

namespace Rulebook

namespace Grammar.Chain

/-- An operator is already being matched by one of the rules of a chain, with no input taken
since, at an offset that has been reached. -/
def repeats (rule : Rule) (offset : Nat) : Grammar.Chain → Bool
  | [] => false
  | (other, start) :: rest =>
    if !Parse.isTransparent other.kind && start < offset then false
    else if other.same rule then true
    else repeats rule offset rest

end Grammar.Chain

namespace Parse

open Match (Origin Tree)
open Recognition (afterBlanks)

variable {chars : List Char} {tree : Tree} {environment : Environment} {grammar : Grammar}
  {chain : Grammar.Chain} {offset node parent id : Nat} {state after : State} {rule : Rule}
  {name : String}

/-! ### Chains of rules -/

/-- The search for an operator goes by the chain of rules and by the offset. -/
theorem isRepeating_lineage (intact : tree.Intact chars) (isOpen : tree.Open node)
    (rooted : tree.Rooted node) (member : id ∈ tree.lineage node) (rule : Rule) :
    isRepeating tree rule (tree.lineage id) = (tree.chain id).repeats rule (tree.stop node) := by
  have stop_eq : ∀ id ∈ tree.lineage node, tree.stop id = tree.stop node :=
    fun id member => intact.stop_of_mem_lineage isOpen member
  have start_le : ∀ id ∈ tree.lineage node, (tree.node id).start ≤ tree.stop id :=
    fun id member => (intact.spans id
      (Tree.lt_of_mem_lineage intact.rising isOpen.inside member)).2.2
  have taken : ∀ id ∈ tree.lineage node, decide (0 < (tree.node id).consumed) =
      decide ((tree.node id).start < tree.stop node) := by
    intro id member
    rw [← stop_eq id member, Match.Node.consumed, Tree.stop]
    exact decide_eq_decide.mpr Nat.sub_pos_iff_lt
  induction id using Tree.lineage_induction intact.rising with
  | top id found =>
    rw [Tree.chain, Tree.lineage_of_no_parent found]
    cases isRule : (tree.node id).rule? with
    | none => simp [isRepeating, isRule, Grammar.Chain.repeats]
    | some other =>
      simp only [isRepeating, isRule, taken id member, Grammar.Chain.repeats, List.filterMap_cons,
        Option.map_some, List.filterMap_nil]
  | below id above found inductionHypothesis =>
    have higher := inductionHypothesis (Tree.parent_mem_lineage intact.rising member found)
    rw [Tree.chain] at higher
    cases isRule : (tree.node id).rule? with
    | none =>
      rw [rooted id member isRule] at found
      cases found
    | some other =>
      simp only [Tree.chain, Tree.lineage_of_parent intact.rising found, isRepeating, isRule,
        taken id member, Grammar.Chain.repeats, List.filterMap_cons, Option.map_some, higher]

/-! ### Placed work -/

/-- The stack of rules may become as high as this. -/
def Room (environment : Environment) (grammar : Grammar) (height : Nat) : Prop :=
  ∀ limit, (grammar.depthLimit <|> environment.options.maxDepth) = some limit → height ≤ limit

theorem Room.mono {height less : Nat} (room : Room environment grammar height)
    (le : less ≤ height) : Room environment grammar less :=
  fun limit known => Nat.le_trans le (room limit known)

/-- Work goes on at a node, with known rules on the way up to the root. -/
structure Located (environment : Environment) (grammar : Grammar) (chain : Grammar.Chain)
    (offset node : Nat) (state : State) : Prop
    extends Situated environment grammar grammar node offset state where
  rooted : state.tree.Rooted node
  chain_eq : state.tree.chain node = chain

/-- Work goes on at a node for which no rule has been called yet. -/
structure Placed (environment : Environment) (grammar : Grammar) (chain : Grammar.Chain)
    (offset node : Nat) (state : State) : Prop
    extends Located environment grammar chain offset node state where
  height_le : state.stack.length ≤ chain.length

/-- A node has been attached for a rule, and nothing has been done there. -/
structure Begun (environment : Environment) (grammar : Grammar) (above : Grammar.Chain)
    (offset : Nat) (rule : Rule) (node : Nat) (state : State) : Prop
    extends Placed environment grammar ((rule, offset) :: above) offset node state where
  isRule : (state.tree.node node).origin = .rule rule
  start_eq : (state.tree.node node).start = offset
  childless : (state.tree.node node).children = #[]
  partless : (state.tree.node node).semantic = #[]
  /-- Rules that are being matched above are found by the chain. -/
  repeating_eq : isRepeating state.tree rule (state.tree.lineage node).tail =
    above.repeats rule offset

theorem Located.still (here : Located environment grammar chain offset node state)
    (still : Still environment grammar state after) :
    Located environment grammar chain offset node after where
  toSituated := here.toSituated.still still
  rooted := by
    rw [still.tree_eq]
    exact here.rooted
  chain_eq := by rw [still.tree_eq, here.chain_eq]

theorem Placed.still (here : Placed environment grammar chain offset node state)
    (still : Still environment grammar state after) :
    Placed environment grammar chain offset node after where
  toLocated := here.toLocated.still still
  height_le := by
    rw [still.height_eq]
    exact here.height_le

theorem Placed.working (here : Placed environment grammar chain offset node state)
    (working : Working environment grammar node state after) {stop : Nat}
    (stop_eq : after.tree.stop node = stop) :
    Placed environment grammar chain stop node after where
  toSituated := here.toSituated.working working stop_eq
  rooted := working.grown.sameOutline.rooted here.tree.rising here.isOpen.inside here.rooted
  chain_eq := by
    rw [working.grown.sameOutline.chain_eq here.tree.rising here.isOpen.inside, here.chain_eq]
  height_le := by
    rw [working.height_eq]
    exact here.height_le

/-- A name is put on the stack. -/
theorem Placed.entered (here : Placed environment grammar chain offset parent state)
    (name : String) (rule : Rule) :
    Located environment grammar chain offset parent (state.entered parent name rule) ∧
      (state.entered parent name rule).stack.length ≤ chain.length + 1 :=
  ⟨⟨⟨here.toReady.entered name rule, here.grammar_eq, here.stop_eq⟩, here.rooted,
    here.chain_eq⟩, Nat.succ_le_succ here.height_le⟩

/-- A node is attached for the rule whose name is on the stack. -/
theorem Located.begun (here : Located environment grammar chain offset parent state)
    (low : state.stack.length ≤ chain.length + 1) (rule : Rule) :
    Begun environment grammar chain offset rule state.tree.size (state.attached parent rule) := by
  have ready : Ready environment grammar state.tree.size (state.attached parent rule) :=
    ready_attach here.toReady (.rule rule)
  have sprouted := sprouted_attached here.toReady rule
  have rooted := rooted_attached here.toReady here.rooted rule
  have new : (state.attached parent rule).tree.node state.tree.size = _ :=
    Tree.node_attach_new here.isOpen.inside (.rule rule)
  have stop_eq : (state.attached parent rule).tree.stop state.tree.size = offset :=
    (Tree.stop_attach_new here.isOpen.inside).trans here.stop_eq
  have lineage_eq := lineage_attached here.toReady rule
  have lineageAbove := sprouted.lineage_eq here.tree.rising here.isOpen.inside
  have chainAbove := sprouted.chain_eq here.tree.rising here.isOpen.inside
  have member : parent ∈ (state.attached parent rule).tree.lineage state.tree.size := by
    rw [lineage_eq]
    exact List.mem_cons_of_mem _ (Tree.mem_lineage_self _ _)
  refine ⟨⟨⟨⟨ready, here.grammar_eq, stop_eq⟩, rooted, ?_⟩, low⟩, ?_, ?_, ?_, ?_, ?_⟩
  · rw [chain_attached here.toReady, here.chain_eq, here.stop_eq]
  · rw [new]
  · rw [new]
    exact here.stop_eq
  · rw [new]
  · rw [new]
  · rw [lineage_eq, List.tail_cons, ← lineageAbove,
      isRepeating_lineage ready.tree ready.isOpen rooted member, chainAbove, here.chain_eq, stop_eq]

end Parse

end Rulebook
