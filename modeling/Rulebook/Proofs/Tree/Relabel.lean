/-
This file puts other rules in the place of the rules of a tree. Nothing that is done to a tree
looks at what its nodes stand for, so it makes no difference whether rules are replaced before
a change or after it.
-/

import Rulebook.Proofs.Tree.Lineage

namespace Rulebook.Match

/-- Put another rule in the place of the rule that a node stands for. -/
def Origin.relabel (change : Rule → Rule) : Origin → Origin
  | .root => .root
  | .lambda name => .lambda name
  | .rule self => .rule (change self)

/-- The same node with another rule. -/
def Node.relabel (change : Rule → Rule) (node : Node) : Node :=
  { node with origin := node.origin.relabel change }

theorem Node.rule?_relabel (change : Rule → Rule) (node : Node) :
    (node.relabel change).rule? = node.rule?.map change := by
  cases node with
  | mk origin => cases origin <;> rfl

namespace Tree

variable {tree : Tree} {change : Rule → Rule}

/-- The same tree with other rules. -/
def relabel (change : Rule → Rule) (tree : Tree) : Tree :=
  ⟨tree.nodes.map (Node.relabel change)⟩

@[simp]
theorem size_relabel : (tree.relabel change).size = tree.size := by
  simp [relabel, size]

theorem node_relabel (id : Nat) :
    (tree.relabel change).node id = (tree.node id).relabel change := by
  rw [node, node, relabel, Array.getD_eq_getD_getElem?, Array.getElem?_map,
    Array.getD_eq_getD_getElem?]
  cases tree.nodes[id]? <;> rfl

@[simp]
theorem stop_relabel (id : Nat) : (tree.relabel change).stop id = tree.stop id := by
  rw [stop, node_relabel]
  rfl

theorem relabel_new : new.relabel change = new := by
  simp [new, relabel, Node.relabel, Origin.relabel]

theorem rule?_relabel (id : Nat) :
    ((tree.relabel change).node id).rule? = (tree.node id).rule?.map change := by
  rw [node_relabel, Node.rule?_relabel]

/-! ### Changes of the tree -/

/-- Whatever changes a node without a look at its rule may come before or after. -/
theorem relabel_update (update : Node → Node)
    (blind : ∀ node : Node, (update node).relabel change = update (node.relabel change))
    (id : Nat) : (tree.update id update).relabel change =
      (tree.relabel change).update id update := by
  rw [relabel, Tree.update, Tree.update, relabel]
  congr 1
  refine Array.ext (by simp) fun index left right => ?_
  simp only [Array.getElem_map, Array.getElem_modify]
  split <;> simp [blind]

theorem relabel_attach (parent : Nat) (origin : Origin) :
    (tree.attach parent origin).relabel change =
      (tree.relabel change).attach parent (origin.relabel change) := by
  have stop_eq : (tree.relabel change).stop parent = tree.stop parent := stop_relabel parent
  have size_eq : (tree.relabel change).size = tree.size := size_relabel
  rw [attach, relabel_update (Node.adopt tree.size) fun _ => rfl, attach, stop_eq, size_eq, relabel,
    relabel, Array.map_push]
  rfl

theorem lineageWithin_relabel (count id : Nat) :
    (tree.relabel change).lineageWithin count id = tree.lineageWithin count id := by
  induction count generalizing id with
  | zero => rfl
  | succ count inductionHypothesis =>
    have parent_eq : ((tree.relabel change).node id).parent = (tree.node id).parent := by
      rw [node_relabel]
      rfl
    rw [lineageWithin, lineageWithin, parent_eq]
    cases (tree.node id).parent with
    | none => rfl
    | some parent => exact congrArg (id :: ·) (inductionHypothesis parent)

@[simp]
theorem lineage_relabel (id : Nat) : (tree.relabel change).lineage id = tree.lineage id :=
  lineageWithin_relabel _ _

theorem relabel_updateLineage (update : Node → Node)
    (blind : ∀ node : Node, (update node).relabel change = update (node.relabel change))
    (id : Nat) : (tree.updateLineage id update).relabel change =
      (tree.relabel change).updateLineage id update := by
  rw [updateLineage, updateLineage, lineage_relabel]
  induction tree.lineage id generalizing tree with
  | nil => rfl
  | cons first rest inductionHypothesis =>
    rw [List.foldl_cons, List.foldl_cons, inductionHypothesis, relabel_update update blind]

theorem relabel_matchToken (id length : Nat) :
    (tree.matchToken id length).relabel change =
      (tree.relabel change).matchToken id length := by
  rw [matchToken, eat, relabel_updateLineage (Node.lengthen length) fun _ => rfl, markTerminal,
    relabel_update (fun node => { node with terminal := true }) fun _ => rfl]
  rfl

theorem relabel_hideLast (child : Nat) (node : Node) :
    (Node.hideLast child node).relabel change = Node.hideLast child (node.relabel change) := by
  unfold Node.hideLast
  show (if node.semantic.back? = some child then _ else _ : Node).relabel change =
    if node.semantic.back? = some child then _ else _
  split <;> rfl

theorem relabel_skipLast (parent : Nat) :
    (tree.skipLast parent).relabel change = (tree.relabel change).skipLast parent := by
  have latest : ((tree.relabel change).node parent).children =
      (tree.node parent).children := by
    rw [node_relabel]
    rfl
  rw [skipLast, skipLast, latest]
  cases (tree.node parent).children.back? with
  | none => rfl
  | some child =>
    dsimp only
    rw [relabel_update (Node.hideLast child) (relabel_hideLast child),
      relabel_update (fun node => { node with whitespace := true }) fun _ => rfl]

theorem relabel_discardLast (parent : Nat) :
    (tree.discardLast parent).relabel change = (tree.relabel change).discardLast parent := by
  have latest : ((tree.relabel change).node parent).children =
      (tree.node parent).children := by
    rw [node_relabel]
    rfl
  have relabel_truncate : ∀ (tree : Tree) (size : Nat),
      (tree.truncate size).relabel change = (tree.relabel change).truncate size := by
    intro tree size
    rw [truncate, truncate, relabel, relabel]
    simp [Array.shrink_eq_take]
  rw [discardLast, discardLast, latest]
  cases (tree.node parent).children.back? with
  | none => rfl
  | some child =>
    have consumed_eq : ((tree.relabel change).node child).consumed =
        (tree.node child).consumed := by
      rw [node_relabel]
      rfl
    dsimp only
    rw [relabel_truncate, uneat, relabel_updateLineage (Node.shorten _) fun _ => rfl,
      relabel_update (Node.disownLast child) fun node =>
        relabel_hideLast child { node with children := node.children.pop }, consumed_eq]
    rfl

end Tree

end Rulebook.Match
