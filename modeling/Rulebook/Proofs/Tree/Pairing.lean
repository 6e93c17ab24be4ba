/-
This file is about two trees that are the same but for the rules that their nodes stand for.
Which rule may stand in the place of which other is left open. Nothing that is done to a tree
looks at these rules, so two trees that are changed in the same way stay the same but for them.
-/

import Rulebook.Proofs.Tree.Relabel

namespace Rulebook.Match

/-! ### Nodes -/

/-- Two origins are the same, but there may be a rule in the place of a related one. -/
inductive Origin.Paired (kin : Rule → Rule → Prop) : Origin → Origin → Prop where
  | root : Paired kin .root .root
  | lambda (name : String) : Paired kin (.lambda name) (.lambda name)
  | rule {left right : Rule} (related : kin left right) : Paired kin (.rule left) (.rule right)

/-- Two nodes are the same but for their origins, which are paired. -/
structure Node.Paired (kin : Rule → Rule → Prop) (left right : Node) : Prop where
  origin : Origin.Paired kin left.origin right.origin
  right_eq : right = { left with origin := right.origin }

variable {kin : Rule → Rule → Prop}

namespace Node

variable {left right : Node}

/-- Paired nodes look the same to whatever does not look at the origin. -/
theorem Paired.view_eq {Value : Type} (paired : Node.Paired kin left right) (view : Node → Value)
    (blind : ∀ (node : Node) origin, view { node with origin } = view node) :
    view right = view left := by
  rw [paired.right_eq, blind]

/-- Paired nodes stay so if both are changed without a look at the origin. -/
theorem Paired.change (paired : Node.Paired kin left right) {update : Node → Node}
    (blind : ∀ (node : Node) origin, update { node with origin } = { update node with origin }) :
    Node.Paired kin (update left) (update right) := by
  have origin_eq : ∀ node : Node, (update node).origin = node.origin := by
    intro node
    have same : update node = { update node with origin := node.origin } := blind node node.origin
    rw [same]
  refine ⟨?_, ?_⟩
  · rw [origin_eq, origin_eq]
    exact paired.origin
  · rw [origin_eq, ← blind, ← paired.right_eq]

theorem Paired.rule? (paired : Node.Paired kin left right) :
    Option.Rel kin left.rule? right.rule? := by
  rw [Node.rule?, Node.rule?]
  have origins := paired.origin
  generalize left.origin = first, right.origin = second at origins
  cases origins with
  | root => exact .none
  | lambda name => exact .none
  | rule related => exact .some related

/-- If related rules become the same, then so do paired nodes. -/
theorem Paired.relabel_eq (paired : Node.Paired kin left right) {change : Rule → Rule}
    (same : ∀ first second, kin first second → change second = change first) :
    right.relabel change = left.relabel change := by
  have origin_eq : right.origin.relabel change = left.origin.relabel change := by
    have origins := paired.origin
    generalize left.origin = first, right.origin = second at origins
    cases origins with
    | root => rfl
    | lambda name => rfl
    | rule related => exact congrArg Origin.rule (same _ _ related)
  rw [Node.relabel, Node.relabel, origin_eq, paired.right_eq]

end Node

/-! ### Trees -/

namespace Tree

/-- Two trees are the same node by node, but for the origins. -/
structure Paired (kin : Rule → Rule → Prop) (left right : Tree) : Prop where
  size_eq : right.size = left.size
  nodes : ∀ id, Node.Paired kin (left.node id) (right.node id)

variable {left right : Tree}

theorem paired_new : Paired kin new new := by
  refine ⟨rfl, fun id => ?_⟩
  cases id <;> exact ⟨.root, rfl⟩

/-- Outside of two trees there is the same node. -/
theorem paired_default : Node.Paired kin default default :=
  ⟨.root, rfl⟩

namespace Paired

theorem stop_eq (paired : left.Paired kin right) (id : Nat) : right.stop id = left.stop id :=
  (paired.nodes id).view_eq (·.stop) fun _ _ => rfl

theorem children_eq (paired : left.Paired kin right) (id : Nat) :
    (right.node id).children = (left.node id).children :=
  (paired.nodes id).view_eq (·.children) fun _ _ => rfl

theorem consumed_eq (paired : left.Paired kin right) (id : Nat) :
    (right.node id).consumed = (left.node id).consumed :=
  (paired.nodes id).view_eq (·.consumed) fun _ _ => rfl

theorem parent_eq (paired : left.Paired kin right) (id : Nat) :
    (right.node id).parent = (left.node id).parent :=
  (paired.nodes id).view_eq (·.parent) fun _ _ => rfl

theorem rising (paired : left.Paired kin right) (rising : left.Rising) : right.Rising := by
  intro id parent found
  rw [paired.parent_eq] at found
  exact rising id parent found

theorem lineage_eq (paired : left.Paired kin right) (id : Nat) :
    right.lineage id = left.lineage id := by
  have within : ∀ count id, right.lineageWithin count id = left.lineageWithin count id := by
    intro count
    induction count with
    | zero => exact fun _ => rfl
    | succ count inductionHypothesis =>
      intro id
      rw [lineageWithin, lineageWithin, paired.parent_eq]
      cases (left.node id).parent with
      | none => rfl
      | some parent => exact congrArg (id :: ·) (inductionHypothesis parent)
  exact within (id + 1) id

/-! ### Changes of the tree -/

theorem update (paired : left.Paired kin right) {change : Node → Node}
    (blind : ∀ (node : Node) origin, change { node with origin } = { change node with origin })
    (id : Nat) : (left.update id change).Paired kin (right.update id change) := by
  refine ⟨by rw [size_update, size_update, paired.size_eq], fun other => ?_⟩
  by_cases same : other = id
  · subst same
    by_cases inside : other < left.size
    · rw [node_update_self inside, node_update_self (paired.size_eq ▸ inside)]
      exact (paired.nodes other).change blind
    · have outside : left.size ≤ other := Nat.le_of_not_lt inside
      rw [node_of_size_le (by rw [size_update]; exact outside),
        node_of_size_le (by rw [size_update, paired.size_eq]; exact outside)]
      exact paired_default
  · rw [node_update_other left same, node_update_other right same]
    exact paired.nodes other

theorem push (paired : left.Paired kin right) {node node' : Node}
    (new : Node.Paired kin node node') :
    Paired kin ⟨left.nodes.push node⟩ ⟨right.nodes.push node'⟩ := by
  have node_push : ∀ (tree : Tree) (node : Node) (id : Nat), (Tree.mk (tree.nodes.push node)).node
      id = if id = tree.size then node else tree.node id := by
    intro tree node id
    rw [Tree.node, Array.getD_eq_getD_getElem?, Array.getElem?_push]
    show (if id = tree.size then some node else tree.nodes[id]?).getD default = _
    split
    · rfl
    · rw [Tree.node, Array.getD_eq_getD_getElem?]
  refine ⟨?_, fun id => ?_⟩
  · rw [Tree.size, Array.size_push, Tree.size, Array.size_push]
    exact congrArg (· + 1) paired.size_eq
  · rw [node_push, node_push, paired.size_eq]
    split
    · exact new
    · exact paired.nodes id

theorem attach (paired : left.Paired kin right) (parent : Nat) {origin origin' : Origin}
    (origins : Origin.Paired kin origin origin') :
    (left.attach parent origin).Paired kin (right.attach parent origin') := by
  have new : Node.Paired kin
      { origin, parent := some parent, start := left.stop parent, stop := left.stop parent }
      { origin := origin', parent := some parent, start := left.stop parent,
        stop := left.stop parent } := ⟨origins, rfl⟩
  rw [Tree.attach, Tree.attach, paired.size_eq, paired.stop_eq]
  exact (paired.push new).update (fun _ _ => rfl) parent

theorem updateLineage (paired : left.Paired kin right) {change : Node → Node}
    (blind : ∀ (node : Node) origin, change { node with origin } = { change node with origin })
    (id : Nat) : (left.updateLineage id change).Paired kin (right.updateLineage id change) := by
  rw [Tree.updateLineage, Tree.updateLineage, paired.lineage_eq]
  induction left.lineage id generalizing left right with
  | nil => exact paired
  | cons first rest inductionHypothesis => exact inductionHypothesis (paired.update blind first)

theorem truncate (paired : left.Paired kin right) (size : Nat) :
    (left.truncate size).Paired kin (right.truncate size) := by
  have size_truncate : ∀ tree : Tree, (tree.truncate size).size = min size tree.size := by
    intro tree
    simp [Tree.truncate, Tree.size]
  refine ⟨by rw [size_truncate, size_truncate, paired.size_eq], fun id => ?_⟩
  by_cases below : id < size
  · rw [node_truncate below, node_truncate below]
    exact paired.nodes id
  · rw [node_of_size_le (by rw [size_truncate]; omega),
      node_of_size_le (by rw [size_truncate]; omega)]
    exact paired_default

theorem matchToken (paired : left.Paired kin right) (id length : Nat) :
    (left.matchToken id length).Paired kin (right.matchToken id length) :=
  (paired.update (fun _ _ => rfl) id).updateLineage (fun _ _ => rfl) id

/-- Hiding a child looks at the semantic children alone. -/
theorem hideLast_blind (child : Nat) (node : Node) (origin : Origin) :
    Node.hideLast child { node with origin } = { Node.hideLast child node with origin } := by
  unfold Node.hideLast
  dsimp only
  split <;> rfl

theorem skipLast (paired : left.Paired kin right) (parent : Nat) :
    (left.skipLast parent).Paired kin (right.skipLast parent) := by
  rw [Tree.skipLast, Tree.skipLast, paired.children_eq]
  cases (left.node parent).children.back? with
  | none => exact paired
  | some child =>
    exact (paired.update (fun _ _ => rfl) child).update (hideLast_blind child) parent

theorem discardLast (paired : left.Paired kin right) (parent : Nat) :
    (left.discardLast parent).Paired kin (right.discardLast parent) := by
  rw [Tree.discardLast, Tree.discardLast, paired.children_eq]
  cases (left.node parent).children.back? with
  | none => exact paired
  | some child =>
    dsimp only
    rw [paired.consumed_eq]
    refine ((paired.update (fun node origin => ?_) parent).updateLineage (fun _ _ => rfl)
      parent).truncate child
    exact hideLast_blind child { node with children := node.children.pop } origin

/-- If related rules become the same, then so do paired trees. -/
theorem relabel_eq (paired : left.Paired kin right) {change : Rule → Rule}
    (same : ∀ first second, kin first second → change second = change first) :
    right.relabel change = left.relabel change := by
  refine ext_node (by rw [size_relabel, size_relabel, paired.size_eq]) fun id _ => ?_
  rw [node_relabel, node_relabel]
  exact (paired.nodes id).relabel_eq same

end Paired

end Tree

end Rulebook.Match
