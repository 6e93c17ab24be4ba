/-
This file is about the outline of a match tree: the parent of each node, where the node starts
and what it stands for. These are settled when a node is attached and stay as they are until it
is detached, whatever happens at the node in the meantime. So a tree either sprouts, when one
node is attached, or it is pruned: nodes may be detached, and those that are left keep their
outline.
-/

import Rulebook.Proofs.Grammar.References
import Rulebook.Proofs.Tree.Upkeep

namespace Rulebook.Match.Tree

variable {chars : List Char} {node parent id : Nat} {before middle after tree : Tree}
  {origin : Origin}

/-- The outlines of two trees agree below an index. -/
structure SameOutline (size : Nat) (before after : Tree) : Prop where
  parent_eq : ∀ id < size, (after.node id).parent = (before.node id).parent
  start_eq : ∀ id < size, (after.node id).start = (before.node id).start
  origin_eq : ∀ id < size, (after.node id).origin = (before.node id).origin

/-- Nodes may have been detached. What is left has kept its outline. -/
structure Pruned (before after : Tree) : Prop extends SameOutline after.size before after where
  size_le : after.size ≤ before.size

/-- A node has been attached. All others have kept their outline. -/
structure Sprouted (parent : Nat) (origin : Origin) (before after : Tree) : Prop
    extends SameOutline before.size before after where
  size_eq : after.size = before.size + 1
  new_parent : (after.node before.size).parent = some parent
  new_start : (after.node before.size).start = before.stop parent
  new_origin : (after.node before.size).origin = origin

theorem SameOutline.rule?_eq {size : Nat} (same : SameOutline size before after)
    (inside : id < size) : (after.node id).rule? = (before.node id).rule? := by
  rw [Node.rule?, Node.rule?, same.origin_eq id inside]

theorem SameOutline.trans {size : Nat} (left : SameOutline size before middle)
    (right : SameOutline size middle after) : SameOutline size before after where
  parent_eq id inside := (right.parent_eq id inside).trans (left.parent_eq id inside)
  start_eq id inside := (right.start_eq id inside).trans (left.start_eq id inside)
  origin_eq id inside := (right.origin_eq id inside).trans (left.origin_eq id inside)

theorem SameOutline.mono {size fewer : Nat} (same : SameOutline size before after)
    (le : fewer ≤ size) : SameOutline fewer before after where
  parent_eq id inside := same.parent_eq id (Nat.lt_of_lt_of_le inside le)
  start_eq id inside := same.start_eq id (Nat.lt_of_lt_of_le inside le)
  origin_eq id inside := same.origin_eq id (Nat.lt_of_lt_of_le inside le)

/-- Lineages are part of the outline. -/
theorem SameOutline.lineage_eq {size : Nat} (same : SameOutline size before after)
    (rising : before.Rising) (inside : id < size) : after.lineage id = before.lineage id :=
  lineage_congr rising id fun other le =>
    same.parent_eq other (Nat.lt_of_le_of_lt le inside)

theorem Grown.sameOutline (grown : Grown node before after) :
    SameOutline before.size before after where
  parent_eq _ inside := grown.parent_eq inside
  start_eq _ inside := (grown.start_eq inside).1
  origin_eq _ inside := (grown.start_eq inside).2.1

/-- The ancestors of a node are among the nodes below it in index. -/
theorem lt_of_mem_lineage {size other : Nat} (rising : tree.Rising) (inside : id < size)
    (member : other ∈ tree.lineage id) : other < size :=
  Nat.lt_of_le_of_lt (le_of_mem_lineage rising member) inside

/-! ### Where nodes start -/

/-- Only the root of a lineage stands for no rule. -/
def Rooted (tree : Tree) (node : Nat) : Prop :=
  ∀ id ∈ tree.lineage node, (tree.node id).rule? = none → (tree.node id).parent = none

/-- An operator starts further on than the same operator above it. -/
def Guarded (tree : Tree) (id : Nat) : Prop :=
  ∀ rule, (tree.node id).rule? = some rule → rule.isOperator = true →
    ∀ above ∈ (tree.lineage id).tail, ∀ other, (tree.node above).rule? = some other →
      other.same rule = true → (tree.node above).start < (tree.node id).start

/-- All operators are guarded. -/
def Ordered (tree : Tree) : Prop :=
  ∀ id < tree.size, tree.Guarded id

theorem SameOutline.rooted {size : Nat} (same : SameOutline size before after)
    (rising : before.Rising) (inside : id < size) (rooted : before.Rooted id) :
    after.Rooted id := by
  intro other member none
  rw [same.lineage_eq rising inside] at member
  have bound := lt_of_mem_lineage rising inside member
  rw [same.rule?_eq bound] at none
  rw [same.parent_eq other bound]
  exact rooted other member none

theorem SameOutline.guarded {size : Nat} (same : SameOutline size before after)
    (rising : before.Rising) (inside : id < size) (guarded : before.Guarded id) :
    after.Guarded id := by
  intro rule found isOperator above member other foundAbove isSame
  rw [same.lineage_eq rising inside] at member
  have bound := lt_of_mem_lineage rising inside (List.mem_of_mem_tail member)
  rw [same.rule?_eq inside] at found
  rw [same.rule?_eq bound] at foundAbove
  rw [same.start_eq above bound, same.start_eq id inside]
  exact guarded rule found isOperator above member other foundAbove isSame

theorem tiles_le {nodes : List Nat} {start stop : Nat}
    (spans : ∀ id ∈ nodes, (tree.node id).start ≤ tree.stop id)
    (tiles : tree.Tiles start nodes stop) : start ≤ stop := by
  induction nodes generalizing start with
  | nil => exact Nat.le_of_eq tiles
  | cons child rest inductionHypothesis =>
    obtain ⟨start_eq, later⟩ := tiles
    have here := spans child List.mem_cons_self
    have there := inductionHypothesis
      (fun id member => spans id (List.mem_cons_of_mem _ member)) later
    omega

/-- At the right edge of a tree, no node starts before its parent. -/
theorem Intact.start_le_of_parent (intact : tree.Intact chars) (isOpen : tree.Open node)
    (member : id ∈ tree.lineage node) (found : (tree.node id).parent = some parent) :
    (tree.node parent).start ≤ (tree.node id).start := by
  have latest := isOpen.latest id member parent found
  have inside : parent < tree.size :=
    Nat.lt_trans (intact.rising id parent found)
      (lt_of_mem_lineage intact.rising isOpen.inside member)
  have unmatched : (tree.node parent).terminal = false := by
    cases matched : (tree.node parent).terminal with
    | false => rfl
    | true =>
      rw [(intact.terminal parent matched).1] at latest
      cases latest
  have filled := intact.filled parent inside unmatched
  rw [← Array.getLast?_toList] at latest
  obtain ⟨earlier, equal⟩ := List.getLast?_eq_some_iff.mp latest
  rw [equal, tiles_append] at filled
  obtain ⟨middle, tiles, starts, -⟩ := filled
  rw [starts]
  refine tiles_le (fun child early => ?_) tiles
  have listed : child ∈ (tree.node parent).children := by
    rw [← Array.mem_toList_iff, equal]
    exact List.mem_append_left _ early
  exact (intact.spans child (intact.ordered parent child listed).1).2.2

/-- At the right edge of a tree, no node starts before its ancestors. -/
theorem Intact.start_le_of_mem_lineage (intact : tree.Intact chars) (isOpen : tree.Open node)
    {other : Nat} (member : id ∈ tree.lineage node) (above : other ∈ tree.lineage id) :
    (tree.node other).start ≤ (tree.node id).start := by
  induction id using lineage_induction intact.rising with
  | top id found =>
    rw [lineage_of_no_parent found, List.mem_singleton] at above
    rw [above]
  | below id parent found inductionHypothesis =>
    rw [lineage_of_parent intact.rising found] at above
    rcases List.mem_cons.mp above with same | higher
    · rw [same]
    · exact (inductionHypothesis (parent_mem_lineage intact.rising member found) higher).trans
        (intact.start_le_of_parent isOpen member found)

/-! ### Pruning -/

theorem pruned_refl (tree : Tree) : Pruned tree tree :=
  ⟨⟨fun _ _ => rfl, fun _ _ => rfl, fun _ _ => rfl⟩, Nat.le_refl _⟩

theorem pruned_matchToken (rising : tree.Rising) (inside : node < tree.size) (length : Nat) :
    Pruned tree (tree.matchToken node length) where
  toSameOutline := by
    rw [size_matchToken]
    exact (grown_matchToken rising inside length).sameOutline
  size_le := Nat.le_of_eq (size_matchToken _ _ _)

theorem pruned_skipLast (intact : tree.Intact chars) (parent : Nat) :
    Pruned tree (tree.skipLast parent) := by
  cases latest : (tree.node parent).children.back? with
  | none =>
    have same : tree.skipLast parent = tree := by simp [skipLast, latest]
    rw [same]
    exact pruned_refl tree
  | some child =>
    have links := links_skipLast intact latest
    exact ⟨⟨fun id _ => (links id).1, fun id _ => (links id).2.2.1,
      fun id _ => (links id).2.2.2.2.2⟩, Nat.le_of_eq (size_skipLast _ _)⟩

/-- A tree from which a child has been detached is the tree to which the child was attached. -/
theorem Grown.pruned_discardLast (rising : before.Rising) (inside : parent < before.size)
    (grown : Grown before.size (before.attach parent origin) after) :
    Pruned after (after.discardLast parent) := by
  have above := (grown.of_child rising inside).sameOutline
  rw [grown.discardLast_eq rising inside]
  refine ⟨⟨fun id old => (above.parent_eq id old).symm,
    fun id old => (above.start_eq id old).symm, fun id old => (above.origin_eq id old).symm⟩, ?_⟩
  have le := grown.size_le
  rw [size_attach] at le
  exact Nat.le_of_succ_le le

/-! ### Sprouting -/

theorem sprouted_attach (rising : before.Rising) (inside : parent < before.size)
    (origin : Origin) : Sprouted parent origin before (before.attach parent origin) where
  toSameOutline := (grown_attach rising inside).sameOutline
  size_eq := size_attach _ _ _
  new_parent := by rw [node_attach_new inside]
  new_start := by rw [node_attach_new inside]
  new_origin := by rw [node_attach_new inside]

/-- A node that has just been attached may take input at once. -/
theorem Sprouted.pruned (sprouted : Sprouted parent origin before middle)
    (pruned : Pruned middle after) (size_eq : after.size = middle.size) :
    Sprouted parent origin before after := by
  have old : ∀ id < before.size, id < after.size := by
    intro id inside
    rw [size_eq, sprouted.size_eq]
    exact Nat.lt_succ_of_lt inside
  have new : before.size < after.size := by
    rw [size_eq, sprouted.size_eq]
    exact Nat.lt_succ_self _
  refine ⟨⟨fun id inside => ?_, fun id inside => ?_, fun id inside => ?_⟩, ?_, ?_, ?_, ?_⟩
  · rw [pruned.parent_eq id (old id inside), sprouted.parent_eq id inside]
  · rw [pruned.start_eq id (old id inside), sprouted.start_eq id inside]
  · rw [pruned.origin_eq id (old id inside), sprouted.origin_eq id inside]
  · rw [size_eq, sprouted.size_eq]
  · rw [pruned.parent_eq _ new, sprouted.new_parent]
  · rw [pruned.start_eq _ new, sprouted.new_start]
  · rw [pruned.origin_eq _ new, sprouted.new_origin]

theorem sprouted_attach_matchToken (rising : before.Rising) (inside : parent < before.size)
    (origin : Origin) (length : Nat) : Sprouted parent origin before
      ((before.attach parent origin).matchToken before.size length) := by
  have attached : before.size < (before.attach parent origin).size := by
    rw [size_attach]
    exact Nat.lt_succ_self _
  exact (sprouted_attach rising inside origin).pruned
    (pruned_matchToken (rising_attach rising inside) attached length) (size_matchToken _ _ _)

end Rulebook.Match.Tree
