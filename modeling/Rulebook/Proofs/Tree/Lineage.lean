/-
This file says what the operations of a match tree do to each of its nodes. Taking and giving
back input reach exactly the lineage of a node: the node itself and its ancestors. The
lineage is well behaved as soon as every parent has a smaller index than its child, which is
what it means for a tree to rise.
-/

import Mathlib.Data.List.Nodup
import Rulebook.Match.Tree

namespace Rulebook.Match.Tree

/-! ### Single nodes -/

theorem node_of_size_le {tree : Tree} {id : Nat} (outside : tree.size ≤ id) :
    tree.node id = default := by
  rw [node, Array.getD_eq_getD_getElem?, Array.getElem?_eq_none outside]
  rfl

theorem parent_of_size_le {tree : Tree} {id : Nat} (outside : tree.size ≤ id) :
    (tree.node id).parent = none := by
  rw [node_of_size_le outside]
  rfl

theorem ext_node {first second : Tree} (size_eq : first.size = second.size)
    (same : ∀ id < first.size, first.node id = second.node id) : first = second := by
  obtain ⟨left⟩ := first
  obtain ⟨right⟩ := second
  refine congrArg mk (Array.ext size_eq fun index leftBound rightBound => ?_)
  have equal := same index leftBound
  simpa [node, Array.getD_eq_getD_getElem?, leftBound, rightBound] using equal

@[simp]
theorem size_update (tree : Tree) (id : Nat) (change : Node → Node) :
    (tree.update id change).size = tree.size := by
  simp [update, size]

theorem node_update (tree : Tree) (id other : Nat) (change : Node → Node)
    (inside : id < tree.size) :
    (tree.update id change).node other =
      if other = id then change (tree.node other) else tree.node other := by
  by_cases same : other = id
  · subst same
    have bound : other < tree.nodes.size := inside
    simp [node, update, Array.getD_eq_getD_getElem?, bound, Array.getElem_modify]
  · rw [if_neg same]
    simp [node, update, Array.getD_eq_getD_getElem?, Array.getElem?_modify, Ne.symm same]

theorem node_update_self {tree : Tree} {id : Nat} (inside : id < tree.size)
    (change : Node → Node) : (tree.update id change).node id = change (tree.node id) := by
  rw [node_update _ _ _ _ inside, if_pos rfl]

theorem node_update_other (tree : Tree) {id other : Nat} (distinct : other ≠ id)
    (change : Node → Node) : (tree.update id change).node other = tree.node other := by
  simp [node, update, Array.getD_eq_getD_getElem?, Array.getElem?_modify, Ne.symm distinct]

@[simp]
theorem size_attach (tree : Tree) (parent : Nat) (origin : Origin) :
    (tree.attach parent origin).size = tree.size + 1 := by
  simp [attach, size, update]

/-- The node that is attached. -/
theorem node_attach_new {tree : Tree} {parent : Nat} (inside : parent < tree.size)
    (origin : Origin) : (tree.attach parent origin).node tree.size =
      { origin, parent := some parent, start := tree.stop parent, stop := tree.stop parent } := by
  rw [attach, node_update_other _ (Nat.ne_of_gt inside)]
  simp [node, size, Array.getD_eq_getD_getElem?]

/-- The node to which it is attached. -/
theorem node_attach_parent {tree : Tree} {parent : Nat} (inside : parent < tree.size)
    (origin : Origin) : (tree.attach parent origin).node parent =
      (tree.node parent).adopt tree.size := by
  have bound : parent < tree.nodes.size := inside
  rw [attach, node_update_self (by simp [size]; omega)]
  simp [node, Array.getD_eq_getD_getElem?, Array.getElem?_push, Nat.ne_of_lt bound]

/-- All other nodes stay as they are. -/
theorem node_attach_other {tree : Tree} {parent id : Nat} (notParent : id ≠ parent)
    (notNew : id ≠ tree.size) (origin : Origin) :
    (tree.attach parent origin).node id = tree.node id := by
  rw [attach, node_update_other _ notParent]
  have distinct : id ≠ tree.nodes.size := notNew
  simp [node, Array.getD_eq_getD_getElem?, Array.getElem?_push, distinct]

/-- Attaching leaves the parents of all earlier nodes as they are. -/
theorem parent_attach {tree : Tree} {parent id : Nat} (inside : parent < tree.size)
    (notNew : id ≠ tree.size) (origin : Origin) :
    ((tree.attach parent origin).node id).parent = (tree.node id).parent := by
  by_cases same : id = parent
  · rw [same, node_attach_parent inside]
    rfl
  · rw [node_attach_other same notNew]

/-- A tree is determined below an index by the nodes below it. -/
theorem node_truncate {tree : Tree} {size id : Nat} (below : id < size) :
    (tree.truncate size).node id = tree.node id := by
  have same : (tree.nodes.shrink size)[id]? = tree.nodes[id]? := by
    rw [Array.shrink_eq_take, Array.getElem?_extract]
    split
    · simp
    · rename_i outside
      rw [Array.getElem?_eq_none]
      omega
  rw [node, node, truncate, Array.getD_eq_getD_getElem?, Array.getD_eq_getD_getElem?, same]

theorem size_truncate {tree : Tree} {size : Nat} (le : size ≤ tree.size) :
    (tree.truncate size).size = size := by
  have bound : size ≤ tree.nodes.size := le
  simp [truncate, Tree.size, bound]

/-! ### The lineage of a node -/

/-- Every parent has a smaller index than its child. -/
def Rising (tree : Tree) : Prop :=
  ∀ id parent, (tree.node id).parent = some parent → parent < id

/-- More steps than the index of the node has make no difference. -/
theorem lineageWithin_eq {tree : Tree} (rising : tree.Rising) {id count : Nat}
    (enough : id < count) : tree.lineageWithin count id = tree.lineage id := by
  induction id using Nat.strongRecOn generalizing count with
  | ind id inductionHypothesis =>
    obtain ⟨count, rfl⟩ : ∃ fewer, count = fewer + 1 := ⟨count - 1, by omega⟩
    rw [lineage, lineageWithin, lineageWithin]
    cases found : (tree.node id).parent with
    | none => rfl
    | some parent =>
      have smaller := rising id parent found
      simp only
      rw [inductionHypothesis parent smaller (by omega),
        inductionHypothesis parent smaller smaller]

theorem lineage_of_parent {tree : Tree} (rising : tree.Rising) {id parent : Nat}
    (found : (tree.node id).parent = some parent) :
    tree.lineage id = id :: tree.lineage parent := by
  rw [lineage, lineageWithin, found]
  simp only
  rw [lineageWithin_eq rising (rising id parent found)]

theorem lineage_of_no_parent {tree : Tree} {id : Nat}
    (found : (tree.node id).parent = none) : tree.lineage id = [id] := by
  rw [lineage, lineageWithin, found]

theorem mem_lineage_self (tree : Tree) (id : Nat) : id ∈ tree.lineage id := by
  rw [lineage, lineageWithin]
  exact List.mem_cons_self

/-- Induction along a lineage, from the root downwards. -/
theorem lineage_induction {tree : Tree} (rising : tree.Rising) {property : Nat → Prop}
    (top : ∀ id, (tree.node id).parent = none → property id)
    (below : ∀ id parent, (tree.node id).parent = some parent → property parent → property id)
    (id : Nat) : property id := by
  induction id using Nat.strongRecOn with
  | ind id inductionHypothesis =>
    cases found : (tree.node id).parent with
    | none => exact top id found
    | some parent => exact below id parent found (inductionHypothesis parent (rising _ _ found))

theorem le_of_mem_lineage {tree : Tree} (rising : tree.Rising) {id other : Nat}
    (member : other ∈ tree.lineage id) : other ≤ id := by
  induction id using lineage_induction rising with
  | top id found =>
    rw [lineage_of_no_parent found, List.mem_singleton] at member
    exact Nat.le_of_eq member
  | below id parent found inductionHypothesis =>
    rw [lineage_of_parent rising found, List.mem_cons] at member
    rcases member with same | above
    · exact Nat.le_of_eq same
    · exact Nat.le_trans (inductionHypothesis above) (Nat.le_of_lt (rising id parent found))

theorem nodup_lineage {tree : Tree} (rising : tree.Rising) (id : Nat) :
    (tree.lineage id).Nodup := by
  induction id using lineage_induction rising with
  | top id found =>
    rw [lineage_of_no_parent found]
    exact List.nodup_singleton id
  | below id parent found inductionHypothesis =>
    rw [lineage_of_parent rising found]
    refine List.nodup_cons.mpr ⟨fun member => ?_, inductionHypothesis⟩
    have le := le_of_mem_lineage rising member
    have lt := rising id parent found
    omega

/-- With a node, its parent is in a lineage. -/
theorem parent_mem_lineage {tree : Tree} (rising : tree.Rising) {id other parent : Nat}
    (member : other ∈ tree.lineage id) (found : (tree.node other).parent = some parent) :
    parent ∈ tree.lineage id := by
  induction id using lineage_induction rising with
  | top id noParent =>
    rw [lineage_of_no_parent noParent, List.mem_singleton] at member
    rw [member, noParent] at found
    cases found
  | below id above isParent inductionHypothesis =>
    rw [lineage_of_parent rising isParent, List.mem_cons] at member ⊢
    rcases member with rfl | member
    · rw [isParent] at found
      rw [← Option.some.inj found]
      exact Or.inr (mem_lineage_self tree above)
    · exact Or.inr (inductionHypothesis member)

/-- A lineage goes through one child of each of its nodes only. -/
theorem eq_of_mem_lineage {tree : Tree} (rising : tree.Rising) {id first second parent : Nat}
    (firstMember : first ∈ tree.lineage id) (secondMember : second ∈ tree.lineage id)
    (firstParent : (tree.node first).parent = some parent)
    (secondParent : (tree.node second).parent = some parent) : first = second := by
  induction id using lineage_induction rising with
  | top id noParent =>
    rw [lineage_of_no_parent noParent, List.mem_singleton] at firstMember secondMember
    rw [firstMember, secondMember]
  | below id above isParent inductionHypothesis =>
    -- Only the lowest node can be a child of the node above it.
    have lower : ∀ other ∈ tree.lineage above, (tree.node other).parent ≠ some above := by
      intro other member equal
      have le := le_of_mem_lineage rising member
      have lt := rising other above equal
      omega
    rw [lineage_of_parent rising isParent, List.mem_cons] at firstMember secondMember
    rcases firstMember with rfl | firstAbove <;> rcases secondMember with rfl | secondAbove
    · rfl
    · rw [isParent] at firstParent
      rw [← firstParent] at secondParent
      exact absurd secondParent (lower second secondAbove)
    · rw [isParent] at secondParent
      rw [← secondParent] at firstParent
      exact absurd firstParent (lower first firstAbove)
    · exact inductionHypothesis firstAbove secondAbove

/-- A lineage depends only on who is the parent of whom. -/
theorem lineage_congr {first second : Tree} (rising : first.Rising) (id : Nat)
    (same : ∀ other ≤ id, (second.node other).parent = (first.node other).parent) :
    second.lineage id = first.lineage id := by
  suffices within : ∀ count, second.lineageWithin count id = first.lineageWithin count id from
    within (id + 1)
  intro count
  induction count generalizing id with
  | zero => rfl
  | succ count inductionHypothesis =>
    rw [lineageWithin, lineageWithin, same id (Nat.le_refl id)]
    cases found : (first.node id).parent with
    | none => rfl
    | some parent =>
      have smaller := rising id parent found
      simp only
      rw [inductionHypothesis parent fun other le => same other (by omega)]

/-- The lineage of a node that has just been attached. -/
theorem lineage_attach_new {tree : Tree} (rising : tree.Rising) {parent : Nat}
    (inside : parent < tree.size) (origin : Origin) :
    (tree.attach parent origin).lineage tree.size = tree.size :: tree.lineage parent := by
  have grownRising : (tree.attach parent origin).Rising := by
    intro id above found
    by_cases new : id = tree.size
    · rw [new, node_attach_new inside] at found
      rw [new, ← Option.some.inj found]
      exact inside
    · rw [parent_attach inside new] at found
      exact rising id above found
  have found : ((tree.attach parent origin).node tree.size).parent = some parent := by
    rw [node_attach_new inside]
  rw [lineage_of_parent grownRising found]
  rw [lineage_congr rising parent fun other le => parent_attach inside (by omega) origin]

/-! ### Changing a lineage -/

theorem size_foldl_update (ids : List Nat) (tree : Tree) (change : Node → Node) :
    (ids.foldl (fun tree id => tree.update id change) tree).size = tree.size := by
  induction ids generalizing tree with
  | nil => rfl
  | cons first rest inductionHypothesis =>
    rw [List.foldl_cons, inductionHypothesis, size_update]

@[simp]
theorem size_updateLineage (tree : Tree) (id : Nat) (change : Node → Node) :
    (tree.updateLineage id change).size = tree.size :=
  size_foldl_update _ _ _

theorem node_foldl_update (ids : List Nat) (tree : Tree) (change : Node → Node) (other : Nat)
    (distinct : ids.Nodup) (inside : ∀ id ∈ ids, id < tree.size) :
    (ids.foldl (fun tree id => tree.update id change) tree).node other =
      if other ∈ ids then change (tree.node other) else tree.node other := by
  induction ids generalizing tree with
  | nil => rfl
  | cons first rest inductionHypothesis =>
    obtain ⟨notAgain, distinctRest⟩ := List.nodup_cons.mp distinct
    have firstInside := inside first List.mem_cons_self
    rw [List.foldl_cons, inductionHypothesis _ distinctRest
      (fun id member => by rw [size_update]; exact inside id (List.mem_cons_of_mem _ member))]
    by_cases same : other = first
    · subst same
      rw [if_neg notAgain, if_pos List.mem_cons_self, node_update_self firstInside]
    · rw [node_update_other _ same]
      by_cases member : other ∈ rest
      · rw [if_pos member, if_pos (List.mem_cons_of_mem _ member)]
      · rw [if_neg member, if_neg fun within => (List.mem_cons.mp within).elim same member]

/-- Changing a lineage changes exactly the nodes of the lineage, each once. -/
theorem node_updateLineage {tree : Tree} (rising : tree.Rising) {id : Nat}
    (inside : id < tree.size) (change : Node → Node) (other : Nat) :
    (tree.updateLineage id change).node other =
      if other ∈ tree.lineage id then change (tree.node other) else tree.node other :=
  node_foldl_update _ _ _ _ (nodup_lineage rising id) fun _ member =>
    Nat.lt_of_le_of_lt (le_of_mem_lineage rising member) inside

theorem node_eat {tree : Tree} (rising : tree.Rising) {id : Nat} (inside : id < tree.size)
    (amount other : Nat) : (tree.eat id amount).node other =
      if other ∈ tree.lineage id then (tree.node other).lengthen amount else tree.node other :=
  node_updateLineage rising inside _ other

theorem node_uneat {tree : Tree} (rising : tree.Rising) {id : Nat} (inside : id < tree.size)
    (amount other : Nat) : (tree.uneat id amount).node other =
      if other ∈ tree.lineage id then (tree.node other).shorten amount else tree.node other :=
  node_updateLineage rising inside _ other

@[simp]
theorem size_eat (tree : Tree) (id amount : Nat) : (tree.eat id amount).size = tree.size :=
  size_updateLineage _ _ _

@[simp]
theorem size_uneat (tree : Tree) (id amount : Nat) : (tree.uneat id amount).size = tree.size :=
  size_updateLineage _ _ _

@[simp]
theorem size_markTerminal (tree : Tree) (id : Nat) : (tree.markTerminal id).size = tree.size :=
  size_update _ _ _

end Rulebook.Match.Tree
