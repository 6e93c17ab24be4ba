/-
This file describes what work at a node does to the rest of the tree. New nodes come after
all others, the node itself takes input, and its ancestors take the same input with it;
nothing else changes. This is what makes detaching a truncation: as long as only a child has
been worked at since it was attached, forgetting the child and everything after it, and
giving back what the child took, restores the tree exactly.
-/

import Rulebook.Proofs.Tree.Lineage

namespace Rulebook.Match

namespace Node

@[simp]
theorem lengthen_zero (node : Node) : node.lengthen 0 = node := rfl

theorem lengthen_lengthen (node : Node) (first second : Nat) :
    (node.lengthen first).lengthen second = node.lengthen (first + second) := by
  simp only [lengthen, Nat.add_assoc]

/-- Giving a child away undoes taking it, and giving input back undoes taking it. -/
theorem shorten_disownLast (node : Node) (child amount : Nat) :
    (disownLast child ((node.adopt child).lengthen amount)).shorten amount = node := by
  simp [disownLast, hideLast, adopt, lengthen, shorten]

end Node

namespace Tree

variable {node parent : Nat} {before middle after : Tree} {origin : Origin}

/-- What work at a node may change. -/
structure Grown (node : Nat) (before after : Tree) : Prop where
  inside : node < before.size
  size_le : before.size ≤ after.size
  rising : after.Rising
  stop_le : before.stop node ≤ after.stop node
  self : ∃ children semantic terminal, after.node node =
    { before.node node with stop := after.stop node, children, semantic, terminal }
  other : ∀ id < before.size, id ≠ node → after.node id =
    if id ∈ before.lineage node then
      (before.node id).lengthen (after.stop node - before.stop node)
    else before.node id

namespace Grown

/-- Nobody's parent changes. -/
theorem parent_eq (grown : Grown node before after) {id : Nat} (inside : id < before.size) :
    (after.node id).parent = (before.node id).parent := by
  by_cases same : id = node
  · obtain ⟨children, semantic, terminal, equal⟩ := grown.self
    rw [same, equal]
  · rw [grown.other id inside same]
    split <;> rfl

/-- Nor does it change where a node starts, what it stands for, or that it was skipped. -/
theorem start_eq (grown : Grown node before after) {id : Nat} (inside : id < before.size) :
    (after.node id).start = (before.node id).start ∧
      (after.node id).origin = (before.node id).origin ∧
        (after.node id).whitespace = (before.node id).whitespace := by
  by_cases same : id = node
  · obtain ⟨children, semantic, terminal, equal⟩ := grown.self
    rw [same, equal]
    exact ⟨rfl, rfl, rfl⟩
  · rw [grown.other id inside same]
    split <;> exact ⟨rfl, rfl, rfl⟩

/-- Only the node itself is given children, and only it becomes the match of a token. -/
theorem children_eq (grown : Grown node before after) {id : Nat} (inside : id < before.size)
    (distinct : id ≠ node) : (after.node id).children = (before.node id).children ∧
      (after.node id).semantic = (before.node id).semantic ∧
        (after.node id).terminal = (before.node id).terminal := by
  rw [grown.other id inside distinct]
  split <;> exact ⟨rfl, rfl, rfl⟩

theorem rising_before (grown : Grown node before after) : before.Rising := by
  intro id parent found
  by_cases inside : id < before.size
  · rw [← grown.parent_eq inside] at found
    exact grown.rising id parent found
  · rw [parent_of_size_le (Nat.le_of_not_lt inside)] at found
    cases found

theorem lineage_eq (grown : Grown node before after) {id : Nat} (inside : id < before.size) :
    after.lineage id = before.lineage id :=
  lineage_congr grown.rising_before id fun _ le =>
    grown.parent_eq (Nat.lt_of_le_of_lt le inside)

/-- It changes nothing at the nodes after the node. -/
theorem node_after (grown : Grown node before after) {id : Nat} (above : node < id)
    (inside : id < before.size) : after.node id = before.node id := by
  rw [grown.other id inside (Nat.ne_of_gt above), if_neg fun member =>
    Nat.not_lt_of_le (le_of_mem_lineage grown.rising_before member) above]

theorem refl (rising : before.Rising) (inside : node < before.size) :
    Grown node before before where
  inside
  size_le := Nat.le_refl _
  rising
  stop_le := Nat.le_refl _
  self := ⟨_, _, _, rfl⟩
  other id _ _ := by rw [Nat.sub_self, Node.lengthen_zero, ite_self]

theorem trans (first : Grown node before middle) (second : Grown node middle after) :
    Grown node before after where
  inside := first.inside
  size_le := Nat.le_trans first.size_le second.size_le
  rising := second.rising
  stop_le := Nat.le_trans first.stop_le second.stop_le
  self := by
    obtain ⟨_, _, _, firstEqual⟩ := first.self
    obtain ⟨children, semantic, terminal, secondEqual⟩ := second.self
    exact ⟨children, semantic, terminal, by rw [secondEqual, firstEqual]⟩
  other id inside distinct := by
    rw [second.other id (Nat.lt_of_lt_of_le inside first.size_le) distinct,
      first.lineage_eq first.inside, first.other id inside distinct]
    split
    · have firstLe := first.stop_le
      have secondLe := second.stop_le
      rw [Node.lengthen_lengthen]
      congr 1
      omega
    · rfl

end Grown

/-! ### Attaching and detaching -/

theorem rising_attach (rising : before.Rising) (inside : parent < before.size) :
    (before.attach parent origin).Rising := by
  intro id above found
  by_cases new : id = before.size
  · rw [new, node_attach_new inside] at found
    rw [new, ← Option.some.inj found]
    exact inside
  · rw [parent_attach inside new] at found
    exact rising id above found

theorem stop_attach (inside : parent < before.size) :
    (before.attach parent origin).stop parent = before.stop parent := by
  rw [stop, node_attach_parent inside]
  rfl

theorem stop_attach_new (inside : parent < before.size) :
    (before.attach parent origin).stop before.size = before.stop parent := by
  rw [stop, node_attach_new inside]

theorem grown_attach (rising : before.Rising) (inside : parent < before.size) :
    Grown parent before (before.attach parent origin) where
  inside
  size_le := by rw [size_attach]; exact Nat.le_succ _
  rising := rising_attach rising inside
  stop_le := Nat.le_of_eq (stop_attach inside).symm
  self := ⟨_, _, _, by rw [stop_attach inside, node_attach_parent inside]; rfl⟩
  other id old distinct := by
    rw [node_attach_other distinct (Nat.ne_of_lt old), stop_attach inside, Nat.sub_self,
      Node.lengthen_zero, ite_self]

/-- The parent of a child at which some work was done has the child and what the child
took. -/
theorem Grown.node_parent (rising : before.Rising) (inside : parent < before.size)
    (grown : Grown before.size (before.attach parent origin) after) :
    after.node parent = ((before.node parent).adopt before.size).lengthen
      (after.stop before.size - before.stop parent) := by
  rw [grown.other parent (by rw [size_attach]; omega) (Nat.ne_of_lt inside),
    lineage_attach_new rising inside, if_pos (List.mem_cons_of_mem _ (mem_lineage_self _ _)),
    node_attach_parent inside, stop_attach_new inside]

/-- Nodes other than the parent see nothing of the child but the input that it took. -/
theorem Grown.node_old (rising : before.Rising) (inside : parent < before.size)
    (grown : Grown before.size (before.attach parent origin) after) {id : Nat}
    (old : id < before.size) (distinct : id ≠ parent) :
    after.node id = if id ∈ before.lineage parent then
        (before.node id).lengthen (after.stop before.size - before.stop parent)
      else before.node id := by
  rw [grown.other id (by rw [size_attach]; omega) (Nat.ne_of_lt old),
    lineage_attach_new rising inside, stop_attach_new inside,
    node_attach_other distinct (Nat.ne_of_lt old)]
  simp only [List.mem_cons, Nat.ne_of_lt old, false_or]

/-- The child stays the latest, as long as only the child is worked at. -/
theorem Grown.back?_parent (rising : before.Rising) (inside : parent < before.size)
    (grown : Grown before.size (before.attach parent origin) after) :
    (after.node parent).children.back? = some before.size := by
  rw [grown.node_parent rising inside]
  exact Array.back?_push

theorem Grown.stop_parent (rising : before.Rising) (inside : parent < before.size)
    (grown : Grown before.size (before.attach parent origin) after) :
    after.stop parent = after.stop before.size := by
  have le := grown.stop_le
  rw [stop_attach_new inside] at le
  rw [stop, grown.node_parent rising inside]
  show before.stop parent + (after.stop before.size - before.stop parent) = _
  omega

/-- Work at a child is work at its parent. -/
theorem Grown.of_child (rising : before.Rising) (inside : parent < before.size)
    (grown : Grown before.size (before.attach parent origin) after) :
    Grown parent before after where
  inside
  size_le := by
    have le := grown.size_le
    rw [size_attach] at le
    omega
  rising := grown.rising
  stop_le := by
    have le := grown.stop_le
    rwa [stop_attach_new inside, ← grown.stop_parent rising inside] at le
  self := ⟨_, _, _, by
    have le := grown.stop_le
    rw [stop_attach_new inside] at le
    rw [grown.stop_parent rising inside, grown.node_parent rising inside, Node.lengthen]
    congr 1
    show before.stop parent + (after.stop before.size - before.stop parent) = _
    omega⟩
  other id old distinct := by
    rw [grown.node_old rising inside old distinct, grown.stop_parent rising inside]

/-- Disowning a child changes nobody's parent. -/
theorem parent_disownLast (inside : parent < before.size) (child id : Nat) :
    ((before.update parent (Node.disownLast child)).node id).parent = (before.node id).parent := by
  rw [node_update _ _ _ _ inside]
  split
  · unfold Node.disownLast Node.hideLast
    split <;> rfl
  · rfl

/-- Detaching a child restores the tree exactly, whatever was done at the child. -/
theorem Grown.discardLast_eq (rising : before.Rising) (inside : parent < before.size)
    (grown : Grown before.size (before.attach parent origin) after) :
    after.discardLast parent = before := by
  have sizeLe : before.size < after.size := by
    have le := grown.size_le
    rwa [size_attach] at le
  have inAfter : parent < after.size := Nat.lt_trans inside sizeLe
  have parentNode := grown.node_parent rising inside
  have latest := grown.back?_parent rising inside
  have started : (after.node before.size).start = before.stop parent := by
    have attached : before.size < (before.attach parent origin).size := by
      rw [size_attach]
      exact Nat.lt_succ_self _
    rw [(grown.start_eq attached).1, node_attach_new inside]
  have taken : (after.node before.size).consumed =
      after.stop before.size - before.stop parent := by
    rw [Node.consumed, started]
    rfl
  rw [discardLast, latest]
  simp only [taken]
  -- All lineages are the same before and after the child is disowned.
  have sameParent := parent_disownLast inAfter before.size
  have disownedRising : (after.update parent (Node.disownLast before.size)).Rising := by
    intro id above found
    rw [sameParent] at found
    exact grown.rising id above found
  have sameLineage : (after.update parent (Node.disownLast before.size)).lineage parent =
      before.lineage parent := by
    rw [lineage_congr grown.rising parent fun id _ => sameParent id,
      (grown.of_child rising inside).lineage_eq inside]
  refine ext_node (by rw [size_truncate (by simp; omega)]) fun id bound => ?_
  rw [size_truncate (by simp; omega)] at bound
  rw [node_truncate bound, node_uneat disownedRising (by simpa using inAfter), sameLineage]
  by_cases same : id = parent
  · rw [same, if_pos (mem_lineage_self _ _), node_update_self inAfter, parentNode,
      Node.shorten_disownLast]
  · rw [node_update_other _ same, grown.node_old rising inside bound same]
    split
    · rw [Node.shorten, Node.lengthen]
      simp
    · rfl

theorem discardLast_attach (rising : before.Rising) (inside : parent < before.size)
    (origin : Origin) : (before.attach parent origin).discardLast parent = before := by
  have unchanged : Grown before.size (before.attach parent origin)
      (before.attach parent origin) :=
    .refl (rising_attach rising inside) (by rw [size_attach]; exact Nat.lt_succ_self _)
  exact unchanged.discardLast_eq rising inside

/-! ### Matching a token at a node -/

theorem rising_markTerminal (rising : before.Rising) : (before.markTerminal node).Rising := by
  intro id above found
  refine rising id above ?_
  by_cases inside : node < before.size
  · rw [markTerminal, node_update _ _ _ _ inside] at found
    split at found <;> exact found
  · by_cases same : id = node
    · rw [parent_of_size_le (by rw [size_markTerminal, same]; omega)] at found
      cases found
    · rwa [markTerminal, node_update_other _ same] at found

@[simp]
theorem size_matchToken (tree : Tree) (node length : Nat) :
    (tree.matchToken node length).size = tree.size := by
  rw [matchToken, size_eat, size_markTerminal]

theorem node_matchToken (rising : before.Rising) (inside : node < before.size)
    (length id : Nat) : (before.matchToken node length).node id =
      if id = node then { (before.node node).lengthen length with terminal := true }
      else if id ∈ before.lineage node then (before.node id).lengthen length
      else before.node id := by
  have sameLineage : (before.markTerminal node).lineage node = before.lineage node :=
    lineage_congr rising node fun other _ => by
      rw [markTerminal, node_update _ _ _ _ inside]
      split <;> rfl
  rw [matchToken, node_eat (rising_markTerminal rising) (by simpa using inside), sameLineage,
    markTerminal, node_update _ _ _ _ inside]
  by_cases same : id = node
  · rw [if_pos same, if_pos same, same, if_pos (mem_lineage_self _ _)]
    rfl
  · rw [if_neg same, if_neg same]

theorem grown_matchToken (rising : before.Rising) (inside : node < before.size)
    (length : Nat) : Grown node before (before.matchToken node length) := by
  have stopped : (before.matchToken node length).stop node = before.stop node + length := by
    rw [stop, node_matchToken rising inside, if_pos rfl]
    rfl
  refine ⟨inside, Nat.le_of_eq (size_matchToken _ _ _).symm, ?_, by omega, ?_,
    fun id _ distinct => ?_⟩
  · intro id above found
    refine rising id above ?_
    rw [node_matchToken rising inside] at found
    split at found
    · rename_i same
      rw [same]
      exact found
    · split at found <;> exact found
  · rw [stopped]
    exact ⟨_, _, _, by rw [node_matchToken rising inside, if_pos rfl]; rfl⟩
  · rw [node_matchToken rising inside, if_neg distinct, stopped, Nat.add_sub_cancel_left]

end Tree

end Rulebook.Match
