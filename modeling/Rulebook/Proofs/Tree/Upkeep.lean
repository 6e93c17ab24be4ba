/-
This file shows that the three ways in which a tree grows keep its shape: a child is attached
to an open node, a token matches at an open node without children, and the latest child of a
node is marked as skipped. An open node stays open while work goes on at it, and a child that
has just been attached to an open node is open.
-/

import Rulebook.Proofs.Tree.Shape

namespace Rulebook.Match.Tree

variable {chars : List Char} {node parent : Nat} {tree after : Tree} {origin : Origin}

/-! ### Open nodes -/

/-- Work at an open node leaves it open, unless a token has matched there. -/
theorem Open.of_grown (isOpen : tree.Open node) (grown : Grown node tree after)
    (unmatched : (after.node node).terminal = false) : after.Open node where
  inside := Nat.lt_of_lt_of_le isOpen.inside grown.size_le
  unmatched
  latest child member parent found := by
    rw [grown.lineage_eq isOpen.inside] at member
    have childInside := Nat.lt_of_le_of_lt (le_of_mem_lineage grown.rising_before member)
      isOpen.inside
    rw [grown.parent_eq childInside] at found
    have lt := grown.rising_before child parent found
    have le := le_of_mem_lineage grown.rising_before member
    rw [(grown.children_eq (Nat.lt_trans lt childInside) (by omega)).1]
    exact isOpen.latest child member parent found

theorem open_attach (intact : tree.Intact chars) (isOpen : tree.Open parent) :
    (tree.attach parent origin).Open tree.size where
  inside := by rw [size_attach]; exact Nat.lt_succ_self _
  unmatched := by rw [node_attach_new isOpen.inside]
  latest child member above found := by
    rw [lineage_attach_new intact.rising isOpen.inside] at member
    rcases List.mem_cons.mp member with same | higher
    · rw [same, node_attach_new isOpen.inside] at found
      rw [same, ← Option.some.inj found, node_attach_parent isOpen.inside]
      exact Array.back?_push
    · have le := le_of_mem_lineage intact.rising higher
      have childInside := Nat.lt_of_le_of_lt le isOpen.inside
      rw [parent_attach isOpen.inside (Nat.ne_of_lt childInside)] at found
      have lt := intact.rising child above found
      have notNew : above ≠ tree.size := by omega
      rw [node_attach_other (by omega) notNew]
      exact isOpen.latest child higher above found

/-! ### Attaching a child -/

/-- The offsets of earlier nodes do not change when a child is attached. -/
theorem offsets_attach (inside : parent < tree.size) (origin : Origin) {id : Nat}
    (old : id ≠ tree.size) :
    ((tree.attach parent origin).node id).start = (tree.node id).start ∧
      (tree.attach parent origin).stop id = tree.stop id ∧
        ((tree.attach parent origin).node id).whitespace = (tree.node id).whitespace := by
  by_cases same : id = parent
  · rw [same, stop, node_attach_parent inside]
    exact ⟨rfl, rfl, rfl⟩
  · rw [stop, node_attach_other same old]
    exact ⟨rfl, rfl, rfl⟩

namespace Intact

variable (intact : tree.Intact chars) (isOpen : tree.Open parent)
include intact

/-- What was a child before another one is attached is not the new node. -/
theorem child_ne_size {id child : Nat} (member : child ∈ (tree.node id).children) :
    child ≠ tree.size :=
  Nat.ne_of_lt (intact.ordered id child member).1

include isOpen

theorem ordered_attach (origin : Origin) (id child : Nat)
    (member : child ∈ ((tree.attach parent origin).node id).children) :
    child < (tree.attach parent origin).size ∧
      ((tree.attach parent origin).node child).parent = some id := by
  have inside := isOpen.inside
  have earlier : ∀ id, child ∈ (tree.node id).children → child < tree.size + 1 ∧
      ((tree.attach parent origin).node child).parent = some id := by
    intro id listed
    have ordered := intact.ordered id child listed
    rw [parent_attach inside (intact.child_ne_size listed)]
    exact ⟨Nat.lt_succ_of_lt ordered.1, ordered.2⟩
  rw [size_attach]
  by_cases isNew : id = tree.size
  · rw [isNew, node_attach_new inside] at member
    exact absurd member (Array.not_mem_empty child)
  · by_cases isParent : id = parent
    · rw [isParent, node_attach_parent inside, Node.adopt, Array.mem_push] at member
      rw [isParent]
      rcases member with listed | latest
      · exact earlier parent listed
      · rw [latest, node_attach_new inside]
        exact ⟨Nat.lt_succ_self _, rfl⟩
    · rw [node_attach_other isParent isNew] at member
      exact earlier id member

theorem distinct_attach (origin : Origin) (id : Nat) :
    ((tree.attach parent origin).node id).children.toList.Nodup := by
  have inside := isOpen.inside
  by_cases isNew : id = tree.size
  · rw [isNew, node_attach_new inside]
    exact List.nodup_nil
  · by_cases isParent : id = parent
    · rw [isParent, node_attach_parent inside, Node.adopt, Array.toList_push]
      refine List.nodup_append.mpr ⟨intact.distinct parent, List.nodup_singleton _, ?_⟩
      intro first early second late same
      rw [List.mem_singleton.mp late] at same
      exact intact.child_ne_size (Array.mem_toList_iff.mp early) same
    · rw [node_attach_other isParent isNew]
      exact intact.distinct id

/-- The new node is empty, so it fills the end of its parent. -/
theorem filled_attach (origin : Origin) (id : Nat)
    (bound : id < (tree.attach parent origin).size)
    (unmatched : ((tree.attach parent origin).node id).terminal = false) :
    (tree.attach parent origin).Tiles ((tree.attach parent origin).node id).start
      ((tree.attach parent origin).node id).children.toList
      ((tree.attach parent origin).stop id) := by
  have inside := isOpen.inside
  have new := node_attach_new inside origin
  rw [size_attach] at bound
  by_cases isNew : id = tree.size
  · rw [isNew, stop_attach_new inside, new]
    rfl
  · have tiles : tree.Tiles (tree.node id).start (tree.node id).children.toList
        (tree.stop id) → (tree.attach parent origin).Tiles (tree.node id).start
        (tree.node id).children.toList (tree.stop id) :=
      (tiles_congr fun child member =>
        have offsets := offsets_attach inside origin
          (intact.child_ne_size (Array.mem_toList_iff.mp member))
        ⟨offsets.1, offsets.2.1⟩).mpr
    by_cases isParent : id = parent
    · rw [isParent] at tiles ⊢
      rw [stop_attach inside, node_attach_parent inside, Node.adopt, Array.toList_push,
        tiles_append]
      refine ⟨_, tiles (intact.filled parent inside isOpen.unmatched), ?_, ?_⟩
      · rw [new]
      · exact stop_attach_new inside
    · rw [node_attach_other isParent isNew] at unmatched ⊢
      rw [stop, node_attach_other isParent isNew]
      exact tiles (intact.filled id (by omega) unmatched)

theorem semantic_attach (origin : Origin) (id : Nat) :
    ((tree.attach parent origin).node id).semantic.toList =
      ((tree.attach parent origin).node id).children.toList.filter fun child =>
        !((tree.attach parent origin).node child).whitespace := by
  have inside := isOpen.inside
  have new := node_attach_new inside origin
  have flags : (tree.node id).children.toList.filter
      (fun child => !((tree.attach parent origin).node child).whitespace) =
        (tree.node id).semantic.toList := by
    rw [intact.semantic_eq id]
    refine List.filter_congr fun child member => ?_
    have old := intact.child_ne_size (Array.mem_toList_iff.mp member)
    rw [(offsets_attach inside origin old).2.2]
  by_cases isNew : id = tree.size
  · rw [isNew, new]
    rfl
  · by_cases isParent : id = parent
    · rw [isParent] at flags ⊢
      rw [node_attach_parent inside, Node.adopt, Array.toList_push, Array.toList_push,
        List.filter_append, flags, List.filter_singleton, new]
      rfl
    · rw [node_attach_other isParent isNew]
      exact flags.symm

theorem terminal_attach (origin : Origin) (id : Nat)
    (matched : ((tree.attach parent origin).node id).terminal = true) :
    ((tree.attach parent origin).node id).children = #[] ∧
      ∃ rule, ((tree.attach parent origin).node id).origin = .rule rule ∧
        rule.isToken = true := by
  have inside := isOpen.inside
  by_cases isNew : id = tree.size
  · rw [isNew, node_attach_new inside] at matched
    cases matched
  · by_cases isParent : id = parent
    · rw [isParent, node_attach_parent inside, Node.adopt, isOpen.unmatched] at matched
      cases matched
    · rw [node_attach_other isParent isNew] at matched ⊢
      exact intact.terminal id matched

theorem attach (origin : Origin) : (tree.attach parent origin).Intact chars where
  nonempty := by rw [size_attach]; exact Nat.succ_pos _
  rising := rising_attach intact.rising isOpen.inside
  parented id bound found := by
    rw [size_attach] at bound
    by_cases isNew : id = tree.size
    · rw [isNew, node_attach_new isOpen.inside] at found
      cases found
    · rw [parent_attach isOpen.inside isNew] at found
      exact intact.parented id (by omega) found
  ordered := intact.ordered_attach isOpen origin
  distinct := intact.distinct_attach isOpen origin
  listing := intact.reachable_attach isOpen
  filled := intact.filled_attach isOpen origin
  semantic_eq := intact.semantic_attach isOpen origin
  terminal := intact.terminal_attach isOpen origin
  spans id bound := by
    rw [size_attach] at bound
    by_cases isNew : id = tree.size
    · rw [isNew, stop_attach_new isOpen.inside, node_attach_new isOpen.inside]
      have ends := (intact.spans parent isOpen.inside).2.1
      exact ⟨ends, ends, Nat.le_refl _⟩
    · obtain ⟨start_eq, stop_eq, -⟩ := offsets_attach isOpen.inside origin isNew
      rw [start_eq, stop_eq]
      exact intact.spans id (by omega)

end Intact

/-! ### Changes that keep the links -/

/-- A tree with the size, the parents and the children of an intact tree is listed alike, so
only the spans and the labels of its nodes are left to check. -/
theorem Intact.of_links (intact : tree.Intact chars) (size_eq : after.size = tree.size)
    (links : ∀ id, (after.node id).parent = (tree.node id).parent ∧
      (after.node id).children = (tree.node id).children)
    (filled : ∀ id < tree.size, (after.node id).terminal = false →
      after.Tiles (after.node id).start (tree.node id).children.toList (after.stop id))
    (semantic_eq : ∀ id, (after.node id).semantic.toList =
      (tree.node id).children.toList.filter fun child => !(after.node child).whitespace)
    (terminal : ∀ id, (after.node id).terminal = true → (tree.node id).children = #[] ∧
      ∃ rule, (after.node id).origin = .rule rule ∧ rule.isToken = true)
    (spans : ∀ id < tree.size, Boundary chars (after.node id).start ∧
      Boundary chars (after.stop id) ∧ (after.node id).start ≤ after.stop id) :
    after.Intact chars where
  nonempty := by rw [size_eq]; exact intact.nonempty
  rising id above found := by
    rw [(links id).1] at found
    exact intact.rising id above found
  parented id bound found := by
    rw [size_eq] at bound
    rw [(links id).1] at found
    exact intact.parented id bound found
  ordered id child member := by
    rw [(links id).2] at member
    rw [size_eq, (links child).1]
    exact intact.ordered id child member
  distinct id := by
    rw [(links id).2]
    exact intact.distinct id
  listing := by
    rw [reachable, size_eq, descendantsWithin_congr fun id => (links id).2]
    exact intact.listing
  filled id bound unmatched := by
    rw [size_eq] at bound
    rw [(links id).2]
    exact filled id bound unmatched
  semantic_eq id := by
    rw [(links id).2]
    exact semantic_eq id
  terminal id matched := by
    rw [(links id).2]
    exact terminal id matched
  spans id bound := by
    rw [size_eq] at bound
    exact spans id bound

/-! ### Matching a token -/

theorem stop_matchToken (rising : tree.Rising) (inside : node < tree.size) (length id : Nat) :
    (tree.matchToken node length).stop id =
      if id ∈ tree.lineage node then tree.stop id + length else tree.stop id := by
  rw [stop, node_matchToken rising inside]
  by_cases same : id = node
  · rw [if_pos same, same, if_pos (mem_lineage_self _ _)]
    rfl
  · rw [if_neg same]
    split <;> rfl

/-- Matching a token changes neither who is the parent of whom nor where nodes start. -/
theorem links_matchToken (rising : tree.Rising) (inside : node < tree.size) (length id : Nat) :
    ((tree.matchToken node length).node id).parent = (tree.node id).parent ∧
      ((tree.matchToken node length).node id).children = (tree.node id).children ∧
        ((tree.matchToken node length).node id).start = (tree.node id).start := by
  rw [node_matchToken rising inside]
  by_cases same : id = node
  · rw [if_pos same, same]
    exact ⟨rfl, rfl, rfl⟩
  · rw [if_neg same]
    split <;> exact ⟨rfl, rfl, rfl⟩

theorem labels_matchToken (rising : tree.Rising) (inside : node < tree.size)
    (length id : Nat) :
    ((tree.matchToken node length).node id).origin = (tree.node id).origin ∧
      ((tree.matchToken node length).node id).semantic = (tree.node id).semantic ∧
        ((tree.matchToken node length).node id).whitespace = (tree.node id).whitespace := by
  rw [node_matchToken rising inside]
  by_cases same : id = node
  · rw [if_pos same, same]
    exact ⟨rfl, rfl, rfl⟩
  · rw [if_neg same]
    split <;> exact ⟨rfl, rfl, rfl⟩

theorem terminal_matchToken (rising : tree.Rising) (inside : node < tree.size)
    (length id : Nat) : ((tree.matchToken node length).node id).terminal =
      if id = node then true else (tree.node id).terminal := by
  rw [node_matchToken rising inside]
  split
  · rfl
  · split <;> rfl

/-- A match lengthens the latest children of the nodes above it, and these nodes as well. -/
theorem Intact.filled_matchToken (intact : tree.Intact chars) (isOpen : tree.Open node)
    (length : Nat) {id : Nat} (bound : id < tree.size)
    (unmatched : ((tree.matchToken node length).node id).terminal = false) :
    (tree.matchToken node length).Tiles ((tree.matchToken node length).node id).start
      (tree.node id).children.toList ((tree.matchToken node length).stop id) := by
  have links := links_matchToken intact.rising isOpen.inside length
  have stop := stop_matchToken intact.rising isOpen.inside length
  rw [terminal_matchToken intact.rising isOpen.inside] at unmatched
  have notNode : id ≠ node := by
    intro same
    rw [if_pos same] at unmatched
    cases unmatched
  rw [if_neg notNode] at unmatched
  have filled := intact.filled id bound unmatched
  rw [(links id).2.2, stop]
  by_cases member : id ∈ tree.lineage node
  · -- Only the latest child of such a node has become longer, and so has the node.
    obtain ⟨earlier, latest, equal, within, outside⟩ :=
      intact.children_of_mem_lineage isOpen member notNode
    rw [equal, tiles_append] at filled ⊢
    obtain ⟨middle, left, starts, ends⟩ := filled
    refine ⟨middle, (tiles_congr fun child early => ?_).mpr left, ?_, ?_⟩
    · rw [stop, if_neg (outside child early)]
      exact ⟨(links child).2.2, rfl⟩
    · rw [(links latest).2.2, starts]
    · rw [stop, if_pos within, if_pos member]
      exact congrArg (· + length) ends
  · rw [if_neg member]
    refine (tiles_congr fun child listed => ?_).mpr filled
    rw [stop, if_neg (intact.child_notMem_lineage member (Array.mem_toList_iff.mp listed))]
    exact ⟨(links child).2.2, rfl⟩

theorem Intact.matchToken (intact : tree.Intact chars) (isOpen : tree.Open node)
    (childless : (tree.node node).children = #[]) {rule : Rule}
    (isRule : (tree.node node).origin = .rule rule) (isToken : rule.isToken = true)
    {length : Nat} (boundary : Boundary chars (tree.stop node + length)) :
    (tree.matchToken node length).Intact chars := by
  have rising := intact.rising
  have inside := isOpen.inside
  have links := links_matchToken rising inside length
  have labels := labels_matchToken rising inside length
  refine intact.of_links (size_matchToken ..) (fun id => ⟨(links id).1, (links id).2.1⟩)
    (fun id bound => intact.filled_matchToken isOpen length bound) ?_ ?_ ?_
  · intro id
    rw [(labels id).2.1, intact.semantic_eq id]
    exact List.filter_congr fun child _ => by rw [(labels child).2.2]
  · intro id matched
    rw [terminal_matchToken rising inside] at matched
    rw [(labels id).1]
    by_cases same : id = node
    · rw [same]
      exact ⟨childless, rule, isRule, isToken⟩
    · rw [if_neg same] at matched
      exact intact.terminal id matched
  · intro id bound
    obtain ⟨first, last, le⟩ := intact.spans id bound
    rw [(links id).2.2, stop_matchToken rising inside]
    split
    · rename_i member
      rw [intact.stop_of_mem_lineage isOpen member] at le ⊢
      exact ⟨first, boundary, Nat.le_trans le (Nat.le_add_right _ _)⟩
    · exact ⟨first, last, le⟩

/-! ### Marking a child as skipped -/

theorem node_skipLast (intact : tree.Intact chars) {child : Nat}
    (latest : (tree.node parent).children.back? = some child) (id : Nat) :
    (tree.skipLast parent).node id =
      if id = parent then Node.hideLast child (tree.node parent)
      else if id = child then { tree.node child with whitespace := true }
      else tree.node id := by
  have listed := Array.mem_of_back? latest
  have inside := (intact.ordered parent child listed).1
  have lt := intact.lt_of_child listed
  rw [skipLast, latest]
  simp only
  rw [node_update _ _ _ _ (by simp; omega), node_update _ _ _ _ inside]
  by_cases isParent : id = parent
  · rw [if_pos isParent, if_pos isParent, isParent, if_neg (Nat.ne_of_lt lt)]
  · rw [if_neg isParent, if_neg isParent]
    by_cases isChild : id = child
    · rw [if_pos isChild, if_pos isChild, isChild]
    · rw [if_neg isChild, if_neg isChild]

/-- Marking a child as skipped changes nothing but the semantic children of its parent and
the mark. -/
theorem links_skipLast (intact : tree.Intact chars) {child : Nat}
    (latest : (tree.node parent).children.back? = some child) (id : Nat) :
    ((tree.skipLast parent).node id).parent = (tree.node id).parent ∧
      ((tree.skipLast parent).node id).children = (tree.node id).children ∧
        ((tree.skipLast parent).node id).start = (tree.node id).start ∧
          (tree.skipLast parent).stop id = tree.stop id ∧
            ((tree.skipLast parent).node id).terminal = (tree.node id).terminal ∧
              ((tree.skipLast parent).node id).origin = (tree.node id).origin := by
  rw [stop, node_skipLast intact latest]
  by_cases isParent : id = parent
  · rw [if_pos isParent, isParent, Node.hideLast]
    split <;> exact ⟨rfl, rfl, rfl, rfl, rfl, rfl⟩
  · rw [if_neg isParent]
    by_cases isChild : id = child
    · rw [if_pos isChild, isChild]
      exact ⟨rfl, rfl, rfl, rfl, rfl, rfl⟩
    · rw [if_neg isChild]
      exact ⟨rfl, rfl, rfl, rfl, rfl, rfl⟩

theorem Intact.stop_skipLast (intact : tree.Intact chars) (parent : Nat) :
    (tree.skipLast parent).stop parent = tree.stop parent := by
  cases latest : (tree.node parent).children.back? with
  | none => rw [skipLast, latest]
  | some child => exact (links_skipLast intact latest parent).2.2.2.1

@[simp]
theorem size_skipLast (tree : Tree) (parent : Nat) :
    (tree.skipLast parent).size = tree.size := by
  rw [skipLast]
  split
  · rfl
  · rw [size_update, size_update]

/-- Whether a node other than the marked child is skipped does not change. -/
theorem filter_skipLast (intact : tree.Intact chars) {child : Nat}
    (latest : (tree.node parent).children.back? = some child) {nodes : List Nat}
    (absent : child ∉ nodes) :
    nodes.filter (fun other => !((tree.skipLast parent).node other).whitespace) =
      nodes.filter fun other => !(tree.node other).whitespace := by
  refine List.filter_congr fun other member => ?_
  have notChild : other ≠ child := fun same => absent (same ▸ member)
  rw [node_skipLast intact latest, if_neg notChild]
  split
  · rename_i isParent
    rw [isParent, Node.hideLast]
    split <;> rfl
  · rfl

/-- The parent of the marked child loses its last semantic child. -/
theorem semantic_skipLast_parent (intact : tree.Intact chars) {child : Nat}
    (latest : (tree.node parent).children.back? = some child)
    (notSkipped : (tree.node child).whitespace = false) :
    ((tree.skipLast parent).node parent).semantic.toList =
      (tree.node parent).children.toList.filter fun other =>
        !((tree.skipLast parent).node other).whitespace := by
  have looks := node_skipLast intact latest
  have lt := intact.lt_of_child (Array.mem_of_back? latest)
  have latestInList := latest
  rw [← Array.getLast?_toList] at latestInList
  obtain ⟨earlier, equal⟩ := List.getLast?_eq_some_iff.mp latestInList
  have distinct := intact.distinct parent
  have semantic_eq := intact.semantic_eq parent
  rw [equal] at distinct
  rw [equal, List.filter_append, List.filter_singleton, notSkipped] at semantic_eq
  have last : (tree.node parent).semantic.back? = some child := by
    rw [← Array.getLast?_toList, semantic_eq]
    exact List.getLast?_concat
  have absent : child ∉ earlier := fun early =>
    (List.nodup_append.mp distinct).2.2 child early child List.mem_cons_self rfl
  have marked : ((tree.skipLast parent).node child).whitespace = true := by
    rw [looks, if_neg (Nat.ne_of_gt lt), if_pos rfl]
  rw [equal, List.filter_append, filter_skipLast intact latest absent, List.filter_singleton,
    marked, looks, if_pos rfl, Node.hideLast, if_pos last]
  show (tree.node parent).semantic.pop.toList = _
  rw [Array.toList_pop, semantic_eq]
  exact List.dropLast_concat.trans (List.append_nil _).symm

/-- A node that is not the parent of the marked child keeps its semantic children. -/
theorem semantic_skipLast_other (intact : tree.Intact chars) {child : Nat}
    (latest : (tree.node parent).children.back? = some child) {id : Nat}
    (notParent : id ≠ parent) :
    ((tree.skipLast parent).node id).semantic.toList =
      (tree.node id).children.toList.filter fun other =>
        !((tree.skipLast parent).node other).whitespace := by
  have absent : child ∉ (tree.node id).children.toList := by
    intro member
    have other := (intact.ordered id child (Array.mem_toList_iff.mp member)).2
    rw [(intact.ordered parent child (Array.mem_of_back? latest)).2] at other
    exact notParent (Option.some.inj other).symm
  rw [filter_skipLast intact latest absent, ← intact.semantic_eq id,
    node_skipLast intact latest, if_neg notParent]
  split
  · rename_i isChild
    rw [isChild]
  · rfl

theorem Intact.skipLast (intact : tree.Intact chars) {child : Nat}
    (latest : (tree.node parent).children.back? = some child)
    (notSkipped : (tree.node child).whitespace = false) :
    (tree.skipLast parent).Intact chars := by
  have links := links_skipLast intact latest
  refine intact.of_links (size_skipLast ..) (fun id => ⟨(links id).1, (links id).2.1⟩)
    ?_ ?_ ?_ ?_
  · intro id bound unmatched
    obtain ⟨-, -, start_eq, stop_eq, terminal_eq, -⟩ := links id
    rw [terminal_eq] at unmatched
    rw [start_eq, stop_eq]
    exact (tiles_congr fun other _ => ⟨(links other).2.2.1, (links other).2.2.2.1⟩).mpr
      (intact.filled id bound unmatched)
  · intro id
    by_cases isParent : id = parent
    · rw [isParent]
      exact semantic_skipLast_parent intact latest notSkipped
    · exact semantic_skipLast_other intact latest isParent
  · intro id matched
    obtain ⟨-, -, -, -, terminal_eq, origin_eq⟩ := links id
    rw [terminal_eq] at matched
    rw [origin_eq]
    exact intact.terminal id matched
  · intro id bound
    obtain ⟨-, -, start_eq, stop_eq, -⟩ := links id
    rw [start_eq, stop_eq]
    exact intact.spans id bound

/-- Work at a child that is then marked as skipped is work at its parent, and the parent has
no further semantic child. -/
theorem Grown.skipLast {before : Tree} (rising : before.Rising) (inside : parent < before.size)
    (grown : Grown before.size (before.attach parent origin) after)
    (intact : after.Intact chars) :
    Grown parent before (after.skipLast parent) ∧
      ((after.skipLast parent).node parent).semantic = (before.node parent).semantic ∧
        ((after.skipLast parent).node parent).terminal = (before.node parent).terminal := by
  have latest := grown.back?_parent rising inside
  have looks := node_skipLast intact latest
  have links := links_skipLast intact latest
  have above := grown.of_child rising inside
  have owner : (after.skipLast parent).node parent =
      { before.node parent with
        stop := (before.node parent).stop + (after.stop before.size - before.stop parent)
        children := (before.node parent).children.push before.size } := by
    rw [looks, if_pos rfl, grown.node_parent rising inside]
    simp [Node.hideLast, Node.adopt, Node.lengthen]
  have stopped : (after.skipLast parent).stop parent =
      (before.node parent).stop + (after.stop before.size - before.stop parent) := by
    rw [stop, owner]
  refine ⟨⟨inside, by rw [size_skipLast]; exact above.size_le, ?_, ?_, ?_, ?_⟩,
    by rw [owner], by rw [owner]⟩
  · intro id higher found
    rw [(links id).1] at found
    exact intact.rising id higher found
  · rw [(links parent).2.2.2.1]
    exact above.stop_le
  · rw [stopped]
    exact ⟨_, _, _, owner⟩
  · intro id old distinct
    rw [(links parent).2.2.2.1, looks, if_neg distinct, if_neg (Nat.ne_of_lt old)]
    exact above.other id old distinct

/-! ### Skipped tokens -/

/-- A token has matched at a node and was then skipped. -/
structure Blank (tree : Tree) (id : Nat) : Prop where
  terminal : (tree.node id).terminal = true
  whitespace : (tree.node id).whitespace = true

/-- A node has been given some more children, and all of them are skipped tokens. -/
def Trailed (parent : Nat) (before after : Tree) : Prop :=
  ∃ blanks, (after.node parent).children = (before.node parent).children ++ blanks ∧
    ∀ id ∈ blanks, after.Blank id

theorem trailed_refl (parent : Nat) (tree : Tree) : Trailed parent tree tree :=
  ⟨#[], by simp, fun _ member => absurd member (Array.not_mem_empty _)⟩

/-- Skipped tokens stay skipped while there is work at another node. -/
theorem Blank.of_grown {id : Nat} (blank : tree.Blank id) (grown : Grown node tree after)
    (distinct : id ≠ node) : after.Blank id := by
  have inside : id < tree.size := by
    by_contra outside
    have unmatched := blank.terminal
    rw [node_of_size_le (Nat.le_of_not_lt outside)] at unmatched
    cases unmatched
  constructor
  · rw [(grown.children_eq inside distinct).2.2, blank.terminal]
  · rw [(grown.start_eq inside).2.2, blank.whitespace]

theorem Trailed.trans {before middle : Tree} (first : Trailed parent before middle)
    (second : Trailed parent middle after) (isOpen : middle.Open parent)
    (grown : Grown parent middle after) : Trailed parent before after := by
  obtain ⟨blanks, equal, allBlank⟩ := first
  obtain ⟨further, equal', allBlank'⟩ := second
  refine ⟨blanks ++ further, by rw [equal', equal, Array.append_assoc], fun id member => ?_⟩
  rcases Array.mem_append.mp member with early | late
  · refine (allBlank id early).of_grown grown fun same => ?_
    have matched := (allBlank id early).terminal
    rw [same, isOpen.unmatched] at matched
    cases matched
  · exact allBlank' id late

/-- Marking a token as skipped leaves its parent with one more skipped token. -/
theorem Grown.trailed_skipLast {before : Tree} (rising : before.Rising)
    (inside : parent < before.size)
    (grown : Grown before.size (before.attach parent origin) after)
    (intact : after.Intact chars) (matched : (after.node before.size).terminal = true) :
    Trailed parent before (after.skipLast parent) := by
  have latest := grown.back?_parent rising inside
  have links := links_skipLast intact latest
  refine ⟨#[before.size], ?_, fun id member => ?_⟩
  · rw [(links parent).2.1, grown.node_parent rising inside]
    simp [Node.lengthen, Node.adopt]
  · obtain rfl : id = before.size := by simpa using member
    constructor
    · rw [(links before.size).2.2.2.2.1, matched]
    · rw [node_skipLast intact latest, if_neg (Nat.ne_of_gt inside), if_pos rfl]

end Rulebook.Match.Tree
