/-
This file says what a match tree looks like while it grows. Its nodes, listed depth first,
are exactly its indices in order; parents and children agree; the children of a node fill it
without gaps; and everything begins and ends between characters of the text.

These facts are kept by the three ways in which a tree grows: a child is attached, a token
matches at a child without children, and a latest child is marked as skipped. Each of them
happens at the right edge of the tree only. A node there is open: it is the latest child of
its parent, and so are all its ancestors.
-/

import Rulebook.Proofs.Text.Boundary
import Rulebook.Proofs.Tree.Growth

namespace Rulebook.Match.Tree

variable {chars : List Char} {node parent : Nat} {tree : Tree} {origin : Origin}

/-! ### What a tree looks like -/

/-- Some nodes, one after the other, fill the input between two offsets. -/
def Tiles (tree : Tree) : Nat → List Nat → Nat → Prop
  | start, [], stop => start = stop
  | start, child :: rest, stop =>
    (tree.node child).start = start ∧ tree.Tiles (tree.stop child) rest stop

/-- What a match tree looks like from outside. -/
structure WellFormed (chars : List Char) (tree : Tree) : Prop where
  /-- Depth first from the root, the nodes are listed in the order of their indices. -/
  listing : tree.reachable = List.range tree.size
  /-- The parent of a node is the node that lists it. -/
  parent_eq : ∀ id < tree.size, ∀ child ∈ (tree.node id).children,
    (tree.node child).parent = some id
  /-- The children of a node fill it. -/
  tiled : ∀ id < tree.size, (tree.node id).children ≠ #[] →
    tree.Tiles (tree.node id).start (tree.node id).children.toList (tree.node id).stop
  /-- The semantic children are those that were not skipped as whitespace. -/
  semantic_eq : ∀ id < tree.size, (tree.node id).semantic.toList =
    (tree.node id).children.toList.filter fun child => !(tree.node child).whitespace
  /-- Only tokens match input by themselves, and they have no children. -/
  terminal : ∀ id < tree.size, (tree.node id).terminal = true →
    (tree.node id).children = #[] ∧
      ∃ rule, (tree.node id).origin = .rule rule ∧ rule.isToken = true
  /-- Every node covers whole characters of the text. -/
  spans : ∀ id < tree.size, Boundary chars (tree.node id).start ∧
    Boundary chars (tree.node id).stop ∧ (tree.node id).start ≤ (tree.node id).stop

/-- What a match tree looks like, in the form that every change of the tree keeps. -/
structure Intact (chars : List Char) (tree : Tree) : Prop where
  nonempty : root < tree.size
  rising : tree.Rising
  parented : ∀ id < tree.size, (tree.node id).parent = none → id = root
  ordered : ∀ id, ∀ child ∈ (tree.node id).children,
    child < tree.size ∧ (tree.node child).parent = some id
  distinct : ∀ id, (tree.node id).children.toList.Nodup
  listing : tree.reachable = List.range tree.size
  /-- Until a token has matched at a node, the children of the node fill it, also if there
  are none. -/
  filled : ∀ id < tree.size, (tree.node id).terminal = false →
    tree.Tiles (tree.node id).start (tree.node id).children.toList (tree.stop id)
  semantic_eq : ∀ id, (tree.node id).semantic.toList =
    (tree.node id).children.toList.filter fun child => !(tree.node child).whitespace
  terminal : ∀ id, (tree.node id).terminal = true →
    (tree.node id).children = #[] ∧
      ∃ rule, (tree.node id).origin = .rule rule ∧ rule.isToken = true
  spans : ∀ id < tree.size, Boundary chars (tree.node id).start ∧
    Boundary chars (tree.stop id) ∧ (tree.node id).start ≤ tree.stop id

theorem Intact.wellFormed (intact : tree.Intact chars) : tree.WellFormed chars where
  listing := intact.listing
  parent_eq id _ child member := (intact.ordered id child member).2
  tiled id inside some := by
    refine intact.filled id inside ?_
    cases matched : (tree.node id).terminal with
    | false => rfl
    | true => exact absurd (intact.terminal id matched).1 some
  semantic_eq id _ := intact.semantic_eq id
  terminal id _ := intact.terminal id
  spans := intact.spans

/-- A node at the right edge of the tree, at which no token has matched. -/
structure Open (tree : Tree) (node : Nat) : Prop where
  inside : node < tree.size
  unmatched : (tree.node node).terminal = false
  latest : ∀ child ∈ tree.lineage node, ∀ parent, (tree.node child).parent = some parent →
    (tree.node parent).children.back? = some child

/-! ### Facts about tilings -/

theorem tiles_append {first second : List Nat} {start stop : Nat} :
    tree.Tiles start (first ++ second) stop ↔
      ∃ middle, tree.Tiles start first middle ∧ tree.Tiles middle second stop := by
  induction first generalizing start with
  | nil => simp [Tiles]
  | cons child rest inductionHypothesis =>
    rw [List.cons_append, Tiles, inductionHypothesis]
    constructor
    · rintro ⟨here, middle, left, right⟩
      exact ⟨middle, ⟨here, left⟩, right⟩
    · rintro ⟨middle, ⟨here, left⟩, right⟩
      exact ⟨here, middle, left, right⟩

theorem tiles_congr {other : Tree} {nodes : List Nat} {start stop : Nat}
    (same : ∀ id ∈ nodes, (other.node id).start = (tree.node id).start ∧
      other.stop id = tree.stop id) :
    other.Tiles start nodes stop ↔ tree.Tiles start nodes stop := by
  induction nodes generalizing start with
  | nil => exact Iff.rfl
  | cons child rest inductionHypothesis =>
    rw [Tiles, Tiles, (same child List.mem_cons_self).1, (same child List.mem_cons_self).2,
      inductionHypothesis fun id member => same id (List.mem_cons_of_mem _ member)]

/-! ### The listing of a tree -/

/-- Looking further down than there are nodes makes no difference. -/
theorem descendantsWithin_succ
    (ordered : ∀ id, ∀ child ∈ (tree.node id).children, id < child ∧ child < tree.size)
    {depth id : Nat} (inside : id < tree.size) (enough : tree.size - id ≤ depth) :
    tree.descendantsWithin (depth + 1) id = tree.descendantsWithin depth id := by
  induction depth generalizing id with
  | zero => omega
  | succ depth inductionHypothesis =>
    rw [descendantsWithin, descendantsWithin]
    refine congrArg (id :: ·) (List.flatMap_congr fun child member => ?_)
    obtain ⟨lt, bound⟩ := ordered id child (Array.mem_toList_iff.mp member)
    exact inductionHypothesis bound (by omega)

/-- A listing depends only on who are the children of whom. -/
theorem descendantsWithin_congr {other : Tree}
    (same : ∀ id, (other.node id).children = (tree.node id).children) (depth id : Nat) :
    other.descendantsWithin depth id = tree.descendantsWithin depth id := by
  induction depth generalizing id with
  | zero => rfl
  | succ depth inductionHypothesis =>
    rw [descendantsWithin, descendantsWithin, same id]
    exact congrArg (id :: ·) (List.flatMap_congr fun child _ => inductionHypothesis child)

theorem descendantsWithin_attach_new (inside : parent < tree.size) (depth : Nat) :
    (tree.attach parent origin).descendantsWithin (depth + 1) tree.size = [tree.size] := by
  rw [descendantsWithin, node_attach_new inside]
  rfl

/-- A child attached below none of some nodes does not change their listing. -/
theorem flatMap_attach_outside {depth : Nat} {nodes : List Nat}
    (below : ∀ child ∈ nodes, (tree.attach parent origin).descendantsWithin depth child =
      tree.descendantsWithin depth child ++
        if child ∈ tree.lineage parent then [tree.size] else [])
    (outside : ∀ child ∈ nodes, child ∉ tree.lineage parent) :
    nodes.flatMap ((tree.attach parent origin).descendantsWithin depth) =
      nodes.flatMap (tree.descendantsWithin depth) :=
  List.flatMap_congr fun child member => by
    rw [below child member, if_neg (outside child member), List.append_nil]

/-- Below any node of a lineage except the last, the lineage goes on with a child. -/
theorem exists_child_mem_lineage (rising : tree.Rising) {id : Nat}
    (member : id ∈ tree.lineage node) (notLast : id ≠ node) :
    ∃ child ∈ tree.lineage node, (tree.node child).parent = some id := by
  induction node using lineage_induction rising with
  | top node found =>
    rw [lineage_of_no_parent found, List.mem_singleton] at member
    exact absurd member notLast
  | below node above found inductionHypothesis =>
    rw [lineage_of_parent rising found] at member ⊢
    rcases List.mem_cons.mp member with same | higher
    · exact absurd same notLast
    · by_cases next : id = above
      · exact ⟨node, List.mem_cons_self, by rw [next, found]⟩
      · obtain ⟨child, within, isParent⟩ := inductionHypothesis higher next
        exact ⟨child, List.mem_cons_of_mem _ within, isParent⟩

namespace Intact

variable (intact : tree.Intact chars)
include intact

theorem lt_of_child {id child : Nat} (member : child ∈ (tree.node id).children) :
    id < child :=
  intact.rising child id (intact.ordered id child member).2

/-- The root is the ancestor of every node. -/
theorem root_mem_lineage (inside : node < tree.size) : root ∈ tree.lineage node := by
  induction node using lineage_induction intact.rising with
  | top node found =>
    rw [intact.parented node inside found]
    exact mem_lineage_self tree root
  | below node above found inductionHypothesis =>
    rw [lineage_of_parent intact.rising found]
    exact List.mem_cons_of_mem _
      (inductionHypothesis (Nat.lt_trans (intact.rising node above found) inside))

/-- A node of the lineage of an open node, other than that node, has the next node of the
lineage as its latest child, and no other node of the lineage as a child. -/
theorem children_of_mem_lineage (isOpen : tree.Open node) {id : Nat}
    (member : id ∈ tree.lineage node) (notLast : id ≠ node) :
    ∃ earlier latest, (tree.node id).children.toList = earlier ++ [latest] ∧
      latest ∈ tree.lineage node ∧ ∀ child ∈ earlier, child ∉ tree.lineage node := by
  obtain ⟨latest, within, isParent⟩ := exists_child_mem_lineage intact.rising member notLast
  have last := isOpen.latest latest within id isParent
  rw [← Array.getLast?_toList] at last
  obtain ⟨earlier, equal⟩ := List.getLast?_eq_some_iff.mp last
  refine ⟨earlier, latest, equal, within, fun child early inLineage => ?_⟩
  have listed : child ∈ (tree.node id).children := by
    rw [← Array.mem_toList_iff, equal]
    exact List.mem_append_left _ early
  have same := eq_of_mem_lineage intact.rising inLineage within
    (intact.ordered id child listed).2 isParent
  have distinct := intact.distinct id
  rw [equal, same.symm] at distinct
  exact (List.nodup_append.mp distinct).2.2 child early child List.mem_cons_self rfl

/-- The children of a node outside a lineage are outside as well. -/
theorem child_notMem_lineage {id child : Nat} (outside : id ∉ tree.lineage node)
    (member : child ∈ (tree.node id).children) : child ∉ tree.lineage node :=
  fun within => outside
    (parent_mem_lineage intact.rising within (intact.ordered id child member).2)

/-- A child attached to an open node comes last in every listing that it belongs to. -/
theorem descendantsWithin_attach (isOpen : tree.Open parent) {depth id : Nat}
    (inside : id < tree.size) (enough : tree.size - id < depth) :
    (tree.attach parent origin).descendantsWithin depth id =
      tree.descendantsWithin depth id ++
        if id ∈ tree.lineage parent then [tree.size] else [] := by
  induction depth generalizing id with
  | zero => omega
  | succ depth inductionHypothesis =>
    have below : ∀ child ∈ (tree.node id).children.toList,
        (tree.attach parent origin).descendantsWithin depth child =
          tree.descendantsWithin depth child ++
            if child ∈ tree.lineage parent then [tree.size] else [] := by
      intro child member
      have lt := intact.lt_of_child (Array.mem_toList_iff.mp member)
      have bound := (intact.ordered id child (Array.mem_toList_iff.mp member)).1
      exact inductionHypothesis bound (by omega)
    rw [descendantsWithin, descendantsWithin, List.cons_append]
    refine congrArg (id :: ·) ?_
    by_cases same : id = parent
    · rw [same] at below inside enough ⊢
      have outside : ∀ child ∈ (tree.node parent).children.toList,
          child ∉ tree.lineage parent := by
        intro child member within
        have lt := intact.lt_of_child (Array.mem_toList_iff.mp member)
        have le := le_of_mem_lineage intact.rising within
        omega
      obtain ⟨deeper, rfl⟩ : ∃ deeper, depth = deeper + 1 := ⟨depth - 1, by omega⟩
      rw [node_attach_parent isOpen.inside, if_pos (mem_lineage_self tree parent), Node.adopt,
        Array.toList_push, List.flatMap_append, List.flatMap_singleton,
        descendantsWithin_attach_new isOpen.inside, flatMap_attach_outside below outside]
    · rw [node_attach_other same (Nat.ne_of_lt inside)]
      by_cases member : id ∈ tree.lineage parent
      · obtain ⟨earlier, latest, equal, within, outside⟩ :=
          intact.children_of_mem_lineage isOpen member same
        rw [equal] at below ⊢
        rw [if_pos member, List.flatMap_append, List.flatMap_append, List.flatMap_singleton,
          List.flatMap_singleton, below latest (by simp), if_pos within, List.append_assoc,
          flatMap_attach_outside
            (fun child early => below child (List.mem_append_left _ early)) outside]
      · rw [if_neg member, List.append_nil]
        exact flatMap_attach_outside below fun child listed =>
          intact.child_notMem_lineage member (Array.mem_toList_iff.mp listed)

theorem reachable_attach (isOpen : tree.Open parent) :
    (tree.attach parent origin).reachable =
      List.range (tree.attach parent origin).size := by
  have ordered : ∀ id, ∀ child ∈ (tree.node id).children, id < child ∧ child < tree.size :=
    fun id child member => ⟨intact.lt_of_child member, (intact.ordered id child member).1⟩
  rw [reachable, size_attach, intact.descendantsWithin_attach isOpen intact.nonempty
      (Nat.lt_succ_of_le (Nat.sub_le _ _)),
    if_pos (intact.root_mem_lineage isOpen.inside),
    descendantsWithin_succ ordered intact.nonempty (Nat.sub_le _ _), List.range_succ]
  exact congrArg (· ++ _) intact.listing

/-- All nodes of the lineage of an open node end where that node ends. -/
theorem stop_of_mem_lineage (isOpen : tree.Open node) {id : Nat}
    (member : id ∈ tree.lineage node) : tree.stop id = tree.stop node := by
  induction node using lineage_induction intact.rising with
  | top node found =>
    rw [lineage_of_no_parent found, List.mem_singleton] at member
    rw [member]
  | below node above found inductionHypothesis =>
    have lineage_eq := lineage_of_parent intact.rising found
    have aboveLt := intact.rising node above found
    have last := isOpen.latest node (mem_lineage_self tree node) above found
    have unmatched : (tree.node above).terminal = false := by
      cases matched : (tree.node above).terminal with
      | false => rfl
      | true =>
        rw [(intact.terminal above matched).1] at last
        cases last
    have aboveOpen : tree.Open above :=
      ⟨Nat.lt_trans aboveLt isOpen.inside, unmatched, fun child within =>
        isOpen.latest child (by rw [lineage_eq]; exact List.mem_cons_of_mem _ within)⟩
    have stop_eq : tree.stop above = tree.stop node := by
      rw [← Array.getLast?_toList] at last
      obtain ⟨earlier, equal⟩ := List.getLast?_eq_some_iff.mp last
      have filled := intact.filled above aboveOpen.inside unmatched
      rw [equal, tiles_append] at filled
      obtain ⟨middle, -, -, ends⟩ := filled
      exact ends.symm
    rw [lineage_eq] at member
    rcases List.mem_cons.mp member with same | higher
    · rw [same]
    · rw [inductionHypothesis aboveOpen higher, stop_eq]

end Intact

/-- A tree with nothing but its root. -/
theorem intact_new (chars : List Char) : Tree.new.Intact chars := by
  have node_new : ∀ id, new.node id =
      if id = 0 then { origin := .root, parent := none, start := 0, stop := 0 } else default := by
    intro id
    cases id <;> rfl
  have childless : ∀ id, (new.node id).children = #[] := by
    intro id
    rw [node_new]
    split <;> rfl
  have unmatched : ∀ id, (new.node id).terminal = false := by
    intro id
    rw [node_new]
    split <;> rfl
  have only : ∀ id, id < new.size → id = 0 := fun id inside => Nat.lt_one_iff.mp inside
  refine ⟨Nat.zero_lt_one, ?_, fun id inside _ => only id inside, ?_, ?_, rfl, ?_, ?_, ?_, ?_⟩
  · intro id parent found
    rw [node_new] at found
    split at found <;> cases found
  · intro id child member
    rw [childless] at member
    exact absurd member (Array.not_mem_empty child)
  · intro id
    rw [childless]
    exact List.nodup_nil
  · intro id inside _
    rw [only id inside]
    rfl
  · intro id
    rw [childless, node_new]
    split <;> rfl
  · intro id matched
    rw [unmatched] at matched
    cases matched
  · intro id inside
    rw [only id inside]
    exact ⟨boundary_zero chars, boundary_zero chars, Nat.le_refl 0⟩

theorem open_new : Tree.new.Open root where
  inside := Nat.zero_lt_one
  unmatched := rfl
  latest child member parent found := by
    rw [lineage_of_no_parent rfl, List.mem_singleton] at member
    rw [member] at found
    cases found

end Rulebook.Match.Tree
