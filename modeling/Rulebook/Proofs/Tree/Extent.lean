/-
This file is about the stretch of input that a node covers, without the whitespace that was
skipped at its end. The stretch begins where the node begins, and it ends where the stretch of the
latest child ends that took input and was not skipped. So the stretch of a child lies in that of
its parent, unless it is empty.
-/

import Rulebook.Proofs.Tree.Shape

namespace Rulebook.Match.Tree

variable {chars : List Char} {tree : Tree} {id child depth : Nat}

/-- A child counts as content of its parent. -/
def isContent (tree : Tree) (child : Nat) : Bool :=
  !(tree.node child).whitespace && 0 < (tree.node child).consumed

/-- Nodes that fill a stretch lie in it. -/
theorem Tiles.within {nodes : List Nat} {start stop : Nat} (tiles : tree.Tiles start nodes stop)
    (spans : ∀ id ∈ nodes, (tree.node id).start ≤ tree.stop id) :
    start ≤ stop ∧ ∀ child ∈ nodes, start ≤ (tree.node child).start ∧ tree.stop child ≤ stop := by
  induction nodes generalizing start with
  | nil => exact ⟨Nat.le_of_eq tiles, fun _ absurd => by cases absurd⟩
  | cons first rest inductionHypothesis =>
    obtain ⟨starts, later⟩ := tiles
    obtain ⟨le, inner⟩ := inductionHypothesis later
      fun id member => spans id (List.mem_cons_of_mem _ member)
    have here := spans first List.mem_cons_self
    rw [starts] at here
    refine ⟨Nat.le_trans here le, fun child member => ?_⟩
    rcases List.mem_cons.mp member with rfl | member
    · exact ⟨Nat.le_of_eq starts.symm, le⟩
    · have bounds := inner child member
      exact ⟨Nat.le_trans here bounds.1, bounds.2⟩

theorem contentEndWithin_of_terminal (terminal : (tree.node id).terminal = true) (depth : Nat) :
    tree.contentEndWithin depth id = tree.stop id := by
  cases depth with
  | zero => rfl
  | succ depth =>
    rw [contentEndWithin, terminal, Bool.true_or, if_pos rfl]
    rfl

/-- The content of a token ends where the token ends. -/
theorem contentEnd_of_terminal (terminal : (tree.node id).terminal = true) :
    tree.contentEnd id = tree.stop id :=
  contentEndWithin_of_terminal terminal tree.size

namespace Intact

variable (intact : tree.Intact chars)
include intact

theorem child_inside (listed : child ∈ (tree.node id).children.toList) : child < tree.size :=
  (intact.ordered id child (Array.mem_toList_iff.mp listed)).1

theorem parent_inside (listed : child ∈ (tree.node id).children.toList) : id < tree.size :=
  Nat.lt_trans (intact.lt_of_child (Array.mem_toList_iff.mp listed)) (intact.child_inside listed)

/-- Where a token has matched, there are no children. -/
theorem unmatched_of_child (listed : child ∈ (tree.node id).children.toList) :
    (tree.node id).terminal = false := by
  cases terminal : (tree.node id).terminal with
  | false => rfl
  | true =>
    rw [(intact.terminal id terminal).1] at listed
    cases listed

theorem spans_children (id : Nat) : ∀ child ∈ (tree.node id).children.toList,
    (tree.node child).start ≤ tree.stop child :=
  fun _ listed => (intact.spans _ (intact.child_inside listed)).2.2

/-- The content of a node ends where that of its latest child ends that counts, or else nothing
counts. -/
theorem contentEndWithin_cases (inside : id < tree.size)
    (unmatched : (tree.node id).terminal = false) (depth : Nat) :
    (∃ earlier child later, (tree.node id).children.toList = earlier ++ child :: later ∧
      tree.isContent child = true ∧ (∀ other ∈ later, tree.isContent other = false) ∧
      tree.contentEndWithin (depth + 1) id = tree.contentEndWithin depth child) ∨
    (∀ child ∈ (tree.node id).children.toList, tree.isContent child = false) ∧
      tree.contentEndWithin (depth + 1) id = (tree.node id).start := by
  rw [contentEndWithin, unmatched, Bool.false_or]
  by_cases none : (tree.node id).children.isEmpty = true
  · have filled := intact.filled id inside unmatched
    rw [if_pos none]
    rw [Array.isEmpty_iff.mp none] at filled ⊢
    exact .inr ⟨fun _ absurd => (by cases absurd), Eq.symm filled⟩
  · rw [if_neg none]
    cases found : (tree.node id).children.toList.reverse.find? fun child =>
        !(tree.node child).whitespace && 0 < (tree.node child).consumed with
    | none =>
      refine .inr ⟨fun child listed => ?_, rfl⟩
      exact Bool.eq_false_iff.mpr
        (List.find?_eq_none.mp found child (List.mem_reverse.mpr listed))
    | some child =>
      obtain ⟨counts, later, earlier, split, others⟩ := List.find?_eq_some_iff_append.mp found
      refine .inl ⟨earlier.reverse, child, later.reverse, ?_, counts, fun other member => ?_, rfl⟩
      · rw [← List.reverse_reverse (tree.node id).children.toList, split]
        simp
      · exact (Bool.not_eq_true' _).mp (others other (List.mem_reverse.mp member))

/-- The content of a node ends inside of the node, between two characters. -/
theorem contentEndWithin_bounds (inside : id < tree.size) (depth : Nat) :
    (tree.node id).start ≤ tree.contentEndWithin depth id ∧
      tree.contentEndWithin depth id ≤ tree.stop id ∧
        Boundary chars (tree.contentEndWithin depth id) := by
  obtain ⟨first, last, le⟩ := intact.spans id inside
  induction depth generalizing id with
  | zero => exact ⟨le, Nat.le_refl _, last⟩
  | succ depth inductionHypothesis =>
    cases terminal : (tree.node id).terminal with
    | true =>
      rw [contentEndWithin_of_terminal terminal]
      exact ⟨le, Nat.le_refl _, last⟩
    | false =>
      rcases intact.contentEndWithin_cases inside terminal depth with
        ⟨earlier, child, later, split, -, -, equal⟩ | ⟨-, equal⟩
      · have listed : child ∈ (tree.node id).children.toList := by
          rw [split]
          exact List.mem_append_right _ List.mem_cons_self
        have inside' := intact.child_inside listed
        obtain ⟨first', last', le'⟩ := intact.spans child inside'
        obtain ⟨after, before, boundary⟩ := inductionHypothesis inside' first' last' le'
        obtain ⟨starts, stops⟩ := ((intact.filled id inside terminal).within
          (intact.spans_children id)).2 child listed
        rw [equal]
        exact ⟨Nat.le_trans starts after, Nat.le_trans before stops, boundary⟩
      · rw [equal]
        exact ⟨Nat.le_refl _, le, first⟩

/-- Looking further down than there are nodes makes no difference. -/
theorem contentEndWithin_succ (inside : id < tree.size) (enough : tree.size - id ≤ depth) :
    tree.contentEndWithin (depth + 1) id = tree.contentEndWithin depth id := by
  induction depth generalizing id with
  | zero => omega
  | succ depth inductionHypothesis =>
    rw [contentEndWithin, contentEndWithin]
    split
    · rfl
    · split
      · rename_i child found
        have listed := List.mem_reverse.mp (List.mem_of_find?_eq_some found)
        have less := intact.lt_of_child (Array.mem_toList_iff.mp listed)
        exact inductionHypothesis (intact.child_inside listed) (by omega)
      · rfl

theorem contentEnd_bounds (inside : id < tree.size) :
    (tree.node id).start ≤ tree.contentEnd id ∧ tree.contentEnd id ≤ tree.stop id ∧
      Boundary chars (tree.contentEnd id) :=
  intact.contentEndWithin_bounds inside tree.size

theorem contentEnd_cases (inside : id < tree.size)
    (unmatched : (tree.node id).terminal = false) :
    (∃ earlier child later, (tree.node id).children.toList = earlier ++ child :: later ∧
      tree.isContent child = true ∧ (∀ other ∈ later, tree.isContent other = false) ∧
      tree.contentEnd id = tree.contentEnd child) ∨
    (∀ child ∈ (tree.node id).children.toList, tree.isContent child = false) ∧
      tree.contentEnd id = (tree.node id).start := by
  obtain ⟨depth, size_eq⟩ : ∃ depth, tree.size = depth + 1 := ⟨tree.size - 1, by omega⟩
  have cases := intact.contentEndWithin_cases inside unmatched depth
  rw [← size_eq] at cases
  refine cases.imp_left fun ⟨earlier, child, later, split, counts, others, equal⟩ =>
    ⟨earlier, child, later, split, counts, others, ?_⟩
  have listed : child ∈ (tree.node id).children.toList := by
    rw [split]
    exact List.mem_append_right _ List.mem_cons_self
  have less := intact.lt_of_child (Array.mem_toList_iff.mp listed)
  rw [contentEnd, equal, contentEnd, size_eq,
    intact.contentEndWithin_succ (intact.child_inside listed) (by omega)]

/-- The stretch of a child that was not skipped is empty, or it lies in that of its parent. -/
theorem stretch_of_child (listed : child ∈ (tree.node id).children.toList)
    (unskipped : (tree.node child).whitespace = false) :
    tree.contentEnd child = (tree.node child).start ∨
      (tree.node id).start ≤ (tree.node child).start ∧
        tree.contentEnd child ≤ tree.contentEnd id := by
  have inside := intact.child_inside listed
  obtain ⟨after, before, -⟩ := intact.contentEnd_bounds inside
  by_cases consumed : 0 < (tree.node child).consumed
  · have counts : tree.isContent child = true := by
      rw [isContent, unskipped]
      exact decide_eq_true consumed
    have inside' := intact.parent_inside listed
    have unmatched := intact.unmatched_of_child listed
    have filled := intact.filled id inside' unmatched
    refine .inr ⟨((filled.within (intact.spans_children id)).2 child listed).1, ?_⟩
    rcases intact.contentEnd_cases inside' unmatched with
      ⟨earlier, latest, later, split, -, others, equal⟩ | ⟨others, -⟩
    · rw [equal]
      rw [split] at listed
      have spans := intact.spans_children id
      rw [split] at filled spans
      obtain ⟨middle, left, starts, -⟩ := tiles_append.mp filled
      rcases List.mem_append.mp listed with early | late
      · have bound := ((left.within fun other member =>
          spans other (List.mem_append_left _ member)).2 child early).2
        have latestInside : latest < tree.size := intact.child_inside (by
          rw [split]
          exact List.mem_append_right _ List.mem_cons_self)
        have start_le := (intact.contentEnd_bounds latestInside).1
        omega
      · rcases List.mem_cons.mp late with rfl | late
        · exact Nat.le_refl _
        · rw [others child late] at counts
          cases counts
    · rw [others child listed] at counts
      cases counts
  · rw [Node.consumed] at consumed
    rw [stop] at before
    exact .inl (by omega)

/-- A node with one child that was not skipped ends where that child ends, without whitespace, or
nothing was taken by either. -/
theorem contentEnd_of_alone (listed : child ∈ (tree.node id).children.toList)
    (unskipped : (tree.node child).whitespace = false)
    (alone : ∀ other ∈ (tree.node id).children.toList, (tree.node other).whitespace = false →
      other = child) :
    tree.contentEnd id = tree.contentEnd child ∨
      tree.contentEnd id = (tree.node id).start ∧
        tree.contentEnd child = (tree.node child).start := by
  have inside := intact.child_inside listed
  rcases intact.contentEnd_cases (intact.parent_inside listed)
      (intact.unmatched_of_child listed) with
    ⟨_, latest, _, split, counts, -, equal⟩ | ⟨empty, equal⟩
  · have among : latest ∈ (tree.node id).children.toList := by
      rw [split]
      exact List.mem_append_right _ List.mem_cons_self
    have kept := (Bool.not_eq_true' _).mp (Bool.and_eq_true_iff.mp counts).1
    rw [alone latest among kept] at equal
    exact .inl equal
  · have none := empty child listed
    rw [isContent, unskipped, Bool.not_false, Bool.true_and, decide_eq_false_iff_not,
      Node.consumed] at none
    obtain ⟨after, before, -⟩ := intact.contentEnd_bounds inside
    rw [stop] at before
    exact .inr ⟨equal, by omega⟩

end Intact

end Rulebook.Match.Tree
