/-
This file shows that the tokens of a match tree make up the text that the tree covers. The
children of a node fill it and a node at which a token has matched has no children, so the
texts of the tokens at and below a node, in the order in which the nodes are listed, are the
text of the node.
-/

import Rulebook.Proofs.Tree.Shape

namespace Rulebook.Match.Tree

variable {source : Source} {tree : Tree}

/-- The texts of the tokens that matched at some nodes, one after the other. -/
def tokenText (tree : Tree) (source : Source) (ids : List Nat) : String :=
  String.join ((ids.filter fun id => (tree.node id).terminal).map fun id =>
    source.slice (tree.node id).start (tree.stop id))

@[simp]
theorem tokenText_nil : tree.tokenText source [] = "" :=
  String.join_nil

theorem tokenText_append (first second : List Nat) :
    tree.tokenText source (first ++ second) =
      tree.tokenText source first ++ tree.tokenText source second := by
  rw [tokenText, List.filter_append, List.map_append, String.join_append]
  rfl

theorem tokenText_cons_matched {id : Nat} (matched : (tree.node id).terminal = true)
    (ids : List Nat) : tree.tokenText source (id :: ids) =
      source.slice (tree.node id).start (tree.stop id) ++ tree.tokenText source ids := by
  rw [tokenText, List.filter_cons, if_pos matched, List.map_cons, String.join_cons]
  rfl

theorem tokenText_cons_unmatched {id : Nat} (unmatched : (tree.node id).terminal = false)
    (ids : List Nat) : tree.tokenText source (id :: ids) = tree.tokenText source ids := by
  rw [tokenText, List.filter_cons, unmatched, if_neg Bool.false_ne_true]
  rfl

/-- Nodes that fill a stretch of text with their own texts have the text of the stretch. -/
theorem Tiles.tokenText_eq (faithful : source.Faithful) {nodes : List Nat} {start stop : Nat}
    (tiles : tree.Tiles start nodes stop) (first : Boundary source.chars start)
    (list : Nat → List Nat)
    (spans : ∀ id ∈ nodes, Boundary source.chars (tree.stop id) ∧
      (tree.node id).start ≤ tree.stop id)
    (texts : ∀ id ∈ nodes, tree.tokenText source (list id) =
      source.slice (tree.node id).start (tree.stop id)) :
    tree.tokenText source (nodes.flatMap list) = source.slice start stop ∧ start ≤ stop ∧
      Boundary source.chars stop := by
  induction nodes generalizing start with
  | nil =>
    obtain rfl : start = stop := tiles
    rw [List.flatMap_nil, tokenText_nil, faithful.slice_self first]
    exact ⟨rfl, Nat.le_refl _, first⟩
  | cons child rest inductionHypothesis =>
    obtain ⟨starts, tiled⟩ := tiles
    obtain ⟨middle, le⟩ := spans child List.mem_cons_self
    obtain ⟨equal, restLe, last⟩ := inductionHypothesis tiled middle
      (fun id member => spans id (List.mem_cons_of_mem _ member))
      (fun id member => texts id (List.mem_cons_of_mem _ member))
    rw [starts] at le
    refine ⟨?_, Nat.le_trans le restLe, last⟩
    rw [List.flatMap_cons, tokenText_append, texts child List.mem_cons_self, equal, starts,
      faithful.slice_append first middle last le restLe]

/-- Tokens that fill a stretch of text have the text of the stretch. -/
theorem Tiles.tokenText_of_matched (faithful : source.Faithful) {nodes : List Nat}
    {start stop : Nat} (tiles : tree.Tiles start nodes stop) (first : Boundary source.chars start)
    (matched : ∀ id ∈ nodes, (tree.node id).terminal = true)
    (spans : ∀ id ∈ nodes, Boundary source.chars (tree.stop id) ∧
      (tree.node id).start ≤ tree.stop id) :
    tree.tokenText source nodes = source.slice start stop ∧ start ≤ stop := by
  obtain ⟨text, le, -⟩ := tiles.tokenText_eq faithful first (fun id => [id]) spans
    fun id member => by
      rw [tokenText_cons_matched (matched id member), tokenText_nil, String.append_empty]
  rw [List.flatMap_singleton'] at text
  exact ⟨text, le⟩

namespace Intact

variable (intact : tree.Intact source.chars) (faithful : source.Faithful)
include intact faithful

theorem tokenText_descendantsWithin {depth id : Nat} (inside : id < tree.size)
    (enough : tree.size - id ≤ depth) :
    tree.tokenText source (tree.descendantsWithin depth id) =
      source.slice (tree.node id).start (tree.stop id) := by
  induction depth generalizing id with
  | zero => omega
  | succ depth inductionHypothesis =>
    rw [descendantsWithin]
    cases matched : (tree.node id).terminal with
    | true =>
      rw [tokenText_cons_matched matched, (intact.terminal id matched).1]
      exact String.append_empty
    | false =>
      rw [tokenText_cons_unmatched matched]
      have ordered : ∀ child ∈ (tree.node id).children.toList,
          id < child ∧ child < tree.size := by
        intro child member
        have listed := Array.mem_toList_iff.mp member
        exact ⟨intact.lt_of_child listed, (intact.ordered id child listed).1⟩
      refine (Tiles.tokenText_eq faithful (intact.filled id inside matched)
        (intact.spans id inside).1 _ (fun child member => ?_) fun child member => ?_).1
      · exact (intact.spans child (ordered child member).2).2
      · have bounds := ordered child member
        exact inductionHypothesis bounds.2 (by omega)

/-- The tokens of a tree make up the text that the root covers. -/
theorem tokenText_reachable : tree.tokenText source tree.reachable =
    source.slice (tree.node root).start (tree.stop root) :=
  intact.tokenText_descendantsWithin faithful intact.nonempty (Nat.sub_le _ _)

end Intact

end Rulebook.Match.Tree
