/-
This file says on what the node of a match depends. A rule makes its node from the nodes of its
semantic children and from nothing else below them. So it makes no difference to look further down
a tree than there are nodes, and the node of a match is what its rule makes from the nodes of the
children.
-/

import Rulebook.Proofs.Ast.Whitespace
import Rulebook.Proofs.Tree.Makeup

namespace Rulebook.Ast.Builder

open Match (Tree)

variable {builder : Builder} {build build' : Nat → Node} {rule : Rule} {id depth : Nat}
  {name : String}

/-! ### Rules look at their semantic children -/

theorem sequenceParts_congr {names : List (String × Nat)} {count : Nat}
    {parts : List (SequenceItem × Nat)}
    (same : ∀ part ∈ parts, build part.2 = build' part.2) :
    builder.sequenceParts build names count parts =
      builder.sequenceParts build' names count parts := by
  induction parts generalizing names count with
  | nil => rfl
  | cons part rest inductionHypothesis =>
    obtain ⟨item, child⟩ := part
    have here : build child = build' child := same (item, child) List.mem_cons_self
    have later : ∀ names count, builder.sequenceParts build names count rest =
        builder.sequenceParts build' names count rest := fun _ _ =>
      inductionHypothesis fun part member => same part (List.mem_cons_of_mem _ member)
    simp only [sequenceParts, here, later]

theorem foldLeft_congr {folded : Node} {chain : List Nat}
    (same : ∀ id ∈ chain, build id = build' id) :
    foldLeft build name folded chain = foldLeft build' name folded chain := by
  induction chain using List.twoStepInduction generalizing folded with
  | nil => rfl
  | singleton sign => rfl
  | cons_cons sign operand rest inductionHypothesis _ =>
    obtain ⟨onSign, onOperand, later⟩ : build sign = build' sign ∧ build operand = build' operand ∧
        ∀ id ∈ rest, build id = build' id := by
      simpa using same
    rw [foldLeft, foldLeft, onSign, onOperand, inductionHypothesis later]

theorem foldRight_congr {chain : List Nat} (same : ∀ id ∈ chain, build id = build' id) :
    foldRight build name chain = foldRight build' name chain := by
  induction chain using List.twoStepInduction with
  | nil => rfl
  | singleton operand => exact same operand (List.mem_singleton_self operand)
  | cons_cons operand sign rest inductionHypothesis _ =>
    obtain ⟨onOperand, onSign, later⟩ : build operand = build' operand ∧ build sign = build' sign ∧
        ∀ id ∈ rest, build id = build' id := by
      simpa using same
    rw [foldRight, foldRight, onSign, onOperand, inductionHypothesis later]

section

variable (same : ∀ child ∈ builder.semantic id, build child = build' child)
include same

theorem sequenceNode_congr (items : List SequenceItem) :
    builder.sequenceNode build name items id = builder.sequenceNode build' name items id := by
  rw [sequenceNode, sequenceNode,
    sequenceParts_congr fun part member => same part.2 (List.of_mem_zip member).2]

theorem standIn_congr (wrap : Bool) :
    builder.standIn build name wrap id = builder.standIn build' name wrap id := by
  rw [standIn, standIn]
  cases latest : (builder.semantic id).getLast? with
  | none => rfl
  | some chosen =>
    dsimp only
    rw [same chosen (List.mem_of_getLast? latest)]

theorem listNode_congr (list : ListRule) :
    builder.listNode build name list id = builder.listNode build' name list id := by
  rw [listNode, listNode, List.map_congr_left fun child member =>
    same child (mem_semantic_of_mem_items (List.mem_filter.mp member).1)]

theorem setNode_congr (set : SetRule) :
    builder.setNode build name set id = builder.setNode build' name set id := by
  rw [setNode, setNode, List.map_congr_left fun child member =>
    same child (mem_semantic_of_mem_items member)]

theorem operatorNode_congr (operator : OperatorRule) :
    builder.operatorNode build name operator id =
      builder.operatorNode build' name operator id := by
  rw [operatorNode, operatorNode]
  cases operator.associativity with
  | right => exact foldRight_congr same
  | left =>
    cases chain : builder.semantic id with
    | nil => rfl
    | cons first rest =>
      rw [chain] at same
      dsimp only
      rw [same first List.mem_cons_self, foldLeft_congr same,
        foldLeft_congr fun id member => same id (List.mem_cons_of_mem _ member)]

/-- The node of a rule depends on the nodes of the semantic children only. -/
theorem ruleNode_congr (rule : Rule) :
    builder.ruleNode build rule id = builder.ruleNode build' rule id := by
  rw [ruleNode, ruleNode]
  cases rule.kind with
  | token token => rfl
  | sequence items => exact sequenceNode_congr same items
  | choice choice => exact standIn_congr same choice.wrap
  | list list => exact listNode_congr same list
  | set set => exact setNode_congr same set
  | operator operator => exact operatorNode_congr same operator
  | imported target => exact standIn_congr same target.wrap

end

/-! ### How far down to look -/

section

variable {chars : List Char} (intact : builder.tree.Intact chars)
include intact

/-- Semantic children come after their parent. -/
theorem lt_of_mem_semantic {child : Nat} (listed : child ∈ builder.semantic id) :
    id < child ∧ child < builder.tree.size := by
  rw [semantic, intact.semantic_eq id] at listed
  have among := Array.mem_toList_iff.mp (List.mem_filter.mp listed).1
  exact ⟨intact.lt_of_child among, (intact.ordered id child among).1⟩

/-- Looking further down than there are nodes makes no difference. -/
theorem buildWithin_succ (inside : id < builder.tree.size)
    (enough : builder.tree.size - id ≤ depth) :
    builder.buildWithin (depth + 1) id = builder.buildWithin depth id := by
  induction depth generalizing id with
  | zero => omega
  | succ depth inductionHypothesis =>
    have below : ∀ child ∈ builder.semantic id,
        builder.buildWithin (depth + 1) child = builder.buildWithin depth child := by
      intro child listed
      obtain ⟨less, childInside⟩ := lt_of_mem_semantic intact listed
      exact inductionHypothesis childInside (by omega)
    rw [buildWithin, buildWithin]
    cases (builder.tree.node id).origin with
    | root =>
      dsimp only
      cases first : (builder.semantic id).head? with
      | none => rfl
      | some child => exact below child (List.mem_of_mem_head? first)
    | lambda name => rfl
    | rule rule => exact congrArg (Node.withSource _) (ruleNode_congr below rule)

/-- The node of a match is what its rule makes of the nodes of the children, given the source of
the match. -/
theorem build_of_rule (isRule : (builder.tree.node id).origin = .rule rule) :
    builder.build id =
      (builder.ruleNode builder.build rule id).withSource (builder.sourceText id) := by
  have inside := Tree.inside_of_rule isRule
  obtain ⟨depth, size_eq⟩ : ∃ depth, builder.tree.size = depth + 1 :=
    ⟨builder.tree.size - 1, by omega⟩
  have below : ∀ child ∈ builder.semantic id,
      builder.buildWithin depth child = builder.build child := by
    intro child listed
    obtain ⟨less, childInside⟩ := lt_of_mem_semantic intact listed
    rw [build, size_eq]
    exact (buildWithin_succ intact childInside (by omega)).symm
  rw [build, size_eq, buildWithin, isRule]
  exact congrArg (Node.withSource _) (ruleNode_congr below rule)

end

end Rulebook.Ast.Builder
