/-
This file says how the sources of a syntax tree nest. A node that is made for a match keeps the
input that the match took, without the whitespace skipped at its end, and the sources of its
children are pieces of its own. The one exception is a chain of operators: the applications inside
of it are made without a source, though their children have one.
-/

import Rulebook.Proofs.Ast.Composition
import Rulebook.Proofs.Parse.Assembly
import Rulebook.Proofs.Tree.Extent

namespace Rulebook

open Match (Origin Tree)

/-- The sources of the children of a node are pieces of its own source. -/
def Ast.Node.Encloses (node : Ast.Node) : Prop :=
  ∀ child ∈ node.children, child.source.toList <:+: node.source.toList

namespace Ast.Builder

variable {builder : Builder} {rule : Rule} {id child depth : Nat} {node : Node}

/-! ### What sources are -/

/-- An application inside of a chain with more than one operator: it is a node around the node of
an operator of the chain and two operands, and it has no source. -/
def IsInnerApplication (builder : Builder) (node : Node) : Prop :=
  ∃ id rule operator, (builder.tree.node id).origin = .rule rule ∧
    rule.kind = .operator operator ∧ 5 ≤ (builder.semantic id).length ∧
    node.name = rule.name ∧ node.source = "" ∧
    ∃ depth, ∃ sign ∈ builder.semantic id, ∃ left right,
      node.children = [builder.buildWithin depth sign, left, right]

/-- A node has the source of a match, if it is composite, and it encloses its children. -/
def IsSourced (builder : Builder) (node : Node) : Prop :=
  (node.isComposite = true → ∃ id rule, (builder.tree.node id).origin = .rule rule ∧
    node.source = builder.sourceText id) ∧ node.Encloses

/-- A node that is made for a match, and all nodes below it. -/
structure Nested (builder : Builder) (id : Nat) (node : Node) : Prop where
  within : node.source.toList <:+: (builder.sourceText id).toList
  sourced : builder.IsSourced node
  below : ∀ child ∈ node.children, ∀ inner ∈ child.subtrees,
    builder.IsInnerApplication inner ∨ builder.IsSourced inner

theorem Nested.subtrees (nested : builder.Nested id node) :
    ∀ inner ∈ node.subtrees, builder.IsInnerApplication inner ∨ builder.IsSourced inner := by
  intro inner member
  rcases Node.mem_subtrees.mp member with rfl | ⟨child, listed, member⟩
  · exact .inr nested.sourced
  · exact nested.below child listed inner member

/-- What lies in the source of a semantic child lies in the source of the match. -/
theorem sourceText_infix (faithful : builder.source.Faithful)
    (intact : builder.tree.Intact builder.source.chars) (listed : child ∈ builder.semantic id) :
    (builder.sourceText child).toList <:+: (builder.sourceText id).toList := by
  obtain ⟨listed, unskipped⟩ := (mem_semantic intact).mp listed
  have inside := intact.child_inside listed
  have inside' := intact.parent_inside listed
  obtain ⟨first, -, -⟩ := intact.spans child inside
  obtain ⟨first', -, -⟩ := intact.spans id inside'
  obtain ⟨after, -, last⟩ := intact.contentEnd_bounds inside
  obtain ⟨-, -, last'⟩ := intact.contentEnd_bounds inside'
  rw [sourceText, sourceText]
  rcases intact.stretch_of_child listed unskipped with
    empty | ⟨starts, stops⟩
  · rw [empty, faithful.slice_self first]
    exact List.nil_infix
  · rw [← faithful.slice_append first' first last' starts (Nat.le_trans after stops),
      ← faithful.slice_append first last last' after stops, String.toList_append,
      String.toList_append]
    exact ⟨_, _, List.append_assoc _ _ _⟩

/-- The source of a node is a piece of the source of a match, and all nodes in the node are as they
should be. -/
structure Fits (builder : Builder) (id : Nat) (node : Node) : Prop where
  within : node.source.toList <:+: (builder.sourceText id).toList
  inside : ∀ inner ∈ node.subtrees, builder.IsInnerApplication inner ∨ builder.IsSourced inner

section

variable (nested : ∀ child ∈ builder.semantic id,
    builder.Nested child (builder.buildWithin depth child))
  (within : ∀ child ∈ builder.semantic id,
    (builder.sourceText child).toList <:+: (builder.sourceText id).toList)
include nested within

theorem fits_of_listed (listed : child ∈ builder.semantic id) :
    builder.Fits id (builder.buildWithin depth child) where
  within := (nested child listed).within.trans (within child listed)
  inside := (nested child listed).subtrees

/-- Operands of a chain that have been put together are made without a source. -/
theorem fits_folded {operator : OperatorRule}
    (isRule : (builder.tree.node id).origin = .rule rule) (kind : rule.kind = .operator operator)
    (long : 5 ≤ (builder.semantic id).length)
    (folded : Folded (builder.buildWithin depth) rule.name (builder.semantic id) node) :
    builder.Fits id node := by
  induction folded with
  | operand listed => exact fits_of_listed nested within listed
  | application listed _ _ onLeft onRight =>
    refine ⟨List.nil_infix, fun inner member => ?_⟩
    rcases Node.mem_subtrees.mp member with rfl | ⟨child, among, below⟩
    · exact .inl ⟨id, rule, operator, isRule, kind, long, rfl, rfl, depth, _, listed, _, _, rfl⟩
    · rcases Node.mem_children_ofChildren_three among with rfl | rfl | rfl
      · exact (nested _ listed).subtrees inner below
      · exact onLeft.inside inner below
      · exact onRight.inside inner below

/-- The children of the node of a rule fit into the source of the match. -/
theorem fits_of_mem_children (isRule : (builder.tree.node id).origin = .rule rule)
    (composed : Composed builder (builder.buildWithin depth) rule id node) {inner : Node}
    (member : inner ∈ node.children) : builder.Fits id inner := by
  cases composed with
  | token => cases member
  | @passed child _ alone =>
    have listed : child ∈ builder.semantic id := by
      rw [alone]
      exact List.mem_singleton_self child
    have outer := nested child listed
    exact ⟨(outer.sourced.2 inner member).trans (fits_of_listed nested within listed).within,
      outer.below inner member⟩
  | gathered accessors made =>
    obtain ⟨child, listed, rfl⟩ := made inner member
    exact fits_of_listed nested within listed
  | @applied operator kind sign left right listed onLeft onRight single =>
    have operands : builder.Fits id left ∧ builder.Fits id right := by
      by_cases short : (builder.semantic id).length < 5
      · obtain ⟨⟨first, firstListed, rfl⟩, second, secondListed, rfl⟩ := single short
        exact ⟨fits_of_listed nested within firstListed, fits_of_listed nested within secondListed⟩
      · have long := Nat.le_of_not_lt short
        exact ⟨fits_folded nested within isRule kind long onLeft,
          fits_folded nested within isRule kind long onRight⟩
    rcases Node.mem_children_ofChildren_three member with rfl | rfl | rfl
    · exact fits_of_listed nested within listed
    · exact operands.1
    · exact operands.2

/-- The node of a rule, given the source of the match. -/
theorem nested_composed (isRule : (builder.tree.node id).origin = .rule rule)
    (composed : Composed builder (builder.buildWithin depth) rule id node) :
    builder.Nested id (node.withSource (builder.sourceText id)) := by
  have fits : ∀ child ∈ node.children, builder.Fits id child := fun _ member =>
    fits_of_mem_children nested within isRule composed member
  refine ⟨?_, ⟨fun _ => ⟨id, rule, isRule, ?_⟩, fun child member => ?_⟩, fun child member => ?_⟩
  · simp only [Node.source_withSource, List.infix_refl]
  · rw [Node.source_withSource]
  · rw [Node.children_withSource] at member
    rw [Node.source_withSource]
    exact (fits child member).within
  · rw [Node.children_withSource] at member
    exact (fits child member).inside

end

theorem nested_missing (builder : Builder) (id : Nat) (name : String) :
    builder.Nested id (.missing name) where
  within := List.nil_infix
  sourced := ⟨fun absurd => (by cases absurd), fun _ absurd => by cases absurd⟩
  below _ absurd := by cases absurd

/-- All nodes that are made for a match are sourced, or they are applications inside of a chain. -/
theorem nested_buildWithin (faithful : builder.source.Faithful)
    (intact : builder.tree.Intact builder.source.chars)
    (made : ∀ id, builder.tree.WellMade id) (depth id : Nat) :
    builder.Nested id (builder.buildWithin depth id) := by
  induction depth generalizing id with
  | zero => exact nested_missing builder id ""
  | succ depth inductionHypothesis =>
    have within : ∀ child ∈ builder.semantic id,
        (builder.sourceText child).toList <:+: (builder.sourceText id).toList :=
      fun child listed => sourceText_infix faithful intact listed
    rw [buildWithin]
    cases isRule : (builder.tree.node id).origin with
    | root =>
      dsimp only
      cases first : (builder.semantic id).head? with
      | none => exact nested_missing builder id ""
      | some child =>
        have inner := inductionHypothesis child
        have listed : child ∈ builder.semantic id := List.mem_of_mem_head? first
        exact ⟨inner.within.trans (within child listed), inner.sourced, inner.below⟩
    | lambda name => exact nested_missing builder id name
    | rule rule =>
      exact nested_composed (fun child _ => inductionHypothesis child) within isRule
        (composed_ruleNode (made id) isRule)

end Ast.Builder

namespace Parse

/-- In the syntax tree of a parsed text, a composite node has the source of a match, and the
sources of the children of a node are pieces of its own. The applications inside of a chain of
operators are excepted; these have no source. -/
theorem sources_nest_outside_chains (input : String) (registry : Registry)
    (options : ParseOptions) (tracing : Bool) (first : Grammar) (start : Option String)
    (fuel : Nat) (result : ParseTree)
    (parsed : (run (Environment.ofText input registry options tracing) fuel first start).answer =
      .parsed result) :
    let builder : Ast.Builder := ⟨result.source, result.tree⟩
    ∀ node ∈ result.toAst.subtrees, builder.IsInnerApplication node ∨ builder.IsSourced node := by
  intro builder
  have faithful := Environment.faithful_ofText input registry options tracing
  obtain ⟨name, after, -, done, nothingLeft, rfl⟩ := exists_of_parsed parsed
  have intact := (covers_of_done faithful done nothingLeft).1
  have made := wellMade_of_done faithful done
  exact (Ast.Builder.nested_buildWithin faithful intact made _ Tree.root).subtrees

/-- Sums of digits. -/
def sumsOfDigits : Grammar :=
  .ofCalls Workspace.compile "g" [.token "num" "[0-9]" false, .token "plus" "\\+" false,
    .operator "sum" .left "plus" "num", .startSymbol "sum"]

/-- The outer sum has the source of its match, and the inner one is inside of a chain. -/
theorem sources_nest_of_sum : ∃ result,
    (run (Environment.ofText "1+2+3" {} {} false) 6 sumsOfDigits none).answer = .parsed result ∧
      result.toAst.source = "1+2+3" ∧
      ∀ node ∈ result.toAst.subtrees,
        (Ast.Builder.mk result.source result.tree).IsInnerApplication node ∨
          (Ast.Builder.mk result.source result.tree).IsSourced node := by
  obtain ⟨result, parsed, source_eq⟩ : ∃ result,
      (run (Environment.ofText "1+2+3" {} {} false) 6 sumsOfDigits none).answer =
        .parsed result ∧ result.toAst.source = "1+2+3" := by
    decide +kernel
  exact ⟨result, parsed, source_eq, sources_nest_outside_chains "1+2+3" {} {} false sumsOfDigits
    none 6 result parsed⟩

/-- The operands of an inner sum have a source, and it has none. -/
theorem inner_sum_lacks_source : ∃ result,
    (run (Environment.ofText "1+2+3" {} {} false) 6 sumsOfDigits none).answer = .parsed result ∧
      ∃ inner ∈ result.toAst.subtrees, inner.name = "sum" ∧ inner.source = "" ∧
        ∃ child ∈ inner.children, ¬ child.source.toList <:+: inner.source.toList := by
  decide +kernel

end Parse

end Rulebook
