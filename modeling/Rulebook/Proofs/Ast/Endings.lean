/-
This file says where the sources of a syntax tree end. The source of a match ends with the last
token that was taken at or below it, so whitespace skipped after that token is no part of it. The
one exception is an import that has taken no token: it counts as content if it has skipped
whitespace of its own grammar, and the source ends only where the import begins.
-/

import Rulebook.Proofs.Ast.Composition
import Rulebook.Proofs.Parse.Clearance

namespace Rulebook

open Match (Tree)

namespace Ast.Builder

variable {builder : Builder} {chars : List Char} {rule : Rule} {id depth : Nat} {node inner : Node}

/-! ### Sources are those of matches -/

/-- A text is the source of a match that was not skipped, or it is empty. -/
def IsSource (builder : Builder) (text : String) : Prop :=
  text = "" ∨ ∃ id < builder.tree.size, (builder.tree.node id).whitespace = false ∧
    text = builder.sourceText id

section

variable (sources : ∀ child ∈ builder.semantic id,
  ∀ inner ∈ (builder.buildWithin depth child).subtrees, builder.IsSource inner.source)
include sources

theorem isSource_folded {name : String}
    (folded : Folded (builder.buildWithin depth) name (builder.semantic id) node) :
    ∀ inner ∈ node.subtrees, builder.IsSource inner.source := by
  induction folded with
  | operand listed => exact sources _ listed
  | application listed _ _ onLeft onRight =>
    intro inner member
    rcases Node.mem_subtrees.mp member with rfl | ⟨child, among, below⟩
    · exact .inl rfl
    · rcases Node.mem_children_ofChildren_three among with rfl | rfl | rfl
      · exact sources _ listed inner below
      · exact onLeft inner below
      · exact onRight inner below

/-- All that is below the node of a rule has the source of a match, or none. -/
theorem isSource_composed
    (composed : Composed builder (builder.buildWithin depth) rule id node) :
    ∀ child ∈ node.children, ∀ inner ∈ child.subtrees, builder.IsSource inner.source := by
  intro child among inner below
  cases composed with
  | token => cases among
  | @passed only _ alone =>
    have listed : only ∈ builder.semantic id := by
      rw [alone]
      exact List.mem_singleton_self only
    exact sources only listed inner (Node.mem_subtrees.mpr (.inr ⟨child, among, below⟩))
  | gathered accessors made =>
    obtain ⟨other, listed, rfl⟩ := made child among
    exact sources other listed inner below
  | applied kind listed onLeft onRight =>
    rcases Node.mem_children_ofChildren_three among with rfl | rfl | rfl
    · exact sources _ listed inner below
    · exact isSource_folded sources onLeft inner below
    · exact isSource_folded sources onRight inner below

end

theorem isSource_missing {name : String} (member : inner ∈ (Node.missing name).subtrees) :
    builder.IsSource inner.source := by
  rw [Node.missing, Node.subtrees, List.mem_singleton] at member
  rw [member]
  exact .inl rfl

/-- All nodes that are made for a match have the source of a match, or none. -/
theorem isSource_buildWithin (intact : builder.tree.Intact chars)
    (made : ∀ id, builder.tree.WellMade id) (inside : id < builder.tree.size)
    (unskipped : (builder.tree.node id).whitespace = false) :
    ∀ inner ∈ (builder.buildWithin depth id).subtrees, builder.IsSource inner.source := by
  induction depth generalizing id with
  | zero => exact fun _ member => isSource_missing member
  | succ depth inductionHypothesis =>
    have sources : ∀ child ∈ builder.semantic id,
        ∀ inner ∈ (builder.buildWithin depth child).subtrees, builder.IsSource inner.source :=
      fun child listed =>
        have found := (mem_semantic intact).mp listed
        inductionHypothesis (intact.child_inside found.1) found.2
    intro inner member
    rw [buildWithin] at member
    cases isRule : (builder.tree.node id).origin with
    | root =>
      rw [isRule] at member
      dsimp only at member
      cases first : (builder.semantic id).head? with
      | none =>
        rw [first] at member
        exact isSource_missing member
      | some child =>
        rw [first] at member
        exact sources child (List.mem_of_mem_head? first) inner member
    | lambda name =>
      rw [isRule] at member
      exact isSource_missing member
    | rule rule =>
      rw [isRule] at member
      rcases Node.mem_subtrees.mp member with rfl | ⟨child, among, below⟩
      · exact .inr ⟨id, inside, unskipped, Node.source_withSource _ _⟩
      · rw [Node.children_withSource] at among
        exact isSource_composed sources (composed_ruleNode (made id) isRule) child among inner below

end Ast.Builder

namespace Parse

/-! ### Where sources end -/

/-- The content of a node that was not skipped ends with the last token at or below it that took
input and was not skipped, or where the node starts if there is none. If not, then it ends later,
where an import begins that took nothing but whitespace. The nodes of the syntax tree have the
sources of such nodes, or none. -/
theorem content_ends_with_token_or_at_idle_import (input : String) (registry : Registry)
    (options : ParseOptions) (tracing : Bool) (first : Grammar) (start : Option String)
    (fuel : Nat) (result : ParseTree)
    (parsed : (run (Environment.ofText input registry options tracing) fuel first start).answer =
      .parsed result) :
    let tree := result.tree
    let builder : Ast.Builder := ⟨result.source, tree⟩
    (∀ id < tree.size, (tree.node id).whitespace = false →
      tree.contentEnd id = tree.lastTaken id ∧
        builder.sourceText id = result.source.slice (tree.node id).start (tree.lastTaken id) ∨
      ∃ idle ∈ tree.below id, tree.IsIdle idle ∧
        tree.contentEnd id = (tree.node idle).start ∧
          tree.lastTaken id < (tree.node idle).start) ∧
    ∀ node ∈ result.toAst.subtrees, node.source = "" ∨ ∃ id < tree.size,
      (tree.node id).whitespace = false ∧ node.source = builder.sourceText id := by
  intro tree builder
  have faithful := Environment.faithful_ofText input registry options tracing
  obtain ⟨name, after, -, done, nothingLeft, rfl⟩ := exists_of_parsed parsed
  have intact := (covers_of_done faithful done nothingLeft).1
  have made := wellMade_of_done faithful done
  refine ⟨fun id inside unskipped => ?_, ?_⟩
  · refine (intact.contentEnd_eq_or (trim_of_done faithful done) made inside unskipped).imp_left
      fun content_eq => ⟨content_eq, ?_⟩
    rw [Ast.Builder.sourceText, content_eq]
  · have grown := grown_of_done faithful done
    exact Ast.Builder.isSource_buildWithin intact made intact.nonempty
      (by rw [(grown.start_eq grown.inside).2.2]; rfl)

/-- Marks may stand before nothing. -/
def nothingBehindMarks : Grammar :=
  .ofCalls Workspace.compile "h" [.token "mark" "#+" true, .token "nothing" "" false]

/-- A letter, and then an import of nothing. -/
def letterAndTail : Grammar :=
  .ofCalls Workspace.compile "g" [.token "blank" " +" true, .token "a" "a" false,
    .imported "tail" "h" "nothing" true,
    .sequence "s" [{ rule := "a" }, { rule := "tail" }], .startSymbol "s"]

/-- Nothing behind marks is published, and a text is to be parsed. -/
def beforeMarks (input : String) : Environment :=
  .ofText input (Registry.register {} nothingBehindMarks).1 {} false

/-- If the import has skipped nothing, then the source of the sequence ends with the letter. -/
theorem content_ends_with_letter : ∃ result,
    (run (beforeMarks "a ") 6 letterAndTail none).answer = .parsed result ∧
      result.tree.contentEnd 1 = result.tree.lastTaken 1 ∧
      (Ast.Builder.mk result.source result.tree).sourceText 1 = "a" := by
  obtain ⟨result, parsed, inside, unskipped, last_eq, source_eq, end_eq⟩ : ∃ result,
      (run (beforeMarks "a ") 6 letterAndTail none).answer = .parsed result ∧
        1 < result.tree.size ∧ (result.tree.node 1).whitespace = false ∧
        result.tree.lastTaken 1 = 1 ∧
        result.source.slice (result.tree.node 1).start 1 = "a" ∧
        result.tree.contentEnd 1 = 1 := by
    decide +kernel
  have general := content_ends_with_token_or_at_idle_import "a "
    (Registry.register {} nothingBehindMarks).1 {} false letterAndTail none 6 result parsed
  rcases general.1 1 inside unskipped with
    ⟨content_eq, text_eq⟩ | ⟨idle, -, -, content_eq, later⟩
  · rw [last_eq, source_eq] at text_eq
    exact ⟨result, parsed, content_eq, text_eq⟩
  · omega

/-- If the import has skipped a mark, then the source of the sequence ends with the blank before
it, which was skipped as well. -/
theorem content_ends_with_blank : ∃ result,
    (run (beforeMarks "a #") 6 letterAndTail none).answer = .parsed result ∧
      (result.tree.node 1).whitespace = false ∧
      result.tree.contentEnd 1 = 2 ∧ result.tree.lastTaken 1 = 1 ∧
      (Ast.Builder.mk result.source result.tree).sourceText 1 = "a " := by
  decide +kernel

end Parse

end Rulebook
