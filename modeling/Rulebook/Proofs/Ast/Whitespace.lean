/-
This file is about whitespace tokens in syntax trees. Sequences, lists and sets leave out the
whitespace tokens that they name, so such a token is a token of the syntax tree only if what is
directly above its match shows everything: a choice, an operator, an import, or the root. There
it does get through, as a small grammar shows.
-/

import Rulebook.Proofs.Ast.Leaves

namespace Rulebook

open Match (Tree)

namespace Ast.Builder

variable {builder : Builder} {id child leaf depth : Nat}

theorem mem_semantic_of_mem_items {opened separated closed : Bool}
    (member : child ∈ builder.items opened separated closed id) :
    child ∈ builder.semantic id := by
  obtain ⟨listed, -⟩ := List.mem_filter.mp member
  obtain ⟨index, -, found⟩ := List.mem_filterMap.mp listed
  exact Array.mem_toList_iff.mpr (Array.mem_of_getElem? found)

/-- Only semantic children are shown. -/
theorem mem_semantic_of_mem_shown (member : child ∈ builder.shown id) :
    child ∈ builder.semantic id := by
  rw [shown] at member
  split at member
  · exact List.mem_of_mem_head? (Option.mem_toList.mp member)
  · cases member
  · rw [shownBelow] at member
    split at member
    · cases member
    · obtain ⟨part, listed, rfl⟩ := List.mem_map.mp member
      exact (List.of_mem_zip (List.mem_filter.mp listed).1).2
    · exact List.mem_of_getLast? (Option.mem_toList.mp member)
    · exact List.mem_of_getLast? (Option.mem_toList.mp member)
    · exact mem_semantic_of_mem_items (List.mem_filter.mp member).1
    · exact mem_semantic_of_mem_items member
    · exact member

/-- Items of a list or a set are no whitespace tokens. -/
theorem isWhitespaceToken_of_mem_items {opened separated closed : Bool}
    (member : child ∈ builder.items opened separated closed id) :
    (builder.tree.node child).isWhitespaceToken = false := by
  simpa using (List.mem_filter.mp member).2

/-- Whitespace tokens are shown only of what shows everything. -/
theorem isConduit_of_mem_shown (member : child ∈ builder.shown id)
    (isWhitespace : (builder.tree.node child).isWhitespaceToken = true) :
    (builder.tree.node id).origin.isConduit = true := by
  rw [shown] at member
  cases isRule : (builder.tree.node id).origin with
  | root => rfl
  | lambda name =>
    rw [isRule] at member
    cases member
  | rule rule =>
    rw [isRule] at member
    dsimp only at member
    rw [shownBelow] at member
    cases kind : rule.kind with
    | token token =>
      rw [kind] at member
      cases member
    | sequence items =>
      rw [kind] at member
      obtain ⟨part, listed, rfl⟩ := List.mem_map.mp member
      have notHidden := (List.mem_filter.mp listed).2
      rw [isHidden, isWhitespace, Bool.or_true] at notHidden
      cases notHidden
    | list list =>
      rw [kind] at member
      rw [isWhitespaceToken_of_mem_items (List.mem_filter.mp member).1] at isWhitespace
      cases isWhitespace
    | set set =>
      rw [kind] at member
      rw [isWhitespaceToken_of_mem_items member] at isWhitespace
      cases isWhitespace
    | choice choice => rw [Match.Origin.isConduit, kind]
    | operator operator => rw [Match.Origin.isConduit, kind]
    | imported target => rw [Match.Origin.isConduit, kind]

/-- A leaf is a token, and it is what one begins with or is shown of some match. -/
theorem isLeaf_of_mem_leavesWithin (member : leaf ∈ builder.leavesWithin depth id) :
    builder.isLeaf leaf = true ∧ (leaf = id ∨ ∃ parent, leaf ∈ builder.shown parent) := by
  induction depth generalizing id with
  | zero => cases member
  | succ depth inductionHypothesis =>
    rw [leavesWithin] at member
    split at member
    · rename_i isLeaf
      rw [List.mem_singleton.mp member]
      exact ⟨isLeaf, .inl rfl⟩
    · obtain ⟨child, shown, below⟩ := List.mem_flatMap.mp member
      obtain ⟨isLeaf, rfl | ⟨parent, shownThere⟩⟩ := inductionHypothesis below
      · exact ⟨isLeaf, .inr ⟨id, shown⟩⟩
      · exact ⟨isLeaf, .inr ⟨parent, shownThere⟩⟩

end Ast.Builder

namespace Parse

/-- The tokens of the syntax tree of a parsed text are those of the leaves of its match. If a
leaf is a whitespace token, then it is a semantic child of a choice, of an operator, of an import
or of the root: no sequence, list or set shows a whitespace token, whether or not whitespace is
skipped between rules. -/
theorem whitespace_comes_through_conduits_only (input : String) (registry : Registry)
    (options : ParseOptions) (tracing : Bool) (first : Grammar) (start : Option String)
    (fuel : Nat) (result : ParseTree)
    (parsed : (run (Environment.ofText input registry options tracing) fuel first start).answer =
      .parsed result) :
    let builder : Ast.Builder := ⟨result.source, result.tree⟩
    result.toAst.tokens.Perm ((builder.leaves Tree.root).map builder.leafToken) ∧
    ∀ leaf ∈ builder.leaves Tree.root, builder.isLeaf leaf = true ∧
      ((result.tree.node leaf).isWhitespaceToken = true →
        ∃ parent, (result.tree.node leaf).parent = some parent ∧
          leaf ∈ (result.tree.node parent).semantic ∧
          (result.tree.node parent).origin.isConduit = true) := by
  intro builder
  refine ⟨builder.tokens_build Tree.root, fun leaf member => ?_⟩
  have faithful := Environment.faithful_ofText input registry options tracing
  obtain ⟨name, after, -, done, nothingLeft, rfl⟩ := exists_of_parsed parsed
  have intact := (covers_of_done faithful done nothingLeft).1
  obtain ⟨isLeaf, rfl | ⟨parent, shown⟩⟩ := Ast.Builder.isLeaf_of_mem_leavesWithin member
  · rw [Ast.Builder.isLeaf, Match.Node.rule?, origin_root_of_done faithful done] at isLeaf
    cases isLeaf
  · refine ⟨isLeaf, fun isWhitespace => ⟨parent, ?_, ?_, ?_⟩⟩
    · have semantic := Ast.Builder.mem_semantic_of_mem_shown shown
      rw [Ast.Builder.semantic, intact.semantic_eq parent] at semantic
      have listed := (List.mem_filter.mp semantic).1
      exact (intact.ordered parent leaf (Array.mem_toList_iff.mp listed)).2
    · exact Array.mem_toList_iff.mp (Ast.Builder.mem_semantic_of_mem_shown shown)
    · exact Ast.Builder.isConduit_of_mem_shown shown isWhitespace

/-- A choice names a whitespace token, and whitespace is not skipped. -/
def spaced : Grammar :=
  .ofCalls Workspace.compile "g" [.token "ws" " " true, .choice "c" ["ws"] false,
    .whitespaceDisabled true, .startSymbol "c"]

/-- The match of the whitespace token is all there is, and it is below the choice. -/
theorem blank_comes_through_choice : ∃ result,
    (run (Environment.ofText " " {} {} false) 3 spaced none).answer = .parsed result ∧
      (result.tree.node 2).isWhitespaceToken = true ∧
      ∃ parent, (result.tree.node 2).parent = some parent ∧
        2 ∈ (result.tree.node parent).semantic ∧
        (result.tree.node parent).origin.isConduit = true := by
  obtain ⟨result, parsed, listed, isWhitespace⟩ : ∃ result,
      (run (Environment.ofText " " {} {} false) 3 spaced none).answer = .parsed result ∧
        (Ast.Builder.mk result.source result.tree).leaves Tree.root = [2] ∧
        (result.tree.node 2).isWhitespaceToken = true := ⟨_, rfl, rfl, rfl⟩
  have general := whitespace_comes_through_conduits_only " " {} {} false spaced none 3 result
    parsed
  have leaf := general.2 2 (by rw [listed]; exact List.mem_singleton_self 2)
  exact ⟨result, parsed, isWhitespace, leaf.2 isWhitespace⟩

/-- A syntax tree may consist of nothing but a whitespace token. -/
theorem whitespace_reaches_syntax_tree : ∃ result rule,
    (run (Environment.ofText " " {} {} false) 3 spaced none).answer = .parsed result ∧
      spaced.rule? "ws" = some rule ∧ rule.isWhitespace = true ∧
      result.toAst.tokens = [⟨" ", "ws", 0, ⟨1, 1⟩⟩] :=
  ⟨_, _, rfl, rfl, rfl, rfl⟩

end Parse

end Rulebook
