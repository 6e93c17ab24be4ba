/-
This file finds out from which matches the tokens of a syntax tree come. Every match shows some
of the matches below it, depending on its kind, and leaves out the others; those that are tokens
and are shown all the way up are the leaves. The tokens of the syntax tree are the tokens of the
leaves, each once, though not in their order: an operator is put before its operands.

Sequences, lists and sets look at what is directly below them and leave out whitespace tokens.
The root, choices, operators and imports show whatever is below them, whitespace tokens too.
-/

import Mathlib.Data.List.Induction
import Mathlib.Data.List.Perm.Basic
import Rulebook.Ast.Build
import Rulebook.Proofs.Parse.Coverage

namespace Rulebook

open Match (Origin Tree)

namespace Ast.Node

/-! ### The tokens of a syntax tree -/

mutual

/-- The tokens of a syntax tree, from left to right. -/
def tokens : Node → List Token
  | .terminal _ _ token => [token]
  | .lambda _ _ => []
  | .composite _ _ children _ => tokensOfAll children

/-- The tokens of some syntax trees, from left to right. -/
def tokensOfAll : List Node → List Token
  | [] => []
  | node :: rest => tokens node ++ tokensOfAll rest

end

theorem tokensOfAll_eq_flatMap (nodes : List Node) : tokensOfAll nodes = nodes.flatMap tokens := by
  induction nodes with
  | nil => rfl
  | cons node rest inductionHypothesis =>
    rw [tokensOfAll, inductionHypothesis, List.flatMap_cons]

@[simp]
theorem tokens_withSource (source : String) (node : Node) :
    (node.withSource source).tokens = node.tokens := by
  cases node <;> rfl

@[simp]
theorem tokens_withAccessors (name : String) (children : List Node)
    (accessors : List (String × Nat)) :
    (withAccessors name children accessors).tokens = children.flatMap tokens :=
  tokensOfAll_eq_flatMap children

@[simp]
theorem tokens_ofChildren (name : String) (children : List Node) :
    (ofChildren name children).tokens = children.flatMap tokens :=
  tokens_withAccessors name children []

@[simp]
theorem tokens_wrap (name : String) (child : Node) : (wrap name child).tokens = child.tokens := by
  rw [wrap, tokens_ofChildren, List.flatMap_singleton]

end Ast.Node

namespace Match.Origin

/-- A match of this origin stands for what is below it, whatever that is: the root, a choice, an
operator or an import. -/
def isConduit : Origin → Bool
  | .root => true
  | .lambda _ => false
  | .rule self =>
    match self.kind with
    | .choice _ | .operator _ | .imported _ => true
    | .token _ | .sequence _ | .list _ | .set _ => false

end Match.Origin

namespace Ast.Builder

variable (builder : Builder) {build : Nat → Node}

/-! ### What is shown of a match -/

/-- An item of a sequence is not shown if it is a required keyword or a whitespace token. -/
def isHidden (item : SequenceItem) (child : Nat) : Bool :=
  (item.required && (builder.tree.node child).isKeyword) ||
    (builder.tree.node child).isWhitespaceToken

/-- The matches directly below a match of a rule that have a part in its node. -/
def shownBelow (rule : Rule) (id : Nat) : List Nat :=
  match rule.kind with
  | .token _ => []
  | .sequence items =>
    ((items.zip (builder.semantic id)).filter fun part =>
      !builder.isHidden part.1 part.2).map Prod.snd
  | .choice _ | .imported _ => (builder.semantic id).getLast?.toList
  | .list list =>
    (builder.items list.opening.isSome list.separator.isSome list.closing.isSome id).filter
      fun child => list.separator.isNone || builder.ruleName? child != list.separator
  | .set set => builder.items set.opening.isSome set.separator.isSome set.closing.isSome id
  | .operator _ => builder.semantic id

/-- The matches directly below a match that have a part in its syntax tree. -/
def shown (id : Nat) : List Nat :=
  match (builder.tree.node id).origin with
  | .root => (builder.semantic id).head?.toList
  | .lambda _ => []
  | .rule rule => builder.shownBelow rule id

/-- The match is one of a token. -/
def isLeaf (id : Nat) : Bool :=
  (builder.tree.node id).rule?.any (·.isToken)

/-- The tokens that are shown of a match, looking a number of levels down. -/
def leavesWithin : Nat → Nat → List Nat
  | 0, _ => []
  | depth + 1, id =>
    if builder.isLeaf id then [id] else (builder.shown id).flatMap (leavesWithin depth)

/-- The tokens that are shown of a match. -/
def leaves (id : Nat) : List Nat :=
  builder.leavesWithin builder.tree.size id

/-- The token that is made of a leaf. -/
def leafToken (id : Nat) : Token :=
  builder.token id ((builder.ruleName? id).getD "")

/-! ### Nodes have the tokens of what is shown -/

/-- What a sequence makes of its items. -/
theorem sequenceParts_fst (names : List (String × Nat)) (count : Nat)
    (parts : List (SequenceItem × Nat)) :
    (builder.sequenceParts build names count parts).1 =
      ((parts.filter fun part => !builder.isHidden part.1 part.2).map Prod.snd).map build := by
  induction parts generalizing names count with
  | nil => rfl
  | cons part rest inductionHypothesis =>
    obtain ⟨item, child⟩ := part
    have hidden_eq : (item.required && (builder.tree.node child).isKeyword ||
      (builder.tree.node child).isWhitespaceToken) = builder.isHidden item child := rfl
    rw [sequenceParts, List.filter_cons, hidden_eq]
    cases builder.isHidden item child with
    | true => exact inductionHypothesis names count
    | false => exact congrArg (build child :: ·) (inductionHypothesis _ (count + 1))

/-- Folding to the left uses up all operators and operands. -/
theorem tokens_foldLeft (name : String) (folded : Node) (chain : List Nat)
    (even : chain.length % 2 = 0) : (foldLeft build name folded chain).tokens.Perm
      (folded.tokens ++ chain.flatMap fun id => (build id).tokens) := by
  induction chain using List.twoStepInduction generalizing folded with
  | nil => exact List.Perm.of_eq (List.append_nil _).symm
  | singleton operator => cases even
  | cons_cons operator operand rest inductionHypothesis _ =>
    have even : rest.length % 2 = 0 := by
      rw [List.length_cons, List.length_cons] at even
      omega
    rw [foldLeft]
    refine (inductionHypothesis _ even).trans ?_
    simp only [Node.tokens_ofChildren, List.flatMap_cons, List.flatMap_nil, List.append_nil,
      List.append_assoc]
    exact List.perm_append_comm_assoc _ _ _

/-- Folding to the right uses up all operators and operands. -/
theorem tokens_foldRight (name : String) (chain : List Nat) :
    (foldRight build name chain).tokens.Perm (chain.flatMap fun id => (build id).tokens) := by
  induction chain using List.twoStepInduction with
  | nil => exact List.Perm.of_eq (Node.tokens_ofChildren name [])
  | singleton operand => exact List.Perm.of_eq (List.flatMap_singleton _ _).symm
  | cons_cons operand operator rest inductionHypothesis _ =>
    rw [foldRight, Node.tokens_ofChildren]
    simp only [List.flatMap_cons, List.flatMap_nil, List.append_nil]
    refine (List.perm_append_comm_assoc _ _ _).trans ?_
    exact (inductionHypothesis.append_left _).append_left _

theorem tokens_operatorNode (name : String) (rule : OperatorRule) (id : Nat) :
    (builder.operatorNode build name rule id).tokens.Perm
      ((builder.semantic id).flatMap fun id => (build id).tokens) := by
  rw [operatorNode]
  generalize builder.semantic id = chain
  cases rule.associativity with
  | right => exact tokens_foldRight name chain
  | left =>
    cases chain with
    | nil => exact List.Perm.of_eq (Node.tokens_ofChildren name [])
    | cons first rest =>
      dsimp only
      split
      · rename_i odd
        rw [List.length_cons] at odd
        exact tokens_foldLeft name (build first) rest (by omega)
      · rename_i notOdd
        refine (tokens_foldLeft name _ (first :: rest) (by omega)).trans ?_
        rw [Node.tokens_ofChildren]
        exact List.Perm.refl _

theorem tokens_standIn (name : String) (wrap : Bool) (id : Nat) :
    (builder.standIn build name wrap id).tokens =
      (builder.semantic id).getLast?.toList.flatMap fun id => (build id).tokens := by
  rw [standIn]
  cases (builder.semantic id).getLast? with
  | none => exact Node.tokens_ofChildren name []
  | some chosen => cases wrap <;> simp

/-- The node of a rule that is no token has the tokens of what is shown. -/
theorem tokens_ruleNode {rule : Rule} (notToken : rule.isToken = false) (id : Nat) :
    (builder.ruleNode build rule id).tokens.Perm
      ((builder.shownBelow rule id).flatMap fun id => (build id).tokens) := by
  rw [ruleNode, shownBelow]
  cases kind : rule.kind with
  | token token =>
    rw [Rule.isToken, Rule.token?, kind] at notToken
    cases notToken
  | sequence items =>
    refine List.Perm.of_eq ?_
    dsimp only
    rw [sequenceNode, Node.tokens_withAccessors, sequenceParts_fst, List.flatMap_map]
  | choice choice => exact List.Perm.of_eq (builder.tokens_standIn rule.name choice.wrap id)
  | list list =>
    refine List.Perm.of_eq ?_
    dsimp only
    rw [listNode, Node.tokens_ofChildren, List.flatMap_map]
  | set set =>
    refine List.Perm.of_eq ?_
    dsimp only
    rw [setNode, Node.tokens_ofChildren, List.flatMap_map]
  | operator operator => exact builder.tokens_operatorNode rule.name operator id
  | imported target => exact List.Perm.of_eq (builder.tokens_standIn rule.name target.wrap id)

/-! ### The tokens of the whole tree -/

/-- The tokens of a syntax tree are those of the leaves of the match. -/
theorem tokens_buildWithin (depth id : Nat) : (builder.buildWithin depth id).tokens.Perm
    ((builder.leavesWithin depth id).map builder.leafToken) := by
  induction depth generalizing id with
  | zero => exact List.Perm.refl _
  | succ depth inductionHypothesis =>
    have below : ((builder.shown id).flatMap fun id => (builder.buildWithin depth id).tokens).Perm
        (((builder.shown id).flatMap (builder.leavesWithin depth)).map builder.leafToken) := by
      rw [List.map_flatMap]
      exact List.Perm.flatMap_left _ fun child _ => inductionHypothesis child
    rw [buildWithin, leavesWithin, isLeaf, Match.Node.rule?]
    rw [shown] at below ⊢
    cases isRule : (builder.tree.node id).origin with
    | lambda name => exact List.Perm.refl _
    | root =>
      rw [isRule] at below
      refine List.Perm.trans ?_ below
      cases (builder.semantic id).head? with
      | none => exact List.Perm.refl _
      | some child => exact List.Perm.of_eq (List.flatMap_singleton _ _).symm
    | rule rule =>
      rw [isRule] at below
      dsimp only at below ⊢
      rw [Node.tokens_withSource, Option.any_some]
      cases isToken : rule.isToken with
      | false => exact (builder.tokens_ruleNode isToken id).trans below
      | true =>
        have leaf_eq : builder.leafToken id = builder.token id rule.name := by
          rw [leafToken, ruleName?, Match.Node.rule?, isRule]
          rfl
        obtain ⟨token, found⟩ := Option.isSome_iff_exists.mp isToken
        rw [Rule.token?] at found
        split at found
        · rename_i kind
          rw [ruleNode, kind, if_pos rfl, List.map_singleton, leaf_eq]
          exact List.Perm.refl _
        · cases found

theorem tokens_build (id : Nat) :
    (builder.build id).tokens.Perm ((builder.leaves id).map builder.leafToken) :=
  builder.tokens_buildWithin builder.tree.size id

end Ast.Builder

end Rulebook
