/-
This file says what syntax tree is read off a node of a match tree, while the match tree goes on
growing elsewhere. Below a node nothing changes any more once work goes on at the node above it,
so what has been read off a child may be used when the node itself is read.

The input that a node took is left out of account, for what a rule passes on from below is given
the input of the rule that passes it on. Tokens keep their text and their place.
-/

import Rulebook.Ast.Build
import Rulebook.Proofs.Parse.Soundness

namespace Rulebook

namespace Ast.Node

/-! ### Syntax trees without the input of their nodes -/

mutual

/-- The same tree without the input that its nodes took. -/
def bare : Node → Node
  | .terminal name _ token => .terminal name "" token
  | .lambda name _ => .lambda name ""
  | .composite name _ children accessors => .composite name "" (bareAll children) accessors

/-- The same trees without the input that their nodes took. -/
def bareAll : List Node → List Node
  | [] => []
  | node :: rest => bare node :: bareAll rest

end

theorem bareAll_eq_map (nodes : List Node) : bareAll nodes = nodes.map bare := by
  induction nodes with
  | nil => rfl
  | cons node rest inductionHypothesis => rw [bareAll, inductionHypothesis, List.map_cons]

@[simp]
theorem bare_withSource (source : String) (node : Node) :
    (node.withSource source).bare = node.bare := by
  cases node <;> rfl

@[simp]
theorem bare_ofChildren (name : String) (children : List Node) :
    (ofChildren name children).bare = ofChildren name (children.map bare) := by
  rw [ofChildren, withAccessors, bare, bareAll_eq_map]
  rfl

/-- A token that matched some characters at an offset. -/
def leaf (source : Source) (name : String) (offset : Nat) (chars : List Char) : Node :=
  .terminal name ""
    { text := String.ofList chars, rule := name, offset, position := source.position offset }

/-- An operand, and operators with further operands, folded to the left. -/
def foldedLeft (name : String) (first : Node) (links : List (Node × Node)) : Node :=
  links.foldl (fun folded link => ofChildren name [link.1, folded, link.2]) first

/-- An operand, and operators with further operands, folded to the right. -/
def foldedRight (name : String) : Node → List (Node × Node) → Node
  | operand, [] => operand
  | operand, (operator, next) :: rest =>
    ofChildren name [operator, operand, foldedRight name next rest]

/-- An operand, and operators with further operands, folded to a side. -/
def folded (side : Associativity) (name : String) (first : Node) (links : List (Node × Node)) :
    Node :=
  match side with
  | .left => foldedLeft name first links
  | .right => foldedRight name first links

end Ast.Node

open Ast (Builder)

/-! ### The parts of an operator -/

/-- The names and syntax trees of operators with operands after them. -/
def OperatorRule.linked (rule : OperatorRule) (links : List (Ast.Node × Ast.Node)) :
    List (String × Ast.Node) :=
  links.flatMap fun link => [(rule.operator, link.1), (rule.operand, link.2)]

namespace Ast.Builder

variable {build : Nat → Node} {name : String} {rule : OperatorRule}

/-- The syntax trees that are made of some nodes. -/
def Makes (build : Nat → Node) (ids : List Nat) (parts : List (String × Node)) : Prop :=
  List.Forall₂ (fun id part => (build id).bare = part.2) ids parts

theorem bare_foldLeft {ids : List Nat} {links : List (Node × Node)}
    (makes : Makes build ids (rule.linked links)) (first : Node) :
    (foldLeft build name first ids).bare = Node.foldedLeft name first.bare links := by
  induction links generalizing ids first with
  | nil =>
    cases makes
    rfl
  | cons link rest inductionHypothesis =>
    obtain _ | ⟨operator, _ | ⟨operand, later⟩⟩ := makes
    rw [foldLeft, inductionHypothesis later, Node.bare_ofChildren]
    simp only [List.map_cons, List.map_nil, operator, operand]
    rfl

theorem bare_foldRight {ids : List Nat} {operand : String} {first : Node}
    {links : List (Node × Node)}
    (makes : Makes build ids ((operand, first) :: rule.linked links)) :
    (foldRight build name ids).bare = Node.foldedRight name first links := by
  induction links generalizing ids operand first with
  | nil =>
    obtain _ | ⟨here, _ | _⟩ := makes
    exact here
  | cons link rest inductionHypothesis =>
    obtain _ | ⟨here, _ | ⟨operator, later⟩⟩ := makes
    rw [foldRight, Node.bare_ofChildren]
    simp only [List.map_cons, List.map_nil, here, operator, inductionHypothesis later]
    rfl

theorem length_linked (rule : OperatorRule) (links : List (Node × Node)) :
    (rule.linked links).length = 2 * links.length := by
  induction links with
  | nil => rfl
  | cons link rest inductionHypothesis =>
    rw [OperatorRule.linked, List.flatMap_cons, List.length_append, List.length_cons,
      ← OperatorRule.linked, inductionHypothesis]
    simp only [List.length_cons, List.length_nil]
    omega

end Ast.Builder

/-! ### Nodes of a match tree -/

namespace Match.Tree

variable {source : Source} {grammar : Grammar} {tree before after : Tree} {node id : Nat}
  {rule : Rule} {ast : Ast.Node} {part : String × Ast.Node} {parts : List (String × Ast.Node)}

/-- The syntax tree of a node, whatever becomes of the rest of the match tree. -/
def Builds (tree : Tree) (source : Source) (id : Nat) (ast : Ast.Node) : Prop :=
  ∀ later : Tree, (∀ other, id ≤ other → other < tree.size → later.node other = tree.node other) →
    ∀ depth, tree.size ≤ id + depth → ((Builder.mk source later).buildWithin depth id).bare = ast

/-- A child of a node, with the name that was asked for and its syntax tree. -/
structure Child (tree : Tree) (source : Source) (grammar : Grammar) (node id : Nat)
    (part : String × Ast.Node) : Prop where
  above : node < id
  inside : id < tree.size
  isRule : ∃ rule, grammar.rule? part.1 = some rule ∧ (tree.node id).origin = .rule rule
  builds : tree.Builds source id part.2

/-- The semantic children of a node. -/
def Holds (tree : Tree) (source : Source) (grammar : Grammar) (node : Nat)
    (parts : List (String × Ast.Node)) : Prop :=
  List.Forall₂ (tree.Child source grammar node) (tree.node node).semantic.toList parts

theorem Builds.grown (builds : before.Builds source id ast) (grown : Grown node before after)
    (above : node < id) : after.Builds source id ast := by
  intro later agree depth enough
  have size_le := grown.size_le
  refine builds later (fun other le inside => ?_) depth (by omega)
  rw [agree other le (by omega), grown.node_after (by omega) inside]

theorem Child.grown (child : before.Child source grammar node id part)
    (grown : Grown node before after) : after.Child source grammar node id part where
  above := child.above
  inside := Nat.lt_of_lt_of_le child.inside grown.size_le
  isRule := by
    rw [grown.node_after child.above child.inside]
    exact child.isRule
  builds := child.builds.grown grown child.above

/-- A rule that has been matched is one more child. -/
theorem Holds.added {name : String} (holds : before.Holds source grammar node parts)
    (added : Parse.Added grammar node name before after)
    (builds : after.Builds source before.size ast) :
    after.Holds source grammar node (parts ++ [(name, ast)]) := by
  have kept : List.Forall₂ (after.Child source grammar node)
      (before.node node).semantic.toList parts := holds.imp fun _ _ child => child.grown added.grown
  have inside : before.size < after.size := by
    obtain ⟨rule, -, origin_eq⟩ := added.origin_eq
    by_contra outside
    rw [node_of_size_le (Nat.le_of_not_lt outside)] at origin_eq
    cases origin_eq
  have last : after.Child source grammar node before.size (name, ast) :=
    ⟨added.grown.inside, inside, added.origin_eq, builds⟩
  rw [Holds, added.semantic_eq, Array.toList_push]
  exact List.rel_append kept (.cons last .nil)

/-! ### Reading a node -/

/-- A node is read by its rule. -/
theorem builds_of_rule (inside : node < tree.size) (isRule : (tree.node node).origin = .rule rule)
    (reads : ∀ builder : Builder, builder.source = source →
      (∀ other, node ≤ other → other < tree.size →
        builder.tree.node other = tree.node other) →
      ∀ depth, tree.size ≤ node + 1 + depth →
        (builder.ruleNode (builder.buildWithin depth) rule node).bare = ast) :
    tree.Builds source node ast := by
  intro later agree depth enough
  obtain ⟨further, rfl⟩ : ∃ further, depth = further + 1 := ⟨depth - 1, by omega⟩
  have origin_eq : (later.node node).origin = .rule rule := by
    rw [agree node (Nat.le_refl _) inside, isRule]
  rw [Builder.buildWithin]
  dsimp only
  rw [origin_eq]
  dsimp only
  rw [Ast.Node.bare_withSource]
  exact reads ⟨source, later⟩ rfl agree further (by omega)

/-- What is made of the children of a node. -/
theorem Holds.makes (holds : tree.Holds source grammar node parts) (inside : node < tree.size)
    {builder : Builder} (same : builder.source = source)
    (agree : ∀ other, node ≤ other → other < tree.size →
      builder.tree.node other = tree.node other)
    {depth : Nat} (enough : tree.size ≤ node + 1 + depth) :
    Builder.Makes (builder.buildWithin depth) (builder.semantic node) parts := by
  rw [Builder.semantic, agree node (Nat.le_refl _) inside]
  refine holds.imp fun id part child => ?_
  have above := child.above
  rw [← same] at child
  exact child.builds builder.tree (fun other le => agree other (by omega)) depth (by omega)

theorem builds_token {token : TokenRule} {offset : Nat} {chars : List Char}
    (inside : node < tree.size) (isRule : (tree.node node).origin = .rule rule)
    (kind : rule.kind = .token token) (start_eq : (tree.node node).start = offset)
    (slice_eq : source.slice offset (tree.stop node) = String.ofList chars) :
    tree.Builds source node (.leaf source rule.name offset chars) := by
  refine builds_of_rule inside isRule fun builder same agree depth enough => ?_
  rw [Builder.ruleNode, kind]
  dsimp only
  rw [Builder.token, agree node (Nat.le_refl _) inside, same, start_eq, ← stop, slice_eq]
  rfl

/-- A choice that makes no node of its own stands for its last part. -/
theorem builds_choice {choice : ChoiceRule} {name : String} (inside : node < tree.size)
    (isRule : (tree.node node).origin = .rule rule) (kind : rule.kind = .choice choice)
    (plain : choice.wrap = false) (holds : tree.Holds source grammar node [(name, ast)]) :
    tree.Builds source node ast := by
  refine builds_of_rule inside isRule fun builder same agree depth enough => ?_
  have makes := holds.makes inside same agree enough
  rw [Builder.ruleNode, kind]
  dsimp only
  rw [Builder.standIn, plain]
  generalize builder.semantic node = ids at makes
  obtain _ | ⟨here, _ | _⟩ := makes
  exact here

theorem builds_operator {operator : OperatorRule} {first : Ast.Node}
    {links : List (Ast.Node × Ast.Node)} (inside : node < tree.size)
    (isRule : (tree.node node).origin = .rule rule) (kind : rule.kind = .operator operator)
    (holds : tree.Holds source grammar node
      ((operator.operand, first) :: operator.linked links)) :
    tree.Builds source node (.folded operator.associativity rule.name first links) := by
  refine builds_of_rule inside isRule fun builder same agree depth enough => ?_
  have makes := holds.makes inside same agree enough
  rw [Builder.ruleNode, kind]
  dsimp only
  rw [Builder.operatorNode]
  generalize builder.semantic node = ids at makes
  cases operator.associativity with
  | right => exact Builder.bare_foldRight makes
  | left =>
    have odd := List.Forall₂.length_eq makes
    rw [List.length_cons, Builder.length_linked] at odd
    obtain _ | ⟨here, later⟩ := makes
    dsimp only
    rw [if_pos (by omega), Builder.bare_foldLeft later]
    exact congrArg (Ast.Node.foldedLeft rule.name · links) here

/-- The parts of a sequence that its node shows: those that are neither keywords nor
whitespace tokens. -/
def shown (grammar : Grammar) (parts : List (String × Ast.Node)) : List Ast.Node :=
  (parts.filter fun part =>
    !(grammar.rule? part.1).any fun rule => rule.isKeyword || rule.isWhitespace).map Prod.snd

/-- A sequence whose items are all required, and have no names, shows its parts in order. -/
theorem sequenceParts_of_required {builder : Builder} {build : Nat → Ast.Node} {ids : List Nat}
    (makes : List.Forall₂ (fun id part => (build id).bare = part.2 ∧
      ∃ rule, grammar.rule? part.1 = some rule ∧
        (builder.tree.node id).rule? = some rule) ids parts)
    {items : List SequenceItem} (length_eq : items.length = ids.length)
    (required : ∀ item ∈ items, item.required = true ∧ item.accessor = none)
    (names : List (String × Nat)) (count : Nat) :
    ∃ children, builder.sequenceParts build names count (items.zip ids) = (children, names) ∧
      children.map Ast.Node.bare = shown grammar parts := by
  induction makes generalizing items count with
  | nil =>
    rw [List.length_nil, List.length_eq_zero_iff] at length_eq
    rw [length_eq]
    exact ⟨[], rfl, rfl⟩
  | cons made _ inductionHypothesis =>
    rename_i id part ids parts _
    obtain ⟨here, rule, found, isRule⟩ := made
    obtain _ | ⟨item, items⟩ := items
    · cases length_eq
    obtain ⟨itemRequired, unnamed⟩ := required item List.mem_cons_self
    have later := fun count => inductionHypothesis (Nat.succ.inj length_eq)
      (fun other member => required other (List.mem_cons_of_mem _ member)) count
    rw [List.zip_cons_cons, Builder.sequenceParts, itemRequired, unnamed, Bool.true_and,
      Node.isKeyword, Node.isWhitespaceToken, isRule, shown, List.filter_cons, found,
      Option.any_some, Option.any_some, Option.any_some]
    dsimp only
    cases dropped : rule.isKeyword || rule.isWhitespace with
    | true => exact later count
    | false =>
      obtain ⟨children, done, rest⟩ := later (count + 1)
      refine ⟨build id :: children, by rw [done]; rfl, ?_⟩
      rw [List.map_cons, here, rest]
      rfl

theorem builds_sequence {items : List SequenceItem} (inside : node < tree.size)
    (isRule : (tree.node node).origin = .rule rule) (kind : rule.kind = .sequence items)
    (required : ∀ item ∈ items, item.required = true ∧ item.accessor = none)
    (holds : tree.Holds source grammar node parts) (length_eq : items.length = parts.length) :
    tree.Builds source node (.ofChildren rule.name (shown grammar parts)) := by
  refine builds_of_rule inside isRule fun builder same agree depth enough => ?_
  have makes := holds.makes inside same agree enough
  have children : List.Forall₂ (fun id part =>
      (builder.buildWithin depth id).bare = part.2 ∧
        ∃ rule, grammar.rule? part.1 = some rule ∧
          (builder.tree.node id).rule? = some rule) (builder.semantic node) parts := by
    rw [Builder.semantic, agree node (Nat.le_refl _) inside] at makes ⊢
    refine List.Forall₂.mp (fun id part child made => ⟨made, ?_⟩) holds makes
    obtain ⟨above, before, ⟨rule, found, origin_eq⟩, -⟩ := child
    refine ⟨rule, found, ?_⟩
    rw [Node.rule?, agree id (Nat.le_of_lt above) before, origin_eq]
  obtain ⟨shownParts, done, bare_eq⟩ := sequenceParts_of_required children
    (length_eq.trans (List.Forall₂.length_eq makes).symm) required [] 0
  rw [Builder.ruleNode, kind]
  dsimp only
  rw [Builder.sequenceNode, done]
  exact (Ast.Node.bare_ofChildren rule.name shownParts).trans (congrArg _ bare_eq)

end Match.Tree

end Rulebook
