/-
This file says of what the node of a match is composed. A token makes a node of its own. A choice,
an import or an operator may pass on the node of its one child. In all other cases there is a new
node around the nodes of children; an operator with more than one sign puts nodes in between, and
those are given no source.
-/

import Rulebook.Proofs.Ast.Preorder
import Rulebook.Proofs.Ast.Whitespace
import Rulebook.Proofs.Tree.Makeup

namespace Rulebook

open Match (Origin Tree)
open Rulebook.Part (separated)

namespace Ast.Node

/-! ### Parts of nodes that are made of others -/

@[simp]
theorem children_ofChildren (name : String) (nodes : List Node) :
    (ofChildren name nodes).children = nodes := rfl

theorem mem_children_ofChildren_three {name : String} {node first second third : Node}
    (member : node ∈ (ofChildren name [first, second, third]).children) :
    node = first ∨ node = second ∨ node = third := by
  simpa using member

@[simp]
theorem children_withSource (source : String) (node : Node) :
    (node.withSource source).children = node.children := by
  cases node <;> rfl

@[simp]
theorem source_withSource (source : String) (node : Node) :
    (node.withSource source).source = source := by
  cases node <;> rfl

@[simp]
theorem withSource_withSource (source other : String) (node : Node) :
    (node.withSource source).withSource other = node.withSource other := by
  cases node <;> rfl

/-- A node that has a token is a token. -/
theorem eq_terminal_of_token? {token : Token} {node : Node} (found : node.token? = some token) :
    node = .terminal node.name node.source token := by
  cases node with
  | terminal name source own =>
    obtain rfl := Option.some.inj found
    rfl
  | lambda => cases found
  | composite => cases found

/-- Only a token becomes a token when it is given another source. -/
theorem withSource_eq_terminal {name source other : String} {token : Token} {node : Node}
    (equal : node.withSource other = .terminal name source token) :
    (∃ own, node = .terminal name own token) ∧ source = other := by
  cases node with
  | terminal name' own token' =>
    obtain ⟨rfl, rfl, rfl⟩ := terminal.inj equal
    exact ⟨⟨own, rfl⟩, rfl⟩
  | lambda => cases equal
  | composite => cases equal

end Ast.Node

/-- A rule of this kind may pass on the node of its one child. -/
def RuleKind.passesOn : RuleKind → Bool
  | .choice rule => !rule.wrap
  | .imported rule => !rule.wrap
  | .operator _ => true
  | _ => false

namespace Ast.Builder

open Node (ofChildren withAccessors)

variable {builder : Builder} {build : Nat → Node} {rule : Rule} {id : Nat} {name : String}
  {ids : List Nat}

/-! ### Semantic children -/

section

variable {chars : List Char} (intact : builder.tree.Intact chars)
include intact

/-- The children that were not skipped are semantic. -/
theorem mem_semantic {child : Nat} : child ∈ builder.semantic id ↔
    child ∈ (builder.tree.node id).children.toList ∧
      (builder.tree.node child).whitespace = false := by
  rw [semantic, intact.semantic_eq id, List.mem_filter, Bool.not_eq_true']

theorem parent_of_mem_semantic {child : Nat} (listed : child ∈ builder.semantic id) :
    (builder.tree.node child).parent = some id :=
  (intact.ordered id child (Array.mem_toList_iff.mp ((mem_semantic intact).mp listed).1)).2

end

/-! ### The node of a match -/

/-- An operand, or an operator around operands that have been put together. -/
inductive Folded (build : Nat → Node) (name : String) (ids : List Nat) : Node → Prop where
  | operand {id : Nat} (listed : id ∈ ids) : Folded build name ids (build id)
  | application {sign : Nat} {left right : Node} (listed : sign ∈ ids)
    (onLeft : Folded build name ids left) (onRight : Folded build name ids right) :
    Folded build name ids (ofChildren name [build sign, left, right])

/-- Of what the node of a match is composed. -/
inductive Composed (builder : Builder) (build : Nat → Node) (rule : Rule) (id : Nat) :
    Node → Prop where
  | token (isToken : rule.isToken = true) :
    Composed builder build rule id (.ofToken rule.name (builder.token id rule.name))
  /-- The node of the only child is passed on. -/
  | passed {child : Nat} (passesOn : rule.kind.passesOn = true)
    (alone : builder.semantic id = [child]) : Composed builder build rule id (build child)
  | gathered {children : List Node} (accessors : List (String × Nat))
    (made : ∀ node ∈ children, ∃ child ∈ builder.semantic id, node = build child) :
    Composed builder build rule id (withAccessors rule.name children accessors)
  /-- The latest application of an operator. If there is only one, its operands are children. -/
  | applied {operator : OperatorRule} (kind : rule.kind = .operator operator) {sign : Nat}
    {left right : Node} (listed : sign ∈ builder.semantic id)
    (onLeft : Folded build rule.name (builder.semantic id) left)
    (onRight : Folded build rule.name (builder.semantic id) right)
    (single : (builder.semantic id).length < 5 →
      (∃ child ∈ builder.semantic id, left = build child) ∧
        ∃ child ∈ builder.semantic id, right = build child) :
    Composed builder build rule id (ofChildren rule.name [build sign, left, right])

/-- Folding to the left ends with an application. -/
theorem foldLeft_shape {chain : List Nat} {folded : Node} (even : chain.length % 2 = 0)
    (nonempty : chain ≠ []) (included : chain ⊆ ids) (start : Folded build name ids folded) :
    ∃ sign ∈ ids, ∃ left, Folded build name ids left ∧ (chain.length < 4 → left = folded) ∧
      ∃ right ∈ ids, foldLeft build name folded chain =
        ofChildren name [build sign, left, build right] := by
  induction chain using List.twoStepInduction generalizing folded with
  | nil => exact absurd rfl nonempty
  | singleton sign => cases even
  | cons_cons sign operand rest inductionHypothesis _ =>
    obtain ⟨signListed, included⟩ := List.cons_subset.mp included
    obtain ⟨operandListed, included⟩ := List.cons_subset.mp included
    rw [foldLeft]
    cases rest with
    | nil => exact ⟨sign, signListed, folded, start, fun _ => rfl, operand, operandListed, rfl⟩
    | cons next later =>
      have even : (next :: later).length % 2 = 0 := by
        simp only [List.length_cons] at even ⊢
        omega
      obtain ⟨last, lastListed, left, onLeft, -, right, rightListed, equal⟩ :=
        inductionHypothesis even (List.cons_ne_nil _ _) included
          (.application signListed start (.operand operandListed))
      refine ⟨last, lastListed, left, onLeft, fun short => ?_, right, rightListed, equal⟩
      simp only [List.length_cons] at short even
      omega

/-- Folding to the right gives operands that have been put together. -/
theorem folded_foldRight {chain : List Nat} (odd : chain.length % 2 = 1) (included : chain ⊆ ids) :
    Folded build name ids (foldRight build name chain) := by
  induction chain using List.twoStepInduction with
  | nil => cases odd
  | singleton operand => exact .operand (included List.mem_cons_self)
  | cons_cons operand sign rest inductionHypothesis _ =>
    obtain ⟨operandListed, included⟩ := List.cons_subset.mp included
    obtain ⟨signListed, included⟩ := List.cons_subset.mp included
    rw [foldRight]
    refine .application signListed (.operand operandListed) (inductionHypothesis ?_ included)
    simp only [List.length_cons] at odd
    omega

theorem composed_operatorNode {operator : OperatorRule} (kind : rule.kind = .operator operator)
    (odd : (builder.semantic id).length % 2 = 1) :
    Composed builder build rule id (builder.operatorNode build rule.name operator id) := by
  have passesOn : rule.kind.passesOn = true := by
    rw [kind]
    rfl
  rw [operatorNode]
  rcases chain : builder.semantic id with _ | ⟨first, _ | ⟨sign, rest⟩⟩
  · rw [chain] at odd
    cases odd
  · cases operator.associativity with
    | left => exact .passed passesOn chain
    | right => exact .passed passesOn chain
  · have inside : first ∈ builder.semantic id := by
      rw [chain]
      exact List.mem_cons_self
    have included : sign :: rest ⊆ builder.semantic id := by
      rw [chain]
      exact List.subset_cons_self _ _
    have even : (sign :: rest).length % 2 = 0 := by
      rw [chain] at odd
      simp only [List.length_cons] at odd ⊢
      omega
    cases operator.associativity with
    | left =>
      dsimp only
      rw [← chain, if_pos odd]
      obtain ⟨last, lastListed, left, onLeft, first_eq, right, rightListed, equal⟩ :=
        foldLeft_shape even (List.cons_ne_nil _ _) included (.operand inside)
      rw [equal]
      refine .applied kind lastListed onLeft (.operand rightListed) fun short =>
        ⟨⟨first, inside, first_eq ?_⟩, right, rightListed, rfl⟩
      rw [chain, List.length_cons] at short
      omega
    | right =>
      have odd' : rest.length % 2 = 1 := by
        rw [List.length_cons] at even
        omega
      obtain ⟨signListed, included⟩ := List.cons_subset.mp included
      refine .applied kind signListed (.operand inside) (folded_foldRight odd' included)
        fun short => ⟨⟨first, inside, rfl⟩, ?_⟩
      rcases rest with _ | ⟨operand, _ | ⟨second, later⟩⟩
      · cases odd'
      · exact ⟨operand, included List.mem_cons_self, rfl⟩
      · rw [chain] at short
        simp only [List.length_cons] at short odd'
        omega

/-- A rule that stands for its only child passes its node on or puts a node around it. -/
theorem composed_standIn {wrap : Bool} {child : Nat}
    (passesOn : wrap = false → rule.kind.passesOn = true)
    (alone : builder.semantic id = [child]) :
    Composed builder build rule id (builder.standIn build rule.name wrap id) := by
  rw [standIn, alone, List.getLast?_singleton]
  cases wrap with
  | false => exact .passed (passesOn rfl) alone
  | true =>
    refine .gathered [] fun node member => ⟨child, ?_, List.mem_singleton.mp member⟩
    rw [alone]
    exact List.mem_singleton_self child

theorem composed_sequenceNode (items : List SequenceItem) :
    Composed builder build rule id (builder.sequenceNode build rule.name items id) := by
  refine .gathered _ fun node member => ?_
  rw [sequenceParts_fst, List.map_map] at member
  obtain ⟨part, listed, rfl⟩ := List.mem_map.mp member
  exact ⟨part.2, (List.of_mem_zip (List.mem_filter.mp listed).1).2, rfl⟩

/-- The node of a rule is composed of nodes of semantic children, if the match is well made. -/
theorem composed_ruleNode (made : builder.tree.WellMade id)
    (isRule : (builder.tree.node id).origin = .rule rule) :
    Composed builder build rule id (builder.ruleNode build rule id) := by
  obtain ⟨parts, takes, stand⟩ := made.parts rule isRule
  have length_eq : parts.length = (builder.semantic id).length := stand.length_eq
  have alone : ∀ part, parts = [part] → ∃ child, builder.semantic id = [child] := by
    rintro part rfl
    exact List.length_eq_one_iff.mp length_eq.symm
  rw [ruleNode]
  cases kind : rule.kind with
  | token token =>
    refine .token ?_
    rw [Rule.isToken, Rule.token?, kind]
    rfl
  | sequence items => exact composed_sequenceNode items
  | choice choice =>
    rw [kind] at takes
    obtain ⟨index, -, parts_eq⟩ := takes
    obtain ⟨child, alone⟩ := alone _ parts_eq
    exact composed_standIn (fun plain => by rw [kind, RuleKind.passesOn, plain]; rfl) alone
  | list list =>
    refine .gathered [] fun node member => ?_
    obtain ⟨child, listed, rfl⟩ := List.mem_map.mp member
    exact ⟨child, mem_semantic_of_mem_items (List.mem_filter.mp listed).1, rfl⟩
  | set set =>
    refine .gathered [] fun node member => ?_
    obtain ⟨child, listed, rfl⟩ := List.mem_map.mp member
    exact ⟨child, mem_semantic_of_mem_items listed, rfl⟩
  | operator operator =>
    rw [kind] at takes
    obtain ⟨count, parts_eq⟩ := takes
    refine composed_operatorNode kind ?_
    rw [← length_eq, parts_eq, separated, Option.isSome_some, if_pos rfl,
      List.length_intersperse, List.length_replicate]
    omega
  | imported target =>
    rw [kind] at takes
    obtain ⟨child, alone⟩ := alone _ takes
    exact composed_standIn (fun plain => by rw [kind, RuleKind.passesOn, plain]; rfl) alone

end Ast.Builder

end Rulebook
