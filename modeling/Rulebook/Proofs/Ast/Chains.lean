/-
This file says how the node of an operator is put together. The match of an operator is a chain:
an operand, and then operators, each with one more operand. The node is the chain folded to the
side that the operator has. To read the applications in it from left to right gives the chain.
-/

import Rulebook.Proofs.Ast.Depth
import Rulebook.Proofs.Ast.Nesting
import Rulebook.Proofs.Ast.Omission
import Rulebook.Proofs.Ast.Terminals
import Rulebook.Proofs.Derivation.Reading
import Rulebook.Proofs.Grammar.References
import Rulebook.Proofs.Parse.Matches

namespace Rulebook

open Match (Origin Tree)
open Rulebook.Part (separated)

/-! ### Folding and reading -/

namespace Ast.Node

/-- What is read off a number of applications of an operator, from left to right: of each the
left side, then the operator, then the right side. The further applications are on one side. -/
def unfolded (side : Associativity) : Nat → Node → List Node
  | 0, top => [top]
  | count + 1, top =>
    match side, top.children with
    | .left, [sign, left, right] => unfolded side count left ++ [sign, right]
    | .right, [sign, left, right] => left :: sign :: unfolded side count right
    | _, _ => []

/-- An application is read without regard to its source. -/
theorem unfolded_withSource (side : Associativity) (count : Nat) (source : String) (top : Node) :
    unfolded side (count + 1) (top.withSource source) = unfolded side (count + 1) top := by
  simp only [unfolded, children_withSource]

/-- A lone operand is what it is. -/
theorem folded_nil (side : Associativity) (name : String) (first : Node) :
    folded side name first [] = first := by
  cases side <;> rfl

/-- What has been folded to a side is read as it was before. -/
theorem unfolded_folded (side : Associativity) (name : String) (first : Node)
    (links : List (Node × Node)) : unfolded side links.length (folded side name first links) =
      first :: links.flatMap fun link => [link.1, link.2] := by
  cases side with
  | left =>
    -- The latest application is the outermost.
    induction links using List.reverseRecOn with
    | nil => rfl
    | append_singleton links link inductionHypothesis =>
      rw [folded, foldedLeft] at inductionHypothesis ⊢
      rw [List.length_append, List.foldl_append, List.flatMap_append]
      exact congrArg (· ++ [link.1, link.2]) inductionHypothesis
  | right =>
    induction links generalizing first with
    | nil => rfl
    | cons link rest inductionHypothesis =>
      exact congrArg (first :: link.1 :: ·) (inductionHypothesis link.2)

end Ast.Node

/-- An operand, and then operators with operands, one after the other. -/
def OperatorRule.alternating (first : Nat) (rest : List (Nat × Nat)) : List Nat :=
  first :: rest.flatMap fun pair => [pair.1, pair.2]

open OperatorRule (alternating)

theorem length_alternating (first : Nat) (rest : List (Nat × Nat)) :
    (alternating first rest).length = 2 * rest.length + 1 := by
  induction rest generalizing first with
  | nil => rfl
  | cons pair rest inductionHypothesis =>
    have longer : (alternating first (pair :: rest)).length =
        (alternating pair.2 rest).length + 2 := rfl
    rw [longer, inductionHypothesis, List.length_cons]
    omega

/-! ### Matches of operators are chains -/

/-- What stands for the parts of an operator, in whatever sense, is a chain of operands and
operators. -/
theorem exists_alternating {stands : Part → Nat → Prop} {separator : String} {count : Nat}
    {children : List Nat}
    (stand : List.Forall₂ stands
      (separated (some separator) (List.replicate (count + 1) (.item 0))) children) :
    ∃ first rest, children = alternating first rest ∧ stands (.item 0) first ∧
      ∀ pair ∈ rest, stands .separator pair.1 ∧ stands (.item 0) pair.2 := by
  rw [separated, Option.isSome_some, if_pos rfl] at stand
  induction count generalizing children with
  | zero =>
    obtain _ | ⟨here, later⟩ := stand
    obtain _ | _ := later
    exact ⟨_, [], rfl, here, fun _ absurd => by cases absurd⟩
  | succ count inductionHypothesis =>
    rw [List.replicate_succ, List.replicate_succ, List.intersperse_cons_cons,
      ← List.replicate_succ] at stand
    obtain _ | ⟨here, later⟩ := stand
    obtain _ | ⟨onSign, later⟩ := later
    obtain ⟨next, rest, rfl, onNext, others⟩ := inductionHypothesis later
    exact ⟨_, (_, next) :: rest, rfl, here, List.forall_mem_cons.mpr ⟨⟨onSign, onNext⟩, others⟩⟩

/-- A match of an operator has a rule that is one. -/
theorem Match.Tree.exists_operator {node : Match.Node}
    (isOperator : node.rule?.any (·.isOperator) = true) :
    ∃ rule operator, node.origin = .rule rule ∧ rule.kind = .operator operator := by
  obtain ⟨rule, isRule, passes⟩ := Match.Node.exists_rule isOperator
  rw [Rule.isOperator] at passes
  split at passes
  · rename_i operator kind
    exact ⟨rule, operator, isRule, kind⟩
  · cases passes

namespace Ast.Builder

variable {builder : Builder} {build : Nat → Node} {rule : Rule} {operator : OperatorRule}
  {grammar : Grammar} {id first : Nat} {rest : List (Nat × Nat)}

theorem map_alternating (build : Nat → Node) (first : Nat) (rest : List (Nat × Nat)) :
    (alternating first rest).map build =
      build first :: (rest.map (Prod.map build build)).flatMap fun link => [link.1, link.2] := by
  rw [alternating, List.map_cons, List.map_flatMap, List.flatMap_map]
  rfl

theorem foldLeft_eq (name : String) (folded : Node) (rest : List (Nat × Nat)) :
    foldLeft build name folded (rest.flatMap fun pair => [pair.1, pair.2]) =
      Node.foldedLeft name folded (rest.map (Prod.map build build)) := by
  induction rest generalizing folded with
  | nil => rfl
  | cons pair rest inductionHypothesis => exact inductionHypothesis _

theorem foldRight_eq (name : String) (first : Nat) (rest : List (Nat × Nat)) :
    foldRight build name (alternating first rest) =
      Node.foldedRight name (build first) (rest.map (Prod.map build build)) := by
  induction rest generalizing first with
  | nil => rfl
  | cons pair rest inductionHypothesis =>
    exact congrArg (fun later => Node.ofChildren name [build pair.1, build first, later])
      (inductionHypothesis pair.2)

/-- An operator folds the nodes of its chain to its side. -/
theorem operatorNode_eq (name : String)
    (semantic_eq : builder.semantic id = alternating first rest) :
    builder.operatorNode build name operator id =
      .folded operator.associativity name (build first) (rest.map (Prod.map build build)) := by
  have odd : (alternating first rest).length % 2 = 1 := by
    rw [length_alternating]
    omega
  rw [operatorNode, semantic_eq]
  cases operator.associativity with
  | left =>
    rw [alternating] at odd ⊢
    dsimp only
    rw [if_pos odd]
    exact foldLeft_eq name (build first) rest
  | right => exact foldRight_eq name first rest

/-- A match of an operator is a chain, without repetition, of matches of its operand and its
operator. Its node is that of the chain folded to the side of the operator, and a lone operand has
its node passed on. To read the node gives the chain. -/
structure FoldsChain (builder : Builder) (grammar : Grammar) (rule : Rule)
    (operator : OperatorRule) (id first : Nat) (rest : List (Nat × Nat)) : Prop where
  semantic_eq : builder.semantic id = alternating first rest
  distinct : (alternating first rest).Nodup
  first_isMatch : Parse.IsMatch grammar operator.operand builder.tree first
  rest_isMatch : ∀ pair ∈ rest, Parse.IsMatch grammar operator.operator builder.tree pair.1 ∧
    Parse.IsMatch grammar operator.operand builder.tree pair.2
  build_eq : builder.build id =
    (Node.folded operator.associativity rule.name (builder.build first)
      (rest.map (Prod.map builder.build builder.build))).withSource (builder.sourceText id)
  alone : rest = [] → builder.build id = builder.build first
  read_eq : Node.unfolded operator.associativity rest.length (builder.build id) =
    (alternating first rest).map builder.build

/-- The node of an operator is read as its chain. -/
theorem unfolded_of_alternating {side : Associativity} {name source : String}
    (build_eq : build id = (Node.folded side name (build first)
      (rest.map (Prod.map build build))).withSource source)
    (alone : rest = [] → build id = build first) :
    Node.unfolded side rest.length (build id) = (alternating first rest).map build := by
  cases rest with
  | nil => exact congrArg ([·]) (alone rfl)
  | cons pair rest =>
    rw [build_eq, List.length_cons, Node.unfolded_withSource, map_alternating, ← List.length_cons,
      ← List.length_map, Node.unfolded_folded]

section

variable (faithful : builder.source.Faithful) (intact : builder.tree.Intact builder.source.chars)
include faithful intact

/-- A match of an operator with a lone operand has the node of that operand. -/
theorem build_of_lone
    (matched : ∀ blank ∈ (builder.tree.node id).children.toList,
      (builder.tree.node blank).whitespace = true → (builder.tree.node blank).terminal = true)
    (prompt : builder.tree.Prompt id) {inner : Rule}
    (isInner : (builder.tree.node first).origin = .rule inner)
    (alone : builder.semantic id = [first])
    (build_eq : builder.build id = (builder.build first).withSource (builder.sourceText id)) :
    builder.build id = builder.build first := by
  obtain ⟨blanks, -, none, source_eq⟩ := sourceText_of_alone faithful intact matched alone
  rw [none prompt, Tree.tokenText_nil, String.empty_append] at source_eq
  rw [build_eq, source_eq, build_of_rule intact isInner, Node.withSource_withSource]

/-- The match of an operator folds its chain. -/
theorem exists_foldsChain (isMatch : Parse.MatchFrom grammar rule builder.tree id)
    (kind : rule.kind = .operator operator) :
    ∃ first rest, builder.FoldsChain grammar rule operator id first rest := by
  obtain ⟨parts, takes, reads⟩ := isMatch.reads fun part => by rw [kind]; rfl
  rw [kind] at takes reads
  obtain ⟨count, rfl⟩ := takes
  obtain ⟨first, rest, semantic_eq, onFirst, onRest⟩ := exists_alternating reads
  have operand_isMatch : ∀ child, (∃ name, (RuleKind.operator operator).partName? (.item 0) =
      some name ∧ Parse.IsMatch grammar name builder.tree child) →
        Parse.IsMatch grammar operator.operand builder.tree child := by
    rintro child ⟨name, ⟨⟩, isMatch⟩
    exact isMatch
  have first_isMatch := operand_isMatch first onFirst
  have build_eq : builder.build id =
      (Node.folded operator.associativity rule.name (builder.build first)
        (rest.map (Prod.map builder.build builder.build))).withSource (builder.sourceText id) := by
    rw [build_of_rule intact isMatch.isRule, ruleNode, kind]
    exact congrArg (Node.withSource _) (operatorNode_eq rule.name semantic_eq)
  have alone : rest = [] → builder.build id = builder.build first := by
    rintro rfl
    obtain ⟨inner, -, isInner⟩ := first_isMatch
    have prompt := (isMatch.made id (Nat.le_refl id)).prompt rule isMatch.isRule
      fun target other => by
        rw [kind] at other
        cases other
    -- What is below a match comes after it.
    have matched : ∀ blank ∈ (builder.tree.node id).children.toList,
        (builder.tree.node blank).whitespace = true →
          (builder.tree.node blank).terminal = true := fun blank listed =>
      (isMatch.made blank (Nat.le_of_lt
        (intact.lt_of_child (Array.mem_toList_iff.mp listed)))).skipped
    rw [List.map_nil, Node.folded_nil] at build_eq
    exact build_of_lone faithful intact matched prompt isInner semantic_eq build_eq
  refine ⟨first, rest, semantic_eq, ?_, first_isMatch, fun pair member => ?_, build_eq, alone, ?_⟩
  · rw [← semantic_eq]
    exact intact.nodup_semantic id
  · obtain ⟨⟨name, ⟨⟩, onSign⟩, onOperand⟩ := onRest pair member
    exact ⟨onSign, operand_isMatch pair.2 onOperand⟩
  · exact unfolded_of_alternating build_eq alone

end

end Ast.Builder

namespace Parse

section

variable {environment : Environment} {first : Grammar} {state after : State} {parent fuel id : Nat}
  {name : String} {rule : Rule} {operator : OperatorRule}

theorem isToken_of_operator (kind : rule.kind = .operator operator) : rule.isToken = false := by
  rw [Rule.isToken, Rule.token?, kind]
  rfl

theorem isImport_of_operator (kind : rule.kind = .operator operator) : rule.isImport = false := by
  rw [Rule.isImport, kind]

/-- A request for an operator that succeeds leaves a match that folds its chain. -/
theorem foldsChain_of_request (faithful : environment.source.Faithful)
    (ready : Ready environment first parent state)
    (done : (consume environment fuel parent name state).outcome = .done true after)
    (found : state.grammar.rule? name = some rule) (kind : rule.kind = .operator operator) :
    (after.tree.node state.tree.size).origin = .rule rule ∧
      ∃ head rest, (Ast.Builder.mk environment.source after.tree).FoldsChain state.grammar rule
        operator state.tree.size head rest := by
  obtain ⟨intact, isMatch⟩ := matchFrom_of_request faithful ready done found
    (isToken_of_operator kind) (isImport_of_operator kind)
  exact ⟨isMatch.isRule, Ast.Builder.exists_foldsChain faithful intact isMatch kind⟩

/-- In a finished tree, every match of an operator folds its chain. -/
theorem foldsChain_of_done (faithful : environment.source.Faithful)
    (done : (begin environment fuel name (State.initial first environment.options)).outcome =
      .done true after) (intact : after.tree.Intact environment.source.chars)
    (isRule : (after.tree.node id).origin = .rule rule) (kind : rule.kind = .operator operator) :
    ∃ grammar, Active environment first grammar ∧ grammar.rule? rule.name = some rule ∧
      ∃ head rest, (Ast.Builder.mk environment.source after.tree).FoldsChain grammar rule operator
        id head rest := by
  obtain ⟨grammar, active, isMatch⟩ := matchFrom_of_done faithful done isRule
    (isToken_of_operator kind) (isImport_of_operator kind)
  exact ⟨grammar, active, isMatch.found,
    Ast.Builder.exists_foldsChain faithful intact isMatch kind⟩

end

/-- In every state that a parse reaches, a request for an operator at an open node that succeeds
leaves the match of a chain, which its node folds. In the tree of a parsed text, all matches of
operators are matches of chains, which their nodes fold. -/
theorem operators_fold_their_chains (input : String) (registry : Registry)
    (options : ParseOptions) (tracing : Bool) (first : Grammar) :
    let environment := Environment.ofText input registry options tracing
    (∀ start state parent, Reachable environment first start state → state.tree.Open parent →
      ∀ fuel name after, (consume environment fuel parent name state).outcome = .done true after →
      ∀ rule operator, state.grammar.rule? name = some rule → rule.kind = .operator operator →
        (after.tree.node state.tree.size).origin = .rule rule ∧
        ∃ head rest, (Ast.Builder.mk environment.source after.tree).FoldsChain state.grammar rule
          operator state.tree.size head rest) ∧
    ∀ fuel start result, (run environment fuel first start).answer = .parsed result →
      ∀ id rule operator, (result.tree.node id).origin = .rule rule →
        rule.kind = .operator operator →
        ∃ grammar, Active environment first grammar ∧ grammar.rule? rule.name = some rule ∧
          ∃ head rest, (Ast.Builder.mk result.source result.tree).FoldsChain grammar rule operator
            id head rest := by
  intro environment
  have faithful := Environment.faithful_ofText input registry options tracing
  refine ⟨fun start state parent reached isOpen fuel name after done rule operator found kind => ?_,
    fun fuel start result parsed id rule operator isRule kind => ?_⟩
  · exact foldsChain_of_request faithful ⟨reached.sound faithful, isOpen⟩ done found kind
  · obtain ⟨name, after, -, done, nothingLeft, rfl⟩ := exists_of_parsed parsed
    exact foldsChain_of_done faithful done (covers_of_done faithful done nothingLeft).1 isRule kind

/-- A digit is a sum on its own, and the sum of three digits is a chain with two operators. -/
theorem sum_folds_its_chain :
    (∃ after rule operator head rest,
      (consume (Environment.ofText "1" {} {} false) 3 Tree.root "sum"
        (State.initial sumsOfDigits {})).outcome = .done true after ∧
      (Ast.Builder.mk (Environment.ofText "1" {} {} false).source after.tree).FoldsChain
        sumsOfDigits rule operator 1 head rest) ∧
    ∃ result rule operator grammar head rest,
      (run (Environment.ofText "1+2+3" {} {} false) 6 sumsOfDigits none).answer =
        .parsed result ∧ rest.length = 2 ∧
      (Ast.Builder.mk result.source result.tree).FoldsChain grammar rule operator 1 head rest := by
  constructor
  · obtain ⟨after, matched⟩ : ∃ after, (consume (Environment.ofText "1" {} {} false) 3 Tree.root
        "sum" (State.initial sumsOfDigits {})).outcome = .done true after := ⟨_, rfl⟩
    obtain ⟨rule, operator, found, kind⟩ : ∃ rule operator,
        sumsOfDigits.rule? "sum" = some rule ∧ rule.kind = .operator operator := ⟨_, _, rfl, rfl⟩
    obtain ⟨-, head, rest, folds⟩ := (operators_fold_their_chains "1" {} {} false sumsOfDigits).1
      "sum" _ Tree.root (.inl rfl) Tree.open_new 3 "sum" after matched rule operator found kind
    exact ⟨after, rule, operator, head, rest, matched, folds⟩
  · obtain ⟨result, parsed, isOperator, length_eq⟩ : ∃ result,
        (run (Environment.ofText "1+2+3" {} {} false) 6 sumsOfDigits none).answer =
          .parsed result ∧ (result.tree.node 1).rule?.any (·.isOperator) = true ∧
        (result.tree.node 1).semantic.size = 5 := by
      decide +kernel
    obtain ⟨rule, operator, isRule, kind⟩ := Tree.exists_operator isOperator
    obtain ⟨grammar, -, -, head, rest, folds⟩ :=
      (operators_fold_their_chains "1+2+3" {} {} false sumsOfDigits).2 6 none result parsed 1 rule
        operator isRule kind
    refine ⟨result, rule, operator, grammar, head, rest, parsed, ?_, folds⟩
    have chain_eq := congrArg List.length folds.semantic_eq
    rw [length_alternating, Ast.Builder.semantic, Array.length_toList, length_eq] at chain_eq
    omega

end Parse

end Rulebook
