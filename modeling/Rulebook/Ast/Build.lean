/-
This file turns a finished match into a syntax tree. The match is only read. Every kind of
rule has its own way to make a node from the matches below it: it leaves out what carries no
information, such as required keywords, separators and delimiters, and passes on what it
stands for.
-/

import Rulebook.Ast.Node
import Rulebook.Match.Tree
import Rulebook.Parse.Run
import Rulebook.Sorted

namespace Rulebook.Ast

open Match (Tree)

/-- What a syntax tree is built from. -/
structure Builder where
  source : Source
  tree : Tree

namespace Builder

/-- The matches below a node that take part in the syntax tree. -/
def semantic (builder : Builder) (id : Nat) : List Nat :=
  (builder.tree.node id).semantic.toList

/-- The name of the rule that produced a match. -/
def ruleName? (builder : Builder) (id : Nat) : Option String :=
  (builder.tree.node id).rule?.map (·.name)

/-- The input that a match covers, without the whitespace skipped at its end. -/
def sourceText (builder : Builder) (id : Nat) : String :=
  builder.source.slice (builder.tree.node id).start (builder.tree.contentEnd id)

/-- The token that a match covers. -/
def token (builder : Builder) (id : Nat) (rule : String) : Token :=
  let node := builder.tree.node id
  { text := builder.source.slice node.start node.stop
    rule
    offset := node.start
    position := builder.source.position node.start }

/-! ### The kinds of rules -/

/-- The children and named children of a sequence, from its items and their matches, given
the number of children that came before. Required keywords and whitespace tokens are left
out, and an item that matched nothing is not found by name. -/
def sequenceParts (builder : Builder) (build : Nat → Node) (names : List (String × Nat)) :
    Nat → List (SequenceItem × Nat) → List Node × List (String × Nat)
  | _, [] => ([], names)
  | count, (item, child) :: rest =>
    let matched := builder.tree.node child
    if (item.required && matched.isKeyword) || matched.isWhitespaceToken then
      sequenceParts builder build names count rest
    else
      let node := build child
      let names := match item.accessor with
        | some accessor => if node.isLambda then names else Sorted.put accessor count names
        | none => names
      let (children, names) := sequenceParts builder build names (count + 1) rest
      (node :: children, names)

/-- The node of a sequence. -/
def sequenceNode (builder : Builder) (build : Nat → Node) (name : String)
    (items : List SequenceItem) (id : Nat) : Node :=
  let (children, accessors) :=
    sequenceParts builder build [] 0 (items.zip (builder.semantic id))
  .withAccessors name children accessors

/-- The node of a rule that stands for its latest match: that match itself, or a node around
it. -/
def standIn (builder : Builder) (build : Nat → Node) (name : String) (wrap : Bool) (id : Nat) :
    Node :=
  match (builder.semantic id).getLast? with
  | none => .ofChildren name []
  | some chosen => if wrap then .wrap name (build chosen) else build chosen

/-- An index among the matches of a list or a set belongs to an item: it is neither that of
a delimiter at an end nor, by its parity, that of a separator. -/
def isItemIndex (count : Nat) (opened separated closed : Bool) (index : Nat) : Bool :=
  !(opened && index == 0) && !(closed && index + 1 == count) &&
    !(separated && index % 2 == if opened then 0 else 1)

/-- The indices of items among a number of matches. -/
def itemIndices (count : Nat) (opened separated closed : Bool) : List Nat :=
  (List.range count).filter (isItemIndex count opened separated closed)

/-- The matches of a list or a set that are items and not whitespace tokens. -/
def items (builder : Builder) (opened separated closed : Bool) (id : Nat) : List Nat :=
  let matched := (builder.tree.node id).semantic
  ((itemIndices matched.size opened separated closed).filterMap (matched[·]?)).filter
    fun child => !(builder.tree.node child).isWhitespaceToken

/-- The node of a list. A match that bears the name of the separator is no item. -/
def listNode (builder : Builder) (build : Nat → Node) (name : String) (rule : ListRule)
    (id : Nat) : Node :=
  let children := builder.items rule.opening.isSome rule.separator.isSome rule.closing.isSome id
  .ofChildren name ((children.filter fun child =>
    rule.separator.isNone || builder.ruleName? child != rule.separator).map build)

/-- The node of a set. -/
def setNode (builder : Builder) (build : Nat → Node) (name : String) (rule : SetRule)
    (id : Nat) : Node :=
  .ofChildren name
    ((builder.items rule.opening.isSome rule.separator.isSome rule.closing.isSome id).map build)

/-- Fold operands and operators to the left, onto what has been folded already. -/
def foldLeft (build : Nat → Node) (name : String) : Node → List Nat → Node
  | folded, operator :: operand :: rest =>
    foldLeft build name (.ofChildren name [build operator, folded, build operand]) rest
  | folded, _ => folded

/-- Fold operands and operators to the right. -/
def foldRight (build : Nat → Node) (name : String) : List Nat → Node
  | [] => .ofChildren name []
  | [operand] => build operand
  | operand :: operator :: rest =>
    .ofChildren name [build operator, build operand, foldRight build name rest]

/-- The node of an operator. Its matches are operands with operators between them; a lone
operand is passed on, and the left fold of a chain without a first operand begins with an
empty node. -/
def operatorNode (builder : Builder) (build : Nat → Node) (name : String) (rule : OperatorRule)
    (id : Nat) : Node :=
  let chain := builder.semantic id
  match rule.associativity, chain with
  | .right, _ => foldRight build name chain
  | .left, first :: rest =>
    if chain.length % 2 = 1 then foldLeft build name (build first) rest
    else foldLeft build name (.ofChildren name []) chain
  | .left, [] => .ofChildren name []

/-- The node of a rule. -/
def ruleNode (builder : Builder) (build : Nat → Node) (rule : Rule) (id : Nat) : Node :=
  match rule.kind with
  | .token _ => .ofToken rule.name (builder.token id rule.name)
  | .sequence items => builder.sequenceNode build rule.name items id
  | .choice choice => builder.standIn build rule.name choice.wrap id
  | .list list => builder.listNode build rule.name list id
  | .set set => builder.setNode build rule.name set id
  | .operator operator => builder.operatorNode build rule.name operator id
  | .imported target => builder.standIn build rule.name target.wrap id

/-! ### The whole tree -/

/-- The syntax tree of a match, looking a number of levels down. The node that a rule makes
is given the input that the rule took, also if it was passed on from below. -/
def buildWithin (builder : Builder) : Nat → Nat → Node
  | 0, _ => .missing ""
  | depth + 1, id =>
    match (builder.tree.node id).origin with
    | .root =>
      match (builder.semantic id).head? with
      | some child => builder.buildWithin depth child
      | none => .missing ""
    | .lambda rule => .missing rule
    | .rule rule =>
      (builder.ruleNode (builder.buildWithin depth) rule id).withSource (builder.sourceText id)

/-- The syntax tree of a match. No path down the tree has more nodes than the tree. -/
def build (builder : Builder) (id : Nat) : Node :=
  builder.buildWithin builder.tree.size id

end Builder

end Rulebook.Ast

/-- The syntax tree of a parsed text. -/
def Rulebook.ParseTree.toAst (result : ParseTree) : Ast.Node :=
  (Ast.Builder.mk result.source result.tree).build Match.Tree.root
