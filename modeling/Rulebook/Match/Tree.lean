/-
This file holds the tree that grows while a text is matched. Its nodes live in an array and
are known by their index. A node is attached to its parent as soon as a rule is tried, and
detached again if the rule fails. The tree grows depth first and a failed attempt detaches
the child that was attached last, so everything from that child's index on belongs to the
failed attempt and detaching is a truncation.

A node covers the input that its children cover. Taking input lengthens a node and all its
ancestors, and giving it back shortens them. A node always has a greater index than its
parent, so walking up the tree, or down it, comes to an end.
-/

import Rulebook.Grammar.Rule

namespace Rulebook.Match

/-- What a node stands for. -/
inductive Origin where
  /-- The whole parse. -/
  | root
  /-- An optional item that matched nothing, under the name of its rule. -/
  | lambda (rule : String)
  | rule (rule : Rule)
  deriving Inhabited

/-- A node of the tree. -/
structure Node where
  origin : Origin
  parent : Option Nat
  start : Nat
  stop : Nat
  children : Array Nat := #[]
  /-- The children without skipped whitespace. -/
  semantic : Array Nat := #[]
  /-- A token matched here. -/
  terminal : Bool := false
  /-- The node was skipped between rules. -/
  whitespace : Bool := false
  deriving Inhabited

namespace Node

/-- The rule that produced a node. -/
def rule? (node : Node) : Option Rule :=
  match node.origin with
  | .rule rule => some rule
  | _ => none

/-- The number of bytes that a node covers. -/
def consumed (node : Node) : Nat :=
  node.stop - node.start

/-- A whitespace token produced the node, whether it was skipped or named by a rule. -/
def isWhitespaceToken (node : Node) : Bool :=
  node.rule?.any (·.isWhitespace)

/-- A keyword produced the node. -/
def isKeyword (node : Node) : Bool :=
  node.rule?.any (·.isKeyword)

/-- The node stands for an optional item that matched nothing. -/
def isLambda (node : Node) : Bool :=
  match node.origin with
  | .lambda _ => true
  | _ => false

/-- Cover some more input. -/
def lengthen (amount : Nat) (node : Node) : Node :=
  { node with stop := node.stop + amount }

/-- Cover less input. -/
def shorten (amount : Nat) (node : Node) : Node :=
  { node with stop := node.stop - amount }

/-- Take a new child, the latest. -/
def adopt (child : Nat) (node : Node) : Node :=
  { node with children := node.children.push child, semantic := node.semantic.push child }

/-- Do not count the latest child as semantic. -/
def hideLast (child : Nat) (node : Node) : Node :=
  if node.semantic.back? = some child then { node with semantic := node.semantic.pop } else node

/-- Give the latest child away. -/
def disownLast (child : Nat) (node : Node) : Node :=
  hideLast child { node with children := node.children.pop }

end Node

/-- A tree of matches. The root has index nought. -/
structure Tree where
  nodes : Array Node
  deriving Inhabited

namespace Tree

/-- A tree with nothing but its root. -/
def new : Tree :=
  ⟨#[{ origin := .root, parent := none, start := 0, stop := 0 }]⟩

/-- The index of the root. -/
def root : Nat := 0

/-- The number of nodes. -/
def size (tree : Tree) : Nat :=
  tree.nodes.size

/-- Nothing has been attached to the root. -/
def isEmpty (tree : Tree) : Bool :=
  tree.size ≤ 1

/-- The node of an index. -/
def node (tree : Tree) (id : Nat) : Node :=
  tree.nodes.getD id default

/-- The offset at which the next child of a node would start. -/
def stop (tree : Tree) (id : Nat) : Nat :=
  (tree.node id).stop

/-- Change one node. -/
def update (tree : Tree) (id : Nat) (change : Node → Node) : Tree :=
  ⟨tree.nodes.modify id change⟩

/-- A new node is given the next index. It is empty and starts where its parent ends. -/
def attach (tree : Tree) (parent : Nat) (origin : Origin) : Tree :=
  let start := tree.stop parent
  let id := tree.size
  let grown : Tree := ⟨tree.nodes.push { origin, parent := some parent, start, stop := start }⟩
  grown.update parent (Node.adopt id)

/-- Mark the latest child of a node as skipped whitespace. -/
def skipLast (tree : Tree) (parent : Nat) : Tree :=
  match (tree.node parent).children.back? with
  | none => tree
  | some child =>
    (tree.update child fun node => { node with whitespace := true }).update parent
      (Node.hideLast child)

/-- Mark a node as the match of a token. -/
def markTerminal (tree : Tree) (id : Nat) : Tree :=
  tree.update id fun node => { node with terminal := true }

/-- A node and its ancestors, at most a number of them. -/
def lineageWithin (tree : Tree) : Nat → Nat → List Nat
  | 0, _ => []
  | count + 1, id =>
    id :: match (tree.node id).parent with
      | some parent => tree.lineageWithin count parent
      | none => []

/-- A node and its ancestors up to the root. Indices fall on the way up. -/
def lineage (tree : Tree) (id : Nat) : List Nat :=
  tree.lineageWithin (id + 1) id

/-- Change a node and all its ancestors. -/
def updateLineage (tree : Tree) (id : Nat) (change : Node → Node) : Tree :=
  (tree.lineage id).foldl (fun tree id => tree.update id change) tree

/-- Take input at a node. -/
def eat (tree : Tree) (id amount : Nat) : Tree :=
  tree.updateLineage id (Node.lengthen amount)

/-- A token matches at the end of a node. -/
def matchToken (tree : Tree) (id length : Nat) : Tree :=
  (tree.markTerminal id).eat id length

/-- Give input back at a node. -/
def uneat (tree : Tree) (id amount : Nat) : Tree :=
  tree.updateLineage id (Node.shorten amount)

/-- Keep only the nodes below an index. -/
def truncate (tree : Tree) (size : Nat) : Tree :=
  ⟨tree.nodes.shrink size⟩

/-- Undo the latest child of a node: give back what it took, and forget it and everything
attached after it. -/
def discardLast (tree : Tree) (parent : Nat) : Tree :=
  match (tree.node parent).children.back? with
  | none => tree
  | some child =>
    let consumed := (tree.node child).consumed
    ((tree.update parent (Node.disownLast child)).uneat parent consumed).truncate child

/-- Where the content of a node ends, looking a number of levels down. -/
def contentEndWithin (tree : Tree) : Nat → Nat → Nat
  | 0, id => tree.stop id
  | depth + 1, id =>
    let node := tree.node id
    if node.terminal || node.children.isEmpty then node.stop
    else
      match node.children.toList.reverse.find? fun child =>
          !(tree.node child).whitespace && 0 < (tree.node child).consumed with
      | some child => tree.contentEndWithin depth child
      | none => node.start

/-- The end of the input covered by a node, without whitespace that was skipped after its
last token at any depth. -/
def contentEnd (tree : Tree) (id : Nat) : Nat :=
  tree.contentEndWithin tree.size id

/-- The nodes at and below a node, a number of levels down, parents before children. -/
def descendantsWithin (tree : Tree) : Nat → Nat → List Nat
  | 0, _ => []
  | depth + 1, id =>
    id :: (tree.node id).children.toList.flatMap (tree.descendantsWithin depth)

/-- All nodes that can be reached from the root, parents before children. -/
def reachable (tree : Tree) : List Nat :=
  tree.descendantsWithin tree.size root

/-- The match below a node, looking a number of levels down. -/
def renderWithin (tree : Tree) (source : Source) : Nat → Nat → String
  | 0, _ => ""
  | depth + 1, id =>
    let node := tree.node id
    match node.origin with
    | .root =>
      match node.semantic[0]? with
      | some child => tree.renderWithin source depth child
      | none => ""
    | .lambda _ => "-"
    | .rule rule =>
      if rule.isToken then
        let text := source.slice node.start node.stop
        if rule.isWhitespace then ""
        else if rule.isKeyword then text
        else "'" ++ text ++ "'"
      else
        let parts := (node.semantic.toList.filter fun child =>
          !(tree.node child).isWhitespaceToken).map (tree.renderWithin source depth)
        "(" ++ rule.name ++ ":" ++ String.join (parts.map (" " ++ ·)) ++ ")"

/-- The match below a node: keywords as they stand, other tokens in quotes, a missing item
as a hyphen and whitespace not at all. -/
def render (tree : Tree) (source : Source) (id : Nat) : String :=
  tree.renderWithin source tree.size id

end Tree

end Rulebook.Match
