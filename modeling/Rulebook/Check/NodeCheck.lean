/-
This file checks syntax trees. A check says what one node is to be like, or what one of its
children is to be like. Checks are made in order and the first that fails is told, with the
path from the node at which the checks began.
-/

import Rulebook.Ast.Render
import Rulebook.Check.TextMatch

namespace Rulebook.Check

open Rulebook.Ast (Node)

/-- Something wanted of a node. -/
inductive NodeCheck where
  | named (expected : String)
  | isTerminal
  | isLambda
  | isComposite
  /-- The text of a token. -/
  | text (expected : TextMatch)
  /-- The input that the node was matched from. -/
  | source (expected : String)
  /-- The node on one line. -/
  | renders (expected : String)
  /-- The position of a token. -/
  | located (line column : Nat)
  | childCount (expected : Nat)
  | child (index : Nat) (checks : List NodeCheck)
  | accessor (name : String) (checks : List NodeCheck)
  | noAccessor (name : String)

/-- A node with its shape. -/
def describe : Node → String
  | .terminal name source token => "terminal " ++ (Node.terminal name source token).render
  | .lambda name _ => "lambda '" ++ name ++ "'"
  | .composite name source children accessors =>
    "composite " ++ (Node.composite name source children accessors).render

/-- A condition, or else a complaint in a context. -/
def ensure (condition : Bool) (context complaint : String) : Except String Unit :=
  if condition then .ok () else .error (context ++ ": " ++ complaint)

/-- Nodes with commas between them. -/
def summarize (nodes : List Node) : String :=
  ", ".intercalate (nodes.map Node.render)

/-- The check on the position of a node. -/
def checkPosition (node : Node) (context : String) (line column : Nat) : Except String Unit :=
  match node.position? with
  | none =>
    .error (context ++ ": Expected a terminal with a position, found " ++ describe node)
  | some position =>
    ensure (position == ⟨line, column⟩) context
      ("Expected position " ++ (Position.mk line column).render ++ ", found " ++ position.render)

/-- The check on the text of a node. -/
def checkText (node : Node) (context : String) (expected : TextMatch) : Except String Unit :=
  match node.text? with
  | none => .error (context ++ ": Expected a terminal with text, found " ++ describe node)
  | some text => expected.check text context

mutual

/-- Make one check on a node. -/
def checkNode (context : String) (node : Node) : NodeCheck → Except String Unit
  | .named expected =>
    ensure (node.name == expected) context
      ("Expected node named '" ++ expected ++ "', found '" ++ node.name ++ "'")
  | .isTerminal =>
    ensure node.isTerminal context ("Expected a terminal, found " ++ describe node)
  | .isLambda => ensure node.isLambda context ("Expected a lambda, found " ++ describe node)
  | .isComposite =>
    ensure node.isComposite context ("Expected a composite, found " ++ describe node)
  | .text expected => checkText node context expected
  | .source expected => (TextMatch.exact expected).check node.source context
  | .renders expected =>
    ensure (node.render == expected) context
      ("Expected node to render as " ++ expected ++ ", got " ++ node.render)
  | .located line column => checkPosition node context line column
  | .childCount expected =>
    ensure (node.size == expected) context
      ("Expected " ++ toString expected ++ " children, found " ++ toString node.size ++ ": [" ++
        summarize node.children ++ "]")
  | .child index checks =>
    match node.child? index with
    | some child => checkAll (context ++ "[" ++ toString index ++ "]") child checks
    | none =>
      .error (context ++ ": Child index " ++ toString index ++ " out of bounds (node has " ++
        toString node.size ++ " children)")
  | .accessor name checks =>
    match node.named? name with
    | some child => checkAll (context ++ "." ++ name) child checks
    | none =>
      .error (context ++ ": No child named '" ++ name ++ "' (accessors: [" ++
        ", ".intercalate node.keys ++ "])")
  | .noAccessor name =>
    ensure (!node.has name) context ("Expected no child named '" ++ name ++ "'")

/-- Make some checks on a node, up to the first that fails. -/
def checkAll (context : String) (node : Node) : List NodeCheck → Except String Unit
  | [] => .ok ()
  | check :: rest =>
    match checkNode context node check with
    | .ok () => checkAll context node rest
    | .error complaint => .error complaint

end

/-- Make some checks on a node, in the context of its name. -/
def check (node : Node) (checks : List NodeCheck) : Except String Unit :=
  checkAll node.name node checks

end Rulebook.Check
