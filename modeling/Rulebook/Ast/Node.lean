/-
This file holds syntax trees. A node carries the name of the rule that produced it and the
input that the rule took, and has one of three shapes: a token, an optional item that matched
nothing, or children in order. Some children can be asked for by a name that the rule gave
them.
-/

import Rulebook.Ast.Value
import Rulebook.Text.Position

namespace Rulebook.Ast

/-- The text that a token matched. -/
structure Token where
  text : String
  /-- The rule of the token. -/
  rule : String
  /-- The offset of the first character. -/
  offset : Nat
  position : Position
  deriving DecidableEq, Repr

/-- A node of a syntax tree. -/
inductive Node where
  | terminal (name source : String) (token : Token)
  /-- An optional item that matched nothing. -/
  | lambda (name source : String)
  /-- Children, and the indices of those that have a name, sorted by name. -/
  | composite (name source : String) (children : List Node) (accessors : List (String × Nat))
  deriving Inhabited

namespace Node

/-! ### Making nodes -/

/-- A token. Its source is its text. -/
def ofToken (name : String) (token : Token) : Node :=
  .terminal name token.text token

/-- An optional item that matched nothing. -/
def missing (name : String) : Node :=
  .lambda name ""

/-- A node with children, some of them with names. -/
def withAccessors (name : String) (children : List Node) (accessors : List (String × Nat)) :
    Node :=
  .composite name "" children accessors

/-- A node with children. -/
def ofChildren (name : String) (children : List Node) : Node :=
  withAccessors name children []

/-- A node with one child. -/
def wrap (name : String) (child : Node) : Node :=
  ofChildren name [child]

/-- The same node with another source. -/
def withSource (source : String) : Node → Node
  | .terminal name _ token => .terminal name source token
  | .lambda name _ => .lambda name source
  | .composite name _ children accessors => .composite name source children accessors

/-! ### Parts of a node -/

/-- The rule that produced the node. -/
def name : Node → String
  | .terminal name _ _ | .lambda name _ | .composite name _ _ _ => name

/-- The input that the rule took. -/
def source : Node → String
  | .terminal _ source _ | .lambda _ source | .composite _ source _ _ => source

/-- The node is a token. -/
def isTerminal : Node → Bool
  | .terminal .. => true
  | _ => false

/-- The node stands for an optional item that matched nothing. -/
def isLambda : Node → Bool
  | .lambda .. => true
  | _ => false

/-- The node has children, be it none. -/
def isComposite : Node → Bool
  | .composite .. => true
  | _ => false

/-- The token of a node that is one. -/
def token? : Node → Option Token
  | .terminal _ _ token => some token
  | _ => none

/-- The text of a token. -/
def text? (node : Node) : Option String :=
  node.token?.map (·.text)

/-- The position of a token. -/
def position? (node : Node) : Option Position :=
  node.token?.map (·.position)

/-- The value that the text of a token writes. -/
def value? (node : Node) : Option Value :=
  node.text?.map Value.ofText

/-- The children in order. -/
def children : Node → List Node
  | .composite _ _ children _ => children
  | _ => []

/-- The indices of the children that have a name. -/
def accessors : Node → List (String × Nat)
  | .composite _ _ _ accessors => accessors
  | _ => []

/-- The number of children. -/
def size (node : Node) : Nat :=
  node.children.length

/-- The child of an index. -/
def child? (node : Node) (index : Nat) : Option Node :=
  node.children[index]?

/-- There is a child of this name. -/
def has (node : Node) (accessor : String) : Bool :=
  (node.accessors.lookup accessor).isSome

/-- The child of a name. -/
def named? (node : Node) (accessor : String) : Option Node :=
  (node.accessors.lookup accessor).bind node.child?

/-- The names of children, sorted. -/
def keys (node : Node) : List String :=
  node.accessors.map (·.1)

/-! ### Walking a tree -/

mutual

/-- Visit a node and everything below it, parents first, until a visit says no. The answer
says whether the walk went through. -/
def walk {Memory : Type} (visit : Node → Memory → Bool × Memory) (node : Node)
    (memory : Memory) : Bool × Memory :=
  match visit node memory with
  | (false, memory) => (false, memory)
  | (true, memory) =>
    match node with
    | .composite _ _ children _ => walkAll visit children memory
    | _ => (true, memory)

/-- Visit some nodes and everything below them, until a visit says no. -/
def walkAll {Memory : Type} (visit : Node → Memory → Bool × Memory) (nodes : List Node)
    (memory : Memory) : Bool × Memory :=
  match nodes with
  | [] => (true, memory)
  | node :: rest =>
    match walk visit node memory with
    | (true, memory) => walkAll visit rest memory
    | (false, memory) => (false, memory)

end

/-- The child that the first node with such a child, at or below this one, has under a
name. -/
def find? (node : Node) (accessor : String) : Option Node :=
  (node.walk (fun node found =>
    match node.named? accessor with
    | some child => (false, some child)
    | none => (true, found)) none).2

/-- The texts of all tokens below a node, in order. -/
def allTexts (node : Node) : List String :=
  (node.walk (fun node texts =>
    match node.text? with
    | some text => (true, text :: texts)
    | none => (true, texts)) []).2.reverse

/-- The token that is reached by going to the first child again and again. -/
def firstTerminal? : Node → Option Node
  | .terminal name source token => some (.terminal name source token)
  | .lambda _ _ => none
  | .composite _ _ [] _ => none
  | .composite _ _ (first :: _) _ => firstTerminal? first

/-- The text of the first token. -/
def findText? (node : Node) : Option String :=
  node.firstTerminal?.bind text?

/-- The text of the first token under a child. A token counts as its own first child. -/
def findTextAt? (node : Node) (index : Nat) : Option String :=
  if index = 0 && node.isTerminal then node.text?
  else (node.child? index).bind findText?

/-- The text of the first token under a child that is found by name. -/
def findTextNamed? (node : Node) (accessor : String) : Option String :=
  (node.find? accessor).bind findText?

/-- The node at the end of a path of child indices. -/
def descend? (node : Node) : List Nat → Option Node
  | [] => some node
  | index :: rest => (node.child? index).bind fun child => child.descend? rest

/-! ### Equality -/

mutual

/-- Two nodes are the same tree. -/
def equal : Node → Node → Bool
  | .terminal name source token, .terminal name' source' token' =>
    name == name' && source == source' && token == token'
  | .lambda name source, .lambda name' source' => name == name' && source == source'
  | .composite name source children accessors, .composite name' source' children' accessors' =>
    name == name' && source == source' && accessors == accessors' && equalAll children children'
  | _, _ => false

/-- Two lists of nodes are the same. -/
def equalAll : List Node → List Node → Bool
  | [], [] => true
  | node :: rest, node' :: rest' => equal node node' && equalAll rest rest'
  | _, _ => false

end

instance : BEq Node := ⟨equal⟩

end Node

end Rulebook.Ast
