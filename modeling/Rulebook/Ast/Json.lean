/-
This file writes syntax trees in JSON. The fields of an object keep the order in which they
are given here, so a tree has exactly one written form.
-/

import Rulebook.Ast.Node
import Rulebook.Text.Decimal
import Rulebook.Text.Source

namespace Rulebook.Ast

/-- A JSON document, as far as syntax trees need it. -/
inductive Json where
  | number (value : Nat)
  | text (value : String)
  | array (items : List Json)
  | object (fields : List (String × Json))
  deriving Inhabited

namespace Json

open Source (spaces)

/-- A character inside a JSON text. -/
def escapeChar (c : Char) : List Char :=
  match c with
  | '"' => ['\\', '"']
  | '\\' => ['\\', '\\']
  | '\x08' => ['\\', 'b']
  | '\x0c' => ['\\', 'f']
  | '\n' => ['\\', 'n']
  | '\r' => ['\\', 'r']
  | '\t' => ['\\', 't']
  | c => if c.val < 32 then '\\' :: 'u' :: (Decimal.padded 16 4 c.toNat).toList else [c]

/-- A text in double quotes. -/
def quote (text : String) : String :=
  String.ofList ('"' :: text.toList.flatMap escapeChar ++ ['"'])

mutual

/-- A document, indented by two for each level. Nothing breaks the line inside an empty array
or object. -/
def prettyAt (indent : Nat) : Json → String
  | .number value => toString value
  | .text value => quote value
  | .array [] => "[]"
  | .array (first :: rest) =>
    "[\n" ++ spaces (indent + 2) ++ prettyAt (indent + 2) first ++ prettyItems (indent + 2) rest ++
      "\n" ++ spaces indent ++ "]"
  | .object [] => "\x7b\x7d"
  | .object ((key, first) :: rest) =>
    "\x7b\n" ++ spaces (indent + 2) ++ quote key ++ ": " ++ prettyAt (indent + 2) first ++
      prettyFields (indent + 2) rest ++ "\n" ++ spaces indent ++ "\x7d"

/-- The items of an array after the first. -/
def prettyItems (indent : Nat) : List Json → String
  | [] => ""
  | item :: rest => ",\n" ++ spaces indent ++ prettyAt indent item ++ prettyItems indent rest

/-- The fields of an object after the first. -/
def prettyFields (indent : Nat) : List (String × Json) → String
  | [] => ""
  | (key, value) :: rest =>
    ",\n" ++ spaces indent ++ quote key ++ ": " ++ prettyAt indent value ++
      prettyFields indent rest

end

/-- A document from the left margin. -/
def pretty (json : Json) : String :=
  json.prettyAt 0

end Json

/-- A position as an object. -/
def positionJson (position : Position) : Json :=
  .object [("line", .number position.line), ("column", .number position.column)]

/-- A token as an object. -/
def Token.toJson (token : Token) : Json :=
  .object [("text", .text token.text), ("rule", .text token.rule),
    ("offset", .number token.offset), ("position", positionJson token.position)]

namespace Node

mutual

/-- A tree as an object. The names of children are left out where there are none. -/
def toJson : Node → Json
  | .terminal name source token =>
    .object [("name", .text name), ("source", .text source), ("kind", .text "terminal"),
      ("token", token.toJson)]
  | .lambda name source =>
    .object [("name", .text name), ("source", .text source), ("kind", .text "lambda")]
  | .composite name source children accessors =>
    .object ([("name", .text name), ("source", .text source), ("kind", .text "composite"),
      ("children", .array (toJsonAll children))] ++
      if accessors.isEmpty then []
      else [("accessors", .object (accessors.map fun (key, index) => (key, .number index)))])

/-- Trees as objects. -/
def toJsonAll : List Node → List Json
  | [] => []
  | node :: rest => node.toJson :: toJsonAll rest

end

end Node

end Rulebook.Ast
