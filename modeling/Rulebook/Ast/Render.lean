/-
This file writes syntax trees as text, in three ways: on one line, over several lines with
one child on each, and as an outline with connecting lines.
-/

import Rulebook.Ast.Node
import Rulebook.Text.Source

namespace Rulebook.Ast.Node

open Source (spaces)

/-! ### One line -/

mutual

/-- A tree on one line: tokens in quotes, a missing item as a hyphen, and children in
parentheses after the name of their parent. -/
def render : Node → String
  | .terminal _ _ token => "'" ++ token.text ++ "'"
  | .lambda _ _ => "-"
  | .composite name _ children _ => "(" ++ name ++ renderAll children ++ ")"

/-- Trees one after the other, each after a space. -/
def renderAll : List Node → String
  | [] => ""
  | node :: rest => " " ++ node.render ++ renderAll rest

end

/-! ### Several lines -/

mutual

/-- A tree over several lines. A node all of whose children are leaves stays on one line;
any other node has a line for each child, indented by two, and one for its closing
parenthesis. -/
def prettyAt (indent : Nat) : Node → String
  | .composite name source children accessors =>
    if children.all (!·.isComposite) then
      spaces indent ++ (Node.composite name source children accessors).render ++ "\n"
    else
      spaces indent ++ "(" ++ name ++ "\n" ++ prettyAll (indent + 2) children ++
        spaces indent ++ ")\n"
  | leaf => spaces indent ++ leaf.render ++ "\n"

/-- Trees over several lines, one after the other. -/
def prettyAll (indent : Nat) : List Node → String
  | [] => ""
  | node :: rest => node.prettyAt indent ++ prettyAll indent rest

end

/-- A tree over several lines, from the left margin. -/
def pretty (node : Node) : String :=
  node.prettyAt 0

/-! ### Outlines -/

/-- How many characters of a token an outline shows. -/
def outlineWidth : Nat := 30

/-- A text cut short, with dots to say so. -/
def abbreviate (text : String) : String :=
  if outlineWidth < text.length then String.ofList (text.toList.take outlineWidth) ++ "..."
  else text

/-- A node in an outline, without its children. -/
def label : Node → String
  | .terminal name _ token => name ++ " '" ++ abbreviate token.text ++ "'"
  | .lambda name _ => name ++ " -"
  | .composite name _ _ _ => name

mutual

/-- A branch of an outline, after the lines that come down from above. -/
def branch (above : String) (last : Bool) : Node → String
  | .composite name _ children _ =>
    above ++ (if last then "└─ " else "├─ ") ++ name ++ "\n" ++
      branches (above ++ if last then "  " else "│ ") children
  | leaf => above ++ (if last then "└─ " else "├─ ") ++ leaf.label ++ "\n"

/-- The branches of one node. The last one ends the line that connects them. -/
def branches (above : String) : List Node → String
  | [] => ""
  | node :: rest => node.branch above rest.isEmpty ++ branches above rest

end

/-- A tree with one line for each node. -/
def outline (node : Node) : String :=
  node.label ++ "\n" ++ branches "" node.children

end Rulebook.Ast.Node
