/-
This file holds ready-made tokens. Each is declared under its own upper-case name.
-/

import Rulebook.Grammar.Basic

namespace Rulebook

/-- A ready-made token. -/
inductive Builtin where
  | identifier
  | whitespace
  | integer
  | float
  | singleQuotedString
  | doubleQuotedString
  | singleLineComment
  | multiLineComment
  | boolean
  | regularExpression
  deriving DecidableEq, Repr

namespace Builtin

/-- All ready-made tokens. -/
def all : List Builtin :=
  [.identifier, .whitespace, .integer, .float, .singleQuotedString, .doubleQuotedString,
    .singleLineComment, .multiLineComment, .boolean, .regularExpression]

/-- The name under which a token is declared. -/
def name : Builtin → String
  | .identifier => "IDENTIFIER"
  | .whitespace => "WHITESPACE"
  | .integer => "INTEGER"
  | .float => "FLOAT"
  | .singleQuotedString => "SINGLEQUOTEDSTRING"
  | .doubleQuotedString => "DOUBLEQUOTEDSTRING"
  | .singleLineComment => "SINGLELINECOMMENT"
  | .multiLineComment => "MULTILINECOMMENT"
  | .boolean => "BOOLEAN"
  | .regularExpression => "REGULAREXPRESSION"

/-- The pattern of a token. -/
def pattern : Builtin → String
  | .identifier => "[a-zA-Z_][a-zA-Z_0-9]*"
  | .whitespace => "\\s+"
  | .integer => "-?\\d+"
  | .float => "-?\\d+(\\.\\d+)?(e\\d+)?"
  | .singleQuotedString => "'(?:[^\\\\']|\\\\[btnfr\"'\\\\])*'"
  | .doubleQuotedString => "\"(?:[^\\\\\"]|\\\\[btnfr\"'\\\\])*\""
  | .singleLineComment => "//[^\\n]*(\\n|$)"
  | .multiLineComment => "/\\*(?s:.)*?\\*/"
  | .boolean => "true|false"
  | .regularExpression => "/(?:[^\\\\/]|\\\\.)*/"

/-- The token is skipped between rules. -/
def isWhitespace : Builtin → Bool
  | .whitespace | .singleLineComment | .multiLineComment => true
  | _ => false

/-- The token of a name. -/
def ofName? (name : String) : Option Builtin :=
  all.find? (·.name == name)

end Builtin

/-- Declare a ready-made token. -/
def Grammar.addBuiltin (compile : Compiler) (builtin : Builtin) : Construction String :=
  addToken compile builtin.name builtin.pattern builtin.isWhitespace

end Rulebook
