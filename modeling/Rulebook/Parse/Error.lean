/-
This file holds the reasons for which a parse fails, and how a failure is told. A failure is
placed at the furthest offset at which a rule was tried, with the tokens that were tried
there and the stack of rules being matched.
-/

import Rulebook.Text.Escape
import Rulebook.Text.Position

namespace Rulebook

/-- A rule being matched, and which of its parts is being tried. -/
structure Frame where
  rule : String
  /-- The index of an alternative or of an item, or the number of a round. -/
  alternative : Nat := 0
  deriving DecidableEq, Repr

/-- A frame as a line of a stack. Parts are counted from one, and the first goes without
saying. -/
def Frame.render (frame : Frame) : String :=
  if 0 < frame.alternative then frame.rule ++ " no. " ++ toString (frame.alternative + 1)
  else frame.rule

/-- Why a parse failed. -/
inductive FailureCause where
  | noStartSymbol
  | unexpectedCharacter (c : Char)
  | unexpectedEndOfInput
  /-- The start symbol matched but input was left. -/
  | trailingInput
  /-- The items of a list matched without taking input. -/
  | unterminatedList (rule item : String)
  | maxRecursionDepth (limit : Nat)
  | unresolvedImport (grammar : String)
  | undefinedRule (rule : String)
  | unknownGrammar (grammar : String)
  deriving DecidableEq, Repr

/-- The cause in words. -/
def FailureCause.message : FailureCause → String
  | .noStartSymbol => "Grammar has no start symbol"
  | .unexpectedCharacter c => "Unexpected '" ++ Text.showChar c ++ "'"
  | .unexpectedEndOfInput => "Unexpected end of input (EOF)"
  | .trailingInput => "Parsing succeeded, but not all input was consumed"
  | .unterminatedList rule item =>
    "The rule '" ++ rule ++ "' never ends, its items ('" ++ item ++
      "') can match an empty string"
  | .maxRecursionDepth limit => "Maximum stack depth (" ++ toString limit ++ ") reached"
  | .unresolvedImport grammar => "Grammar import '" ++ grammar ++ "' could not be resolved"
  | .undefinedRule rule => "Undefined rule / token '" ++ rule ++ "'"
  | .unknownGrammar grammar => "Unknown grammar: '" ++ grammar ++ "'"

/-- A failed parse. -/
structure ParseError where
  cause : FailureCause
  /-- The furthest offset at which a rule was tried. -/
  offset : Option Nat := none
  position : Option Position := none
  /-- The line of the failure with a caret under its column. -/
  context : Option String := none
  /-- The tokens tried at the offset, sorted. -/
  expected : List String := []
  /-- The rules being matched, the outermost first. -/
  stack : List Frame := []
  deriving DecidableEq, Repr

namespace ParseError

/-- The failure with its place and the tokens that would have been welcome there. -/
def summary (error : ParseError) : String :=
  let place := match error.position with
    | none => ""
    | some position =>
      " at line " ++ toString position.line ++ " column " ++ toString position.column ++ ":" ++
        match error.context with
        | none => ""
        | some context => "\n\n" ++ context
  let wanted :=
    if error.expected.isEmpty then "" else "\nExpected: " ++ " or ".intercalate error.expected
  "Parse error: " ++ error.cause.message ++ place ++ wanted

/-- The summary and, if there is one, the stack. -/
def report (error : ParseError) : String :=
  if error.stack.isEmpty then error.summary
  else
    error.summary ++ "\nParse stack:\n" ++
      String.join (error.stack.map fun frame => "\t" ++ frame.render ++ "\n")

end ParseError

end Rulebook
