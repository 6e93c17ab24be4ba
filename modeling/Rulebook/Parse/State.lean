/-
This file holds what a parse works with and what it changes. The state is one record, so a
step of a parse is a function of it.
-/

import Rulebook.Grammar.Registry
import Rulebook.Match.Tree
import Rulebook.Parse.Diagnostics
import Rulebook.Parse.Memo
import Rulebook.Parse.Options

namespace Rulebook.Parse

/-- What stays the same during a parse. -/
structure Environment where
  source : Source
  /-- Where imports are resolved. -/
  registry : Registry := {}
  options : ParseOptions := {}
  /-- Every attempt is logged. -/
  tracing : Bool := false

/-- What changes during a parse. -/
structure State where
  /-- The grammar whose rules are being matched. -/
  grammar : Grammar
  tree : Match.Tree := .new
  /-- The rules being matched, the innermost first. -/
  stack : List Frame := []
  diagnostics : Diagnostics := {}
  memo : Option Memo := none
  statistics : Statistics := {}
  /-- What has been logged. -/
  log : Array Log.Event := #[]

/-- A failure at an offset. -/
def Environment.failureAt (environment : Environment) (cause : FailureCause) (offset : Nat)
    (expected : List String) (stack : List Frame) : ParseError where
  cause
  offset := some offset
  position := some (environment.source.position offset)
  context := some (environment.source.highlight offset)
  expected
  stack := stack.reverse

/-- The failure that ends a parse at once: placed as far as the parse got, with the rules
being matched now. -/
def State.abortion (state : State) (environment : Environment) (cause : FailureCause) :
    ParseError :=
  let offset := state.diagnostics.furthest.getD (state.tree.stop Match.Tree.root)
  environment.failureAt cause offset (state.diagnostics.expectedAt offset) state.stack

end Rulebook.Parse
