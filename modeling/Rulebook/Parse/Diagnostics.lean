/-
This file tracks how far a parse got. By the time the start symbol gives up, everything that
was tried has been undone; what helps is the furthest offset at which a rule was tried, and
the tokens that were tried there.
-/

import Rulebook.Grammar.Rule
import Rulebook.Parse.Error
import Rulebook.Sorted

namespace Rulebook

/-- How far a parse got. -/
structure Diagnostics where
  /-- The furthest offset at which a rule was tried. -/
  furthest : Option Nat := none
  /-- The stack of rules when that offset was first reached. -/
  stack : List Frame := []
  /-- The tokens tried at that offset, sorted. -/
  expected : List String := []
  deriving DecidableEq, Repr

namespace Diagnostics

/-- The offset lies beyond all others so far. -/
def advances (diagnostics : Diagnostics) (offset : Nat) : Bool :=
  diagnostics.furthest.all (· < offset)

/-- Note that a rule is about to be tried at an offset. -/
def record (diagnostics : Diagnostics) (offset : Nat) (rule : Rule) (stack : List Frame) :
    Diagnostics :=
  let reached :=
    if diagnostics.advances offset then { furthest := some offset, stack, expected := [] }
    else diagnostics
  if rule.isToken && reached.furthest.any (· ≤ offset) then
    { reached with expected := Sorted.insert rule.name reached.expected }
  else reached

/-- The tokens tried at an offset, if it is the furthest. -/
def expectedAt (diagnostics : Diagnostics) (offset : Nat) : List String :=
  if diagnostics.furthest = some offset then diagnostics.expected else []

end Diagnostics

end Rulebook
