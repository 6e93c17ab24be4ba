/-
This file holds the settings of a single parse. What belongs to a grammar, such as its start
symbol, is set on the grammar instead.
-/

namespace Rulebook

/-- The settings of a parse. -/
structure ParseOptions where
  /-- Remember what tokens did at each offset. -/
  memoizeTokens : Bool := false
  /-- Log the counters once a parse succeeds. -/
  collectStats : Bool := false
  /-- A bound on the stack of rules, for grammars that set none themselves. -/
  maxDepth : Option Nat := none
  deriving DecidableEq, Repr, Inhabited

/-- The usual settings, with a memo. -/
def ParseOptions.memoized : ParseOptions :=
  { memoizeTokens := true }

end Rulebook
