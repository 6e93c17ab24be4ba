/-
This file counts what happens during a parse.
-/

namespace Rulebook

/-- The counters of one parse. -/
structure Statistics where
  /-- How often a rule was asked for. -/
  calls : Nat := 0
  /-- How often it matched. -/
  found : Nat := 0
  /-- How often it did not. -/
  notFound : Nat := 0
  /-- Token outcomes taken from the memo. -/
  cacheHits : Nat := 0
  /-- Token outcomes that were not in the memo. -/
  cacheMisses : Nat := 0
  deriving DecidableEq, Repr

/-- The counters on one line. -/
def Statistics.render (statistics : Statistics) : String :=
  "/".intercalate ([statistics.calls, statistics.found, statistics.notFound,
    statistics.cacheHits, statistics.cacheMisses].map toString) ++
    " (read attempts/successful reads/failed reads/cache hits/cache misses)"

end Rulebook
