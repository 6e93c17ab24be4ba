/-
This file compares texts for checks: in full, at the start, or anywhere. A comparison that
fails tells what was wanted and what was there.
-/

namespace Rulebook.Check

/-- How a text is compared with what is wanted. -/
inductive TextMatch where
  | exact (expected : String)
  | startsWith (expected : String)
  | contains (expected : String)
  deriving DecidableEq, Repr

/-- Some characters stand somewhere among others. -/
def occursIn (wanted : List Char) : List Char → Bool
  | [] => wanted.isEmpty
  | c :: rest => wanted.isPrefixOf (c :: rest) || occursIn wanted rest

namespace TextMatch

/-- A text is as wanted. -/
def accepts (actual : String) : TextMatch → Bool
  | .exact expected => actual == expected
  | .startsWith expected => expected.toList.isPrefixOf actual.toList
  | .contains expected => occursIn expected.toList actual.toList

/-- What is wanted, in words. -/
def wanted : TextMatch → String
  | .exact expected => "be '" ++ expected ++ "'"
  | .startsWith expected => "start with '" ++ expected ++ "'"
  | .contains expected => "contain '" ++ expected ++ "'"

/-- Check a text; a complaint begins with the context given. -/
def check (mode : TextMatch) (actual context : String) : Except String Unit :=
  if mode.accepts actual then .ok ()
  else .error (context ++ ": Expected text to " ++ mode.wanted ++ ", but got '" ++ actual ++ "'")

end TextMatch

end Rulebook.Check
