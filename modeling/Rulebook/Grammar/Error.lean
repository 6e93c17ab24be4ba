/-
This file holds what can go wrong while a grammar is put together or looked up.
-/

namespace Rulebook

/-- A refusal to extend a grammar, or a name that is not there. -/
inductive GrammarError where
  | duplicateRule (grammar rule : String)
  | invalidTokenPattern (rule pattern : String)
  | keywordConflict (keyword : String)
  | undefinedRule (grammar rule : String)
  | unknownGrammar (name : String)
  deriving DecidableEq, Repr

/-- What a refusal says. -/
def GrammarError.message : GrammarError → String
  | .duplicateRule grammar rule =>
    "A rule for '" ++ rule ++ "' has already been registered in grammar '" ++ grammar ++ "'"
  | .invalidTokenPattern rule pattern =>
    "Invalid token definition '" ++ rule ++ "', regular expression /" ++ pattern ++
      "/ is invalid"
  | .keywordConflict keyword =>
    "Failed to register keyword '" ++ keyword ++
      "': the same token is already defined as a non-keyword or whitespace token"
  | .undefinedRule grammar rule =>
    "Undefined rule / token '" ++ rule ++ "' in grammar '" ++ grammar ++ "'"
  | .unknownGrammar name => "Unknown grammar: '" ++ name ++ "'"

end Rulebook
