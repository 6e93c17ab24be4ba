/-
This file publishes grammars under their names. Imports are resolved through a registry when
a rule is tried, so a grammar may be published after the grammars that import it.
-/

import Rulebook.Grammar.Basic
import Rulebook.Log
import Rulebook.Sorted

namespace Rulebook

/-- Grammars by name, sorted. -/
structure Registry where
  grammars : List (String × Grammar) := []

namespace Registry

/-- The grammar of a name. -/
def lookup? (registry : Registry) (name : String) : Option Grammar :=
  registry.grammars.lookup name

/-- The grammar of a name, or the complaint that there is none. -/
def get (registry : Registry) (name : String) : Except GrammarError Grammar :=
  match registry.lookup? name with
  | some grammar => .ok grammar
  | none => .error (.unknownGrammar name)

/-- A grammar of this name is published. -/
def contains (registry : Registry) (name : String) : Bool :=
  (registry.lookup? name).isSome

/-- Publish a grammar, in place of any other of its name. -/
def register (registry : Registry) (grammar : Grammar) : Registry × Log.Event :=
  (⟨Sorted.put grammar.name grammar registry.grammars⟩,
    if registry.contains grammar.name then .replaced grammar.name
    else .registered grammar.name grammar.ruleCount)

/-- Withdraw a grammar. -/
def unregister (registry : Registry) (name : String) : Registry :=
  ⟨Sorted.erase name registry.grammars⟩

/-- The names of all grammars, sorted. -/
def names (registry : Registry) : List String :=
  registry.grammars.map (·.1)

end Registry

end Rulebook
