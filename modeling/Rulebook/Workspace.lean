/-
This file holds several grammars at once, each in a slot of its own, with two registries in
which they can be published and the syntax tree of the last successful parse.

The workspace sees to it that rules stay apart or together as they should. What is copied
from one slot to another, or published, is shared; new declarations are made in an edition
that no other grammar uses; and a change of all rules of one slot leaves shared rules to
those who share them.
-/

import Rulebook.Ast.Build
import Rulebook.Grammar.Builtin
import Rulebook.Grammar.Samples

namespace Rulebook

/-- The two registries of a workspace. -/
inductive Scope where
  /-- The registry of the workspace itself. -/
  | internal
  /-- The registry that is open to all. -/
  | common
  deriving DecidableEq, Repr

/-- Grammars being worked on. -/
structure Workspace where
  /-- The grammars by the names of their slots. -/
  slots : List (String × Grammar) := []
  internal : Registry := {}
  common : Registry := {}
  /-- The tree of the last successful parse. -/
  lastAst : Option Ast.Node := none
  /-- The next edition that no grammar uses. -/
  nextEdition : Nat := 0

namespace Workspace

/-- How patterns are compiled here. -/
def compile : Compiler :=
  Pattern.Program.compile?

/-- The grammar in a slot. -/
def slot? (workspace : Workspace) (slot : String) : Option Grammar :=
  workspace.slots.lookup slot

/-- Put a grammar into a slot. -/
def setSlot (workspace : Workspace) (slot : String) (grammar : Grammar) : Workspace :=
  { workspace with slots := Sorted.put slot grammar workspace.slots }

/-- One of the registries. -/
def registry (workspace : Workspace) : Scope → Registry
  | .internal => workspace.internal
  | .common => workspace.common

/-- Put another registry in place. -/
def setRegistry (workspace : Workspace) (scope : Scope) (registry : Registry) : Workspace :=
  match scope with
  | .internal => { workspace with internal := registry }
  | .common => { workspace with common := registry }

/-- Begin a grammar without rules in a slot. -/
def create (workspace : Workspace) (slot name : String) : Workspace :=
  { workspace.setSlot slot (.new name workspace.nextEdition) with
    nextEdition := workspace.nextEdition + 1 }

/-- Begin a grammar in a slot with what a construction declares, unless it is refused. -/
def createWith (workspace : Workspace) (slot name : String) (construction : Construction Unit) :
    Except GrammarError Workspace :=
  match construction.run (.new name workspace.nextEdition) with
  | .ok _ grammar =>
    .ok { workspace.setSlot slot grammar with nextEdition := workspace.nextEdition + 1 }
  | .error complaint _ => .error complaint

/-- Copy the grammar of a slot into another. The copies share their rules, but not those that
are declared later. -/
def copy (workspace : Workspace) (source target : String) : Option Workspace := do
  let grammar ← workspace.slot? source
  return { workspace.setSlot target { grammar with edition := workspace.nextEdition } with
    nextEdition := workspace.nextEdition + 1 }

/-- Change the grammar of a slot by a construction. What a refusal leaves behind stays. -/
def construct {Value : Type} (workspace : Workspace) (slot : String)
    (construction : Construction Value) :
    Option (Except GrammarError Value × Workspace) := do
  let grammar ← workspace.slot? slot
  match construction.run grammar with
  | .ok value grammar => return (.ok value, workspace.setSlot slot grammar)
  | .error complaint grammar => return (.error complaint, workspace.setSlot slot grammar)

/-- All grammars other than the one in a slot. -/
def others (workspace : Workspace) (slot : String) : List Grammar :=
  ((workspace.slots.filter (·.1 != slot)).map (·.2)) ++
    workspace.internal.grammars.map (·.2) ++ workspace.common.grammars.map (·.2)

/-- A rule of a slot is held by another grammar too. -/
def isShared (workspace : Workspace) (slot : String) (rule : Rule) : Bool :=
  (workspace.others slot).any fun grammar => grammar.rules.any rule.same

/-- Let the tokens of a slot ignore case or respect it. They are compiled anew in the order of
their declaration. -/
def setCaseInsensitive (workspace : Workspace) (slot : String) (value : Bool) :
    Option (Except GrammarError Unit × Workspace) :=
  { workspace with nextEdition := workspace.nextEdition + 1 }.construct slot
    (Grammar.setCaseInsensitive compile (workspace.isShared slot) workspace.nextEdition .declared
      value)

/-- Publish the grammar of a slot as it is now. -/
def register (workspace : Workspace) (scope : Scope) (slot : String) :
    Option (String × Log.Event × Workspace) := do
  let grammar ← workspace.slot? slot
  let (registry, event) := (workspace.registry scope).register grammar
  return (grammar.name, event, workspace.setRegistry scope registry)

/-- Withdraw a published grammar; the answer has the grammar, if there was one. -/
def unregister (workspace : Workspace) (scope : Scope) (name : String) :
    Option Grammar × Workspace :=
  let registry := workspace.registry scope
  (registry.lookup? name, workspace.setRegistry scope (registry.unregister name))

/-- The grammar with which a text is to be parsed. -/
inductive Target where
  /-- The grammar in a slot. -/
  | slot (name : String)
  /-- A published grammar. -/
  | published (name : String)

/-- Parse a text, resolving imports in one of the registries. -/
def parse (workspace : Workspace) (target : Target) (scope : Scope) (input : String)
    (start : Option String) (options : ParseOptions) (tracing : Bool) : Option Parse.Report :=
  let environment : Parse.Environment :=
    { source := .ofString input, registry := workspace.registry scope, options, tracing }
  match target with
  | .slot name =>
    (workspace.slot? name).map fun grammar => Parse.run environment Parse.ample grammar start
  | .published name => some (Parse.runNamed environment Parse.ample name start)

/-- Keep the tree of a successful parse. -/
def remember (workspace : Workspace) (ast : Ast.Node) : Workspace :=
  { workspace with lastAst := some ast }

end Workspace

end Rulebook
