/-
This file holds grammars and how they are put together. A grammar grows by declarations;
each adds one rule and answers with its name. References between rules are not checked here:
a rule that is missing shows when a parse first asks for it.

A declaration is a state change that may be refused, and the grammar after a refusal is part
of the outcome. What turns a pattern into a program is a parameter of every declaration that
needs it, so nothing here depends on how patterns are read.
-/

import Rulebook.Grammar.Error
import Rulebook.Grammar.Rule

namespace Rulebook

open Pattern (Program)

/-- A way to make programs from patterns. The flag says whether case is ignored. -/
abbrev Compiler := String → Bool → Option Program

/-- A named set of rules with its settings. -/
structure Grammar where
  name : String
  /-- New declarations are made in this edition. -/
  edition : Nat
  /-- The rules, in the order of their declaration. -/
  rules : List Rule := []
  /-- The names of the whitespace tokens, in the order of their declaration. -/
  whitespace : List String := []
  /-- The rule that declares a pattern, the latest declaration first. -/
  tokenPatterns : List (String × String) := []
  startSymbol : Option String := none
  caseInsensitive : Bool := false
  /-- A bound on the stack of rules being matched. -/
  depthLimit : Option Nat := none
  /-- Whitespace tokens are not skipped between rules. -/
  whitespaceDisabled : Bool := false
  /-- How many anonymous rules have been named. -/
  subruleCount : Nat := 0
  deriving Inhabited

/-- A change of a grammar that may be refused. -/
abbrev Construction := EStateM GrammarError Grammar

namespace Grammar

/-- A grammar without rules. -/
def new (name : String) (edition : Nat) : Grammar :=
  { name, edition }

/-! ### Looking up -/

/-- The rule of a name. -/
def rule? (grammar : Grammar) (name : String) : Option Rule :=
  grammar.rules.find? (·.name == name)

/-- There is a rule of this name. -/
def contains (grammar : Grammar) (name : String) : Bool :=
  (grammar.rule? name).isSome

/-- The rule of a name, or the complaint that there is none. -/
def rule (grammar : Grammar) (name : String) : Except GrammarError Rule :=
  match grammar.rule? name with
  | some rule => .ok rule
  | none => .error (.undefinedRule grammar.name name)

/-- The names of all rules, sorted. -/
def ruleNames (grammar : Grammar) : List String :=
  (grammar.rules.map (·.name)).mergeSort fun left right => decide (left ≤ right)

/-- The number of rules. -/
def ruleCount (grammar : Grammar) : Nat :=
  grammar.rules.length

/-- The whitespace tokens, in the order of their declaration. -/
def whitespaceTokens (grammar : Grammar) : List Rule :=
  grammar.whitespace.filterMap grammar.rule?

/-! ### Declarations -/

/-- Refuse a name that is already taken. -/
def ensureUnique (name : String) : Construction Unit := do
  let grammar ← get
  if grammar.contains name then throw (.duplicateRule grammar.name name)

/-- Declare a rule. -/
def addRule (name : String) (kind : RuleKind) : Construction String := do
  ensureUnique name
  modify fun grammar =>
    { grammar with rules := grammar.rules ++ [⟨name, grammar.name, grammar.edition, kind⟩] }
  return name

/-- The program of a token, or the complaint that its pattern is none. -/
def compileToken (compile : Compiler) (ignoreCase : Bool) (rule pattern : String) :
    Except GrammarError Program :=
  match compile pattern ignoreCase with
  | some program => .ok program
  | none => .error (.invalidTokenPattern rule pattern)

/-- Declare a token whose program is known. -/
def insertToken (name : String) (token : TokenRule) : Construction String := do
  ensureUnique name
  modify fun grammar =>
    { grammar with
      tokenPatterns := (token.pattern, name) :: grammar.tokenPatterns
      whitespace := if token.whitespace then grammar.whitespace ++ [name]
        else grammar.whitespace }
  addRule name (.token token)

/-- Compile a pattern under the settings of the grammar. -/
def compiled (compile : Compiler) (name pattern : String) : Construction Program := do
  match compileToken compile (← get).caseInsensitive name pattern with
  | .ok program => return program
  | .error complaint => throw complaint

/-- Declare a token. -/
def addToken (compile : Compiler) (name pattern : String) (whitespace : Bool) :
    Construction String := do
  ensureUnique name
  let program ← compiled compile name pattern
  insertToken name { pattern, program, whitespace, literal := none }

/-- A text made of unaccented letters and underscores. -/
def isPlainName (text : String) : Bool :=
  !text.isEmpty && text.toList.all fun c => c.isAlpha || c == '_'

/-- A pattern for a literal: whatever has a meaning in patterns is escaped, and a name is not
to run on into a longer word. -/
def literalPattern (literal : String) : String :=
  let escaped := literal.toList.flatMap fun c =>
    if Pattern.Escape.isMeta c then ['\\', c] else [c]
  String.ofList escaped ++ if isPlainName literal then "\\b" else ""

/-- Declare a keyword: a token for a literal, named by the literal in single quotes. The same
keyword may be asked for again. -/
def addKeyword (compile : Compiler) (literal : String) : Construction String := do
  let grammar ← get
  let pattern := literalPattern literal
  match grammar.tokenPatterns.lookup pattern with
  | some existing =>
    let reusable := ((grammar.rule? existing).bind Rule.token?).any fun token =>
      token.isKeyword && !token.whitespace
    if reusable then return existing else throw (.keywordConflict literal)
  | none =>
    let name := "'" ++ literal ++ "'"
    ensureUnique name
    let program ← compiled compile name pattern
    insertToken name { pattern, program, whitespace := false, literal := some literal }

/-- Declare a sequence. -/
def addSequence (name : String) (items : List SequenceItem) : Construction String :=
  addRule name (.sequence items)

/-- Declare a choice. -/
def addChoice (name : String) (alternatives : List String) (wrap : Bool) :
    Construction String :=
  addRule name (.choice { alternatives, wrap })

/-- Declare a list. -/
def addList (name : String) (rule : ListRule) : Construction String :=
  addRule name (.list rule)

/-- Declare a set. -/
def addSet (name : String) (rule : SetRule) : Construction String :=
  addRule name (.set rule)

/-- Declare an operator. -/
def addOperator (name : String) (associativity : Associativity) (operator operand : String) :
    Construction String :=
  addRule name (.operator { associativity, operator, operand })

/-- Declare a rule that stands for a rule of another grammar. -/
def addImport (name grammar rule : String) (wrap : Bool) : Construction String :=
  addRule name (.imported { grammar, rule, wrap })

/-- A fresh name for a rule without one. -/
def subruleName : Construction String := do
  modify fun grammar => { grammar with subruleCount := grammar.subruleCount + 1 }
  return "subrule_" ++ toString (← get).subruleCount

/-! ### Settings -/

/-- Choose the rule at which a parse begins. -/
def setStartSymbol (rule : String) : Construction Unit :=
  modify fun grammar => { grammar with startSymbol := some rule }

/-- Bound the stack of rules being matched. -/
def setDepthLimit (limit : Nat) : Construction Unit :=
  modify fun grammar => { grammar with depthLimit := some limit }

/-- Switch the skipping of whitespace off or on. -/
def setWhitespaceDisabled (disabled : Bool) : Construction Unit :=
  modify fun grammar => { grammar with whitespaceDisabled := disabled }

/-- Compile the token of a rule anew. Rules of other kinds stay as they are. -/
def recompileRule (compile : Compiler) (ignoreCase : Bool) (rule : Rule) :
    Except GrammarError Rule :=
  match rule.kind with
  | .token token =>
    match compileToken compile ignoreCase rule.name token.pattern with
    | .ok program => .ok { rule with kind := .token { token with program := program } }
    | .error complaint => .error complaint
  | _ => .ok rule

/-- An order in which the rules of a grammar are visited: for any number of rules their positions,
each of them once. -/
structure VisitOrder where
  positions : Nat → List Nat
  complete : ∀ count, (positions count).Perm (List.range count)

/-- The rules are visited as they were declared. -/
def VisitOrder.declared : VisitOrder where
  positions := List.range
  complete _ := .refl _

/-- Compile the tokens at some positions anew, up to the first that cannot be compiled. Each rule
on the way, a token or not, becomes a declaration of its own if others share it. -/
def recompileRules (compile : Compiler) (ignoreCase : Bool) (shared : Rule → Bool)
    (edition : Nat) : List Nat → List Rule → List Rule × Option GrammarError
  | [], rules => (rules, none)
  | position :: later, rules =>
    match rules[position]? with
    | none => recompileRules compile ignoreCase shared edition later rules
    | some rule =>
      let owned := rule.renew shared edition
      match recompileRule compile ignoreCase owned with
      | .error complaint => (rules.set position owned, some complaint)
      | .ok next =>
        recompileRules compile ignoreCase shared edition later (rules.set position next)

/-- Let all tokens, also those already declared, ignore case or respect it. The rules that
`shared` names are held by other grammars too, which keep theirs. The tokens are compiled anew in
any order. -/
def setCaseInsensitive (compile : Compiler) (shared : Rule → Bool) (edition : Nat)
    (order : VisitOrder) (value : Bool) : Construction Unit := do
  let grammar ← get
  let (rules, complaint) := recompileRules compile value shared edition
    (order.positions grammar.rules.length) grammar.rules
  set { grammar with caseInsensitive := value, rules := rules }
  match complaint with
  | some complaint => throw complaint
  | none => return ()

end Grammar

end Rulebook
