/-
This file runs a parse from beginning to end: whitespace, the start rule, and the check that
nothing is left. What a parse answers is a match of the whole text or the failure that says
where it stopped.
-/

import Rulebook.Parse.Engine

namespace Rulebook

/-- A text together with the match of all of it. -/
structure ParseTree where
  source : Source
  tree : Match.Tree
  statistics : Statistics

/-- The whole match in one line. -/
def ParseTree.matchString (result : ParseTree) : String :=
  result.tree.render result.source Match.Tree.root

namespace Parse

/-- How a parse ends. -/
inductive Answer where
  | parsed (result : ParseTree)
  | failed (error : ParseError)
  /-- The bound on the work was too small. -/
  | exhausted

/-- How a parse ends, and what it logged. -/
structure Report where
  answer : Answer
  log : List Log.Event := []

/-- The state in which a parse begins. -/
def State.initial (grammar : Grammar) (options : ParseOptions) : State :=
  { grammar, memo := if options.memoizeTokens then some {} else none }

/-- The parse could not be completed: the failure at an offset, with the stack of rules when
the furthest offset was reached. -/
def State.failure (state : State) (environment : Environment) (cause : FailureCause)
    (offset : Nat) : ParseError :=
  environment.failureAt cause offset (state.diagnostics.expectedAt offset)
    state.diagnostics.stack

/-- The failure of a parse whose start rule did not match. -/
def State.mismatch (state : State) (environment : Environment) : ParseError :=
  let offset := state.diagnostics.furthest.getD 0
  let cause := match environment.source.charAt? offset with
    | some c => .unexpectedCharacter c
    | none => .unexpectedEndOfInput
  state.failure environment cause offset

/-- The failure of a parse that left input. If something was still being tried at the very
end, the input stops short. -/
def State.leftover (state : State) (environment : Environment) (stop : Nat) : ParseError :=
  let offset := match state.diagnostics.furthest with
    | some furthest => max furthest stop
    | none => stop
  let cause := if environment.source.size ≤ offset then .unexpectedEndOfInput
    else .trailingInput
  state.failure environment cause offset

/-- The counters at the end of a parse, with those of the memo. -/
def State.totals (state : State) : Statistics :=
  match state.memo with
  | some memo => { state.statistics with cacheHits := memo.hits, cacheMisses := memo.misses }
  | none => state.statistics

/-- Skip whitespace, then match the start rule. -/
def begin (environment : Environment) (fuel : Nat) (start : String) : Step Bool := do
  skipWhitespace environment Match.Tree.root
  consume environment fuel Match.Tree.root start

/-- What a parse answers once its start rule is done with. -/
def conclude (environment : Environment) : Outcome Bool → Report
  | .exhausted => { answer := .exhausted }
  | .aborted error state => { answer := .failed error, log := state.log.toList }
  | .done false state =>
    { answer := .failed (state.mismatch environment), log := state.log.toList }
  | .done true state =>
    let stop := state.tree.stop Match.Tree.root
    if stop < environment.source.size then
      { answer := .failed (state.leftover environment stop), log := state.log.toList }
    else
      let statistics := state.totals
      let finished :=
        if environment.options.collectStats then [.finished state.grammar.name statistics]
        else []
      { answer := .parsed { source := environment.source, tree := state.tree, statistics }
        log := state.log.toList ++ finished }

/-- Parse a text with a grammar, from a given rule or from the start symbol of the grammar. -/
def run (environment : Environment) (fuel : Nat) (grammar : Grammar) (start : Option String) :
    Report :=
  match start <|> grammar.startSymbol with
  | none => { answer := .failed { cause := .noStartSymbol } }
  | some start =>
    conclude environment
      (begin environment fuel start (State.initial grammar environment.options)).outcome

/-- More work than any parse can do in practice. -/
def ample : Nat := 4611686018427387904

/-- Parse a text with a published grammar. -/
def runNamed (environment : Environment) (fuel : Nat) (name : String) (start : Option String) :
    Report :=
  match environment.registry.lookup? name with
  | some grammar => run environment fuel grammar start
  | none => { answer := .failed { cause := .unknownGrammar name } }

end Parse

end Rulebook
