/-
This file matches rules against a text. Everything goes through one operation, to match a
rule as the next child of a node; each kind of rule says how it uses that operation on the
rules it names. The kinds are therefore written with the operation as a parameter, and the
operation itself is closed under them at the end, with a bound on how deep it may go.

A rule that does not match leaves the tree as it was. A rule that matches has become a child
of the node, followed by the whitespace that was skipped after it.
-/

import Rulebook.Parse.Step

namespace Rulebook.Parse

open Match (Origin Tree)
open Step (changeTree setAlternative stop)

/-- To match a rule, by name, as the next child of a node. -/
abbrev Consume := Nat → String → Step Bool

/-- Match a rule if one is named; the value says what it means to name none. -/
def consumeOptional (consume : Consume) (node : Nat) (rule : Option String) (otherwise : Bool) :
    Step Bool :=
  match rule with
  | some rule => consume node rule
  | none => pure otherwise

/-! ### Tokens and whitespace -/

/-- Attach a node for a rule, let the rule work on it, and detach it again on failure. -/
def attemptWith (rule : Rule) (parent : Nat) (perform : Nat → Step Bool) : Step Bool := do
  let node ← Step.read (·.tree.size)
  changeTree (·.attach parent (.rule rule))
  let matched ← perform node
  if !matched then changeTree (·.discardLast parent)
  return matched

/-- Match a token at the end of its node. -/
def performToken (environment : Environment) (token : TokenRule) (node : Nat) : Step Bool := do
  let offset ← stop node
  match token.matchAt? environment.source offset with
  | some length =>
    changeTree (·.matchToken node length)
    return true
  | none => return false

/-- What the memo knows about a key; the memo counts the question. -/
def consult (key : MemoKey) : Step (Option (Option Nat)) := fun state =>
  match state.memo with
  | none => ⟨.done none state, .empty⟩
  | some memo =>
    let (known, memo) := memo.lookup key
    let state := { state with memo := some memo }
    ⟨.done known state, .single ⟨.changed, state⟩⟩

/-- Let the memo know an outcome. -/
def remember (key : MemoKey) (outcome : Option Nat) : Step Unit :=
  Step.change fun state => { state with memo := state.memo.map (·.store key outcome) }

/-- What the latest child of a node took. -/
def lastConsumed (tree : Tree) (parent : Nat) : Option Nat :=
  (tree.node parent).children.back?.map fun child => (tree.node child).consumed

/-- Take the outcome of a token from the memo, or try the token and let the memo know. -/
def attemptRemembering (rule : Rule) (parent : Nat) (attempt : Step Bool) : Step Bool := do
  let key : MemoKey := ⟨rule.grammar, ← stop parent, rule.name⟩
  match ← consult key with
  | some (some length) =>
    let node ← Step.read (·.tree.size)
    changeTree fun tree => (tree.attach parent (.rule rule)).matchToken node length
    return true
  | some none => return false
  | none =>
    let matched ← attempt
    let outcome ← Step.read fun state =>
      if matched then lastConsumed state.tree parent else none
    remember key outcome
    return matched

/-- Try a rule; if tokens are remembered, the memo may answer for a token. -/
def attemptMemoized (rule : Rule) (parent : Nat) (attempt : Step Bool) : Step Bool := do
  Step.note (.tried parent rule)
  let memoizing ← Step.read (·.memo.isSome)
  if memoizing && rule.isToken then attemptRemembering rule parent attempt else attempt

/-- Try a whitespace token. -/
def attemptBlank (environment : Environment) (parent : Nat) (rule : Rule) : Step Bool :=
  match rule.token? with
  | some token =>
    attemptMemoized rule parent (attemptWith rule parent (performToken environment token))
  | none => pure false

/-- Skip the first of some whitespace tokens that takes input. A token that matches the empty
text counts as not matching. -/
def skipOne (environment : Environment) (parent : Nat) : List Rule → Step Bool
  | [] => return false
  | rule :: rest => do
    let before ← stop parent
    if ← attemptBlank environment parent rule then
      if before < (← stop parent) then
        changeTree (·.skipLast parent)
        return true
      changeTree (·.discardLast parent)
    skipOne environment parent rest

/-- Skip whitespace tokens as long as one of them takes input, for a number of rounds. -/
def skipAll (environment : Environment) (parent : Nat) (tokens : List Rule) : Nat → Step Unit
  | 0 => Step.exhausted
  | rounds + 1 => do
    if ← skipOne environment parent tokens then skipAll environment parent tokens rounds

/-- Skip the whitespace tokens of the grammar at the end of a node. Every round takes input,
so there are no more rounds than bytes, and one that takes nothing. -/
def skipWhitespace (environment : Environment) (parent : Nat) : Step Unit := do
  let grammar ← Step.read (·.grammar)
  if !grammar.whitespaceDisabled then
    skipAll environment parent grammar.whitespaceTokens (environment.source.size + 1)

/-! ### Sequences and choices -/

/-- Note that an optional item matched nothing. -/
def leaveOut (environment : Environment) (node : Nat) (rule : String) : Step Unit := do
  changeTree (·.attach node (.lambda rule))
  if environment.tracing then
    Step.log (.omitted (← Step.read (·.stack.length)))

/-- Match items from left to right, the first of them having the given index. -/
def performSequence (environment : Environment) (consume : Consume) (node : Nat) :
    Nat → List SequenceItem → Step Bool
  | _, [] => return true
  | index, item :: rest => do
    setAlternative index
    if ← consume node item.rule then
      performSequence environment consume node (index + 1) rest
    else if item.required then return false
    else
      leaveOut environment node item.rule
      performSequence environment consume node (index + 1) rest

/-- Match the first alternative that matches. -/
def performChoice (consume : Consume) (node : Nat) : Nat → List String → Step Bool
  | _, [] => return false
  | index, alternative :: rest => do
    setAlternative index
    if ← consume node alternative then return true
    else performChoice consume node (index + 1) rest

/-! ### Lists -/

/-- The rounds of a list after its first item: a separator, then another item or the closing
delimiter. Items that match the empty text would go on for ever, so a round that starts no
further than the round before ends the parse. -/
def listRounds (environment : Environment) (consume : Consume) (name : String) (rule : ListRule)
    (node : Nat) : Nat → Nat → Option Nat → Step Bool
  | 0, _, _ => Step.exhausted
  | budget + 1, round, last => do
    if ← consumeOptional consume node rule.separator true then
      let position ← stop node
      if last.any (position ≤ ·) then
        abort environment (.unterminatedList name rule.item)
      else
        setAlternative (round + 1)
        if ← consumeOptional consume node rule.closing false then
          return rule.separator.isNone || rule.allowTrailing
        else if ← consume node rule.item then
          listRounds environment consume name rule node budget (round + 1) (some position)
        else
          return rule.closing.isNone && (rule.separator.isNone || rule.allowTrailing)
    else
      consumeOptional consume node rule.closing true

/-- Match a list: the opening delimiter, the closing one or a first item, and more rounds. -/
def performList (environment : Environment) (consume : Consume) (budget : Nat) (name : String)
    (rule : ListRule) (node : Nat) : Step Bool := do
  if !(← consumeOptional consume node rule.opening true) then return false
  else if ← consumeOptional consume node rule.closing false then return rule.nullable
  else if !(← consume node rule.item) then return rule.nullable && rule.closing.isNone
  else listRounds environment consume name rule node budget 0 none

/-! ### Sets -/

/-- Match the first of some numbered items that matches, and tell its number. -/
def firstMatch (consume : Consume) (node : Nat) : List (Nat × String) → Step (Option Nat)
  | [] => return none
  | (index, item) :: rest => do
    setAlternative index
    if ← consume node item then return some index
    else firstMatch consume node rest

/-- The rounds of a set, at most a number of them: an item that has not been used, then a
separator. The answer says whether a separator stands last. -/
def setRounds (consume : Consume) (rule : SetRule) (node : Nat) :
    Nat → List (Nat × String) → Bool → Step Bool
  | 0, _, pending => return pending
  | rounds + 1, available, pending => do
    match ← firstMatch consume node available with
    | none => return pending
    | some index =>
      let available := available.filter (·.1 != index)
      match rule.separator with
      | none => setRounds consume rule node rounds available false
      | some separator =>
        if ← consume node separator then setRounds consume rule node rounds available true
        else return false

/-- The items of a set with their numbers. -/
def numbered (items : List String) : List (Nat × String) :=
  (List.range items.length).zip items

/-- Match a set: delimiters around items in any order. -/
def performSet (consume : Consume) (rule : SetRule) (node : Nat) : Step Bool := do
  if !(← consumeOptional consume node rule.opening true) then return false
  else if ← setRounds consume rule node rule.items.length (numbered rule.items) false then
    return false
  else consumeOptional consume node rule.closing true

/-! ### Operators -/

/-- A node of this kind is looked through when an operator looks for itself. -/
def isTransparent : RuleKind → Bool
  | .operator _ | .choice _ => true
  | _ => false

/-- An operator is already being matched at one of some nodes, going upwards, with no input
taken since. Operators and choices are looked through; any other node that has taken input
ends the search. -/
def isRepeating (tree : Tree) (rule : Rule) : List Nat → Bool
  | [] => false
  | id :: rest =>
    let ancestor := tree.node id
    match ancestor.rule? with
    | none => false
    | some other =>
      if !isTransparent other.kind && 0 < ancestor.consumed then false
      else if other.same rule then true
      else isRepeating tree rule rest

/-- The rounds of an operator after its first operand. -/
def operatorRounds (consume : Consume) (rule : OperatorRule) (node : Nat) : Nat → Step Bool
  | 0 => Step.exhausted
  | budget + 1 => do
    if ← consume node rule.operator then
      if ← consume node rule.operand then operatorRounds consume rule node budget
      else return false
    else return true

/-- Match operands with operators between them. An operand may lead back to the operator
itself; such a detour fails at once. -/
def performOperator (consume : Consume) (budget : Nat) (self : Rule) (rule : OperatorRule)
    (node : Nat) : Step Bool := do
  if ← Step.read fun state => isRepeating state.tree self (state.tree.lineage node).tail then
    return false
  else if !(← consume node rule.operand) then return false
  else operatorRounds consume rule node budget

/-! ### Imports -/

/-- Match a rule of another grammar, after the whitespace of that grammar. -/
def performImport (environment : Environment) (consume : Consume) (rule : ImportRule)
    (node : Nat) : Step Bool :=
  match environment.registry.lookup? rule.grammar with
  | none => abort environment (.unresolvedImport rule.grammar)
  | some grammar => Step.withGrammar grammar do
    skipWhitespace environment node
    consume node rule.rule

/-! ### Any rule -/

/-- Match a rule on a node attached for it. -/
def perform (environment : Environment) (consume : Consume) (budget : Nat) (rule : Rule)
    (node : Nat) : Step Bool :=
  match rule.kind with
  | .token token => performToken environment token node
  | .sequence items => performSequence environment consume node 0 items
  | .choice choice => performChoice consume node 0 choice.alternatives
  | .list list => performList environment consume budget rule.name list node
  | .set set => performSet consume set node
  | .operator operator => performOperator consume budget rule operator node
  | .imported target => performImport environment consume target node

/-- Log an attempt, if attempts are logged. -/
def traceAttempt (environment : Environment) (offset : Nat)
    (event : Position → Nat → Log.Event) : Step Unit := do
  if environment.tracing then
    Step.log (event (environment.source.position offset) (← Step.read (·.stack.length)))

/-- The stack of rules is higher than the grammar or the settings allow; the answer is the
limit. -/
def exceededLimit? (environment : Environment) (state : State) : Option Nat :=
  match state.grammar.depthLimit <|> environment.options.maxDepth with
  | some limit => if limit < state.stack.length then some limit else none
  | none => none

/-- Match a rule that has been put on the stack: resolve its name, note the attempt, respect
the limit, try the rule, and skip the whitespace after it. -/
def invoke (environment : Environment) (attempt : Rule → Nat → Step Bool) (parent : Nat)
    (name : String) : Step Bool := do
  let offset ← stop parent
  Step.count fun statistics => { statistics with calls := statistics.calls + 1 }
  match ← Step.read (·.grammar.rule? name) with
  | none => abort environment (.undefinedRule name)
  | some rule =>
    Step.change fun state =>
      { state with diagnostics := state.diagnostics.record offset rule state.stack }
    match ← Step.read (exceededLimit? environment) with
    | some limit => abort environment (.maxRecursionDepth limit)
    | none =>
      traceAttempt environment offset (.tried · · name)
      if ← attemptMemoized rule parent (attempt rule parent) then
        skipWhitespace environment parent
        Step.count fun statistics => { statistics with found := statistics.found + 1 }
        traceAttempt environment offset (.matched · · name)
        return true
      else
        Step.count fun statistics => { statistics with notFound := statistics.notFound + 1 }
        return false

/-- Match a rule as the next child of a node. The bound counts the rules inside one another,
and the rounds of every loop. -/
def consume (environment : Environment) : Nat → Consume
  | 0, _, _ => Step.exhausted
  | fuel + 1, parent, name => do
    Step.note (.asked parent name)
    Step.withFrame name <| invoke environment (fun rule parent =>
      attemptWith rule parent (perform environment (consume environment fuel) fuel rule))
      parent name

end Rulebook.Parse
