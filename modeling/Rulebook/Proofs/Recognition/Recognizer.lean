/-
This file says what it means for a rule to match at an offset, without a parse. A recognizer
is asked for a rule of a grammar and tells where a match of it would end. It builds no tree,
remembers nothing, keeps no stack and takes nothing back: whoever asks goes on from the offset
that was told, or still knows the offset at which the question was put.

Operators are not recognized. What an operator matches depends on the rules inside which it is
asked for, and not on the offset alone.
-/

import Rulebook.Grammar.Registry
import Rulebook.Parse.Error

namespace Rulebook.Recognition

/-- What a recognizer makes of a question: it has an answer, it ends the whole parse, or the
bound on the work was too small. -/
inductive Verdict (Value : Type) where
  | gives (value : Value)
  | aborts (cause : FailureCause)
  | exhausted
  deriving DecidableEq, Repr

/-- One question after another. -/
protected def Verdict.bind {Value Result : Type} (verdict : Verdict Value)
    (next : Value → Verdict Result) : Verdict Result :=
  match verdict with
  | .gives value => next value
  | .aborts cause => .aborts cause
  | .exhausted => .exhausted

instance : Monad Verdict where
  pure := .gives
  bind := .bind

/-- Where a match of a rule would end that is asked for, by name, at an offset. -/
abbrev Ask := Nat → String → Verdict (Option Nat)

/-- A match that ends at an offset, on a condition. -/
def accept (holds : Bool) (offset : Nat) : Option Nat :=
  if holds then some offset else none

/-- Ask for a rule if one is named; the value says what it means to name none. -/
def optional (ask : Ask) (rule : Option String) (otherwise : Bool) (offset : Nat) :
    Verdict (Option Nat) :=
  match rule with
  | some rule => ask offset rule
  | none => return accept otherwise offset

/-! ### Tokens and whitespace -/

/-- The end of the first of some whitespace tokens that takes input. -/
def blankAt? (source : Source) (offset : Nat) : List Rule → Option Nat
  | [] => none
  | rule :: rest =>
    match rule.token?.bind (·.matchAt? source offset) with
    | some (length + 1) => some (offset + (length + 1))
    | _ => blankAt? source offset rest

/-- The end of the whitespace from an offset on, looking at a number of tokens. -/
def blanksWithin (source : Source) (tokens : List Rule) : Nat → Nat → Nat
  | 0, offset => offset
  | rounds + 1, offset =>
    match blankAt? source offset tokens with
    | some stop => blanksWithin source tokens rounds stop
    | none => offset

/-- The end of the whitespace of a grammar from an offset on. There are no more tokens that
take input than bytes. -/
def afterBlanks (source : Source) (grammar : Grammar) (offset : Nat) : Nat :=
  if grammar.whitespaceDisabled then offset
  else blanksWithin source grammar.whitespaceTokens (source.size + 1) offset

/-! ### Sequences and choices -/

/-- Items from left to right, any of which may be missing that is not required. -/
def sequence (ask : Ask) : List SequenceItem → Nat → Verdict (Option Nat)
  | [], offset => return some offset
  | item :: rest, offset => do
    match ← ask offset item.rule with
    | some stop => sequence ask rest stop
    | none => if item.required then return none else sequence ask rest offset

/-- The first alternative that matches. -/
def choice (ask : Ask) (offset : Nat) : List String → Verdict (Option Nat)
  | [] => return none
  | alternative :: rest => do
    match ← ask offset alternative with
    | some stop => return some stop
    | none => choice ask offset rest

/-! ### Lists -/

/-- The rounds of a list after its first item: a separator, then another item or the closing
delimiter. A round has to start further on than the round before. -/
def listRounds (ask : Ask) (name : String) (rule : ListRule) :
    Nat → Option Nat → Nat → Verdict (Option Nat)
  | 0, _, _ => .exhausted
  | budget + 1, last, offset => do
    match ← optional ask rule.separator true offset with
    | none => optional ask rule.closing true offset
    | some start =>
      if last.any (start ≤ ·) then .aborts (.unterminatedList name rule.item)
      else
        match ← optional ask rule.closing false start with
        | some stop => return accept (rule.separator.isNone || rule.allowTrailing) stop
        | none =>
          match ← ask start rule.item with
          | some stop => listRounds ask name rule budget (some start) stop
          | none =>
            return accept
              (rule.closing.isNone && (rule.separator.isNone || rule.allowTrailing)) start

/-- A list: the opening delimiter, the closing one or a first item, and more rounds. -/
def list (ask : Ask) (budget : Nat) (name : String) (rule : ListRule) (offset : Nat) :
    Verdict (Option Nat) := do
  match ← optional ask rule.opening true offset with
  | none => return none
  | some start =>
    match ← optional ask rule.closing false start with
    | some stop => return accept rule.nullable stop
    | none =>
      match ← ask start rule.item with
      | none => return accept (rule.nullable && rule.closing.isNone) start
      | some stop => listRounds ask name rule budget none stop

/-! ### Sets -/

/-- The end of the first of some items that matches, and the items that are left. Some items
have been passed over before. -/
def pick (ask : Ask) (offset : Nat) (passed : List String) :
    List String → Verdict (Option (Nat × List String))
  | [] => return none
  | item :: rest => do
    match ← ask offset item with
    | some stop => return some (stop, passed ++ rest)
    | none => pick ask offset (passed ++ [item]) rest

/-- The rounds of a set, at most a number of them: an item that is left, then a separator. The
answer is where they end, and whether a separator stands last. -/
def setRounds (ask : Ask) (rule : SetRule) :
    Nat → List String → Bool → Nat → Verdict (Nat × Bool)
  | 0, _, pending, offset => return (offset, pending)
  | rounds + 1, items, pending, offset => do
    match ← pick ask offset [] items with
    | none => return (offset, pending)
    | some (stop, left) =>
      match rule.separator with
      | none => setRounds ask rule rounds left false stop
      | some separator =>
        match ← ask stop separator with
        | some further => setRounds ask rule rounds left true further
        | none => return (stop, false)

/-- A set: delimiters around items in any order. -/
def set (ask : Ask) (rule : SetRule) (offset : Nat) : Verdict (Option Nat) := do
  match ← optional ask rule.opening true offset with
  | none => return none
  | some start =>
    let (stop, pending) ← setRounds ask rule rule.items.length rule.items false start
    if pending then return none else optional ask rule.closing true stop

/-! ### Any rule -/

/-- The end of a match of a rule, without the whitespace after it. -/
def body (source : Source) (registry : Registry) (ask : Grammar → Ask) (budget : Nat)
    (grammar : Grammar) (offset : Nat) (rule : Rule) : Verdict (Option Nat) :=
  match rule.kind with
  | .token token => return (token.matchAt? source offset).map (offset + ·)
  | .sequence items => sequence (ask grammar) items offset
  | .choice rule => choice (ask grammar) offset rule.alternatives
  | .list list => Recognition.list (ask grammar) budget rule.name list offset
  | .set set => Recognition.set (ask grammar) set offset
  | .operator _ => return none
  | .imported target =>
    match registry.lookup? target.grammar with
    | none => .aborts (.unresolvedImport target.grammar)
    | some other => ask other (afterBlanks source other offset) target.rule

/-- The end of a match of a rule of a grammar, with the whitespace after it. The bound counts
the rules inside one another, and the rounds of every list. -/
def recognize (source : Source) (registry : Registry) : Nat → Grammar → Ask
  | 0, _, _, _ => .exhausted
  | fuel + 1, grammar, offset, name =>
    match grammar.rule? name with
    | none => .aborts (.undefinedRule name)
    | some rule => do
      let answer ← body source registry (recognize source registry fuel) fuel grammar offset rule
      return answer.map (afterBlanks source grammar)

end Rulebook.Recognition
