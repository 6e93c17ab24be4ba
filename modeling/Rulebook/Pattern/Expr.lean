/-
This file holds token patterns as expressions: what is left of a pattern once its text
has been read and its flags have been applied to the parts they govern. Alternatives are
ordered by preference and a repetition says which of more or fewer rounds it prefers, so
an expression denotes an ordered search and not only a language.
-/

import Rulebook.Pattern.CharSet

namespace Rulebook.Pattern

/-! ### Conditions -/

/-- A condition on the two characters around a place in the text. Those on words ask whether
a character belongs to a word, and the scope says which characters can. -/
inductive Look where
  | textStart
  | textEnd
  | lineStart
  | lineEnd
  | lineStartReturn
  | lineEndReturn
  | wordEdge (scope : Scope)
  | noWordEdge (scope : Scope)
  | wordStart (scope : Scope)
  | wordEnd (scope : Scope)
  | wordStartHalf (scope : Scope)
  | wordEndHalf (scope : Scope)
  deriving DecidableEq, Repr

/-- The character, if there is one, belongs to a word. -/
def Scope.inWord (scope : Scope) (c : Option Char) : Bool :=
  c.any scope.wordSet.contains

/-- A condition holds between the character before a place and the one after it. A line
start that knows carriage returns counts a return and a newline together as one break. -/
def Look.holds (before after : Option Char) : Look → Bool
  | .textStart => before.isNone
  | .textEnd => after.isNone
  | .lineStart => before.isNone || before == some '\n'
  | .lineEnd => after.isNone || after == some '\n'
  | .lineStartReturn =>
    before.isNone || before == some '\n' || (before == some '\r' && after != some '\n')
  | .lineEndReturn =>
    after.isNone || after == some '\r' || (after == some '\n' && before != some '\r')
  | .wordEdge scope => scope.inWord before != scope.inWord after
  | .noWordEdge scope => scope.inWord before == scope.inWord after
  | .wordStart scope => !scope.inWord before && scope.inWord after
  | .wordEnd scope => scope.inWord before && !scope.inWord after
  | .wordStartHalf scope => !scope.inWord before
  | .wordEndHalf scope => !scope.inWord after

/-! ### Expressions -/

/-- A pattern. A group only marks where parentheses stood, and whether they can be asked what
they matched. -/
inductive Expr where
  | empty
  | set (chars : CharSet)
  | look (condition : Look)
  | group (captures : Bool) (body : Expr)
  | both (first second : Expr)
  | either (first second : Expr)
  | loop (least : Nat) (most : Option Nat) (greedy : Bool) (body : Expr)
  deriving Repr, Inhabited

namespace Expr

/-- The expressions one after the other. -/
def sequence : List Expr → Expr
  | [] => .empty
  | [only] => only
  | first :: rest => .both first (sequence rest)

/-- The expressions as alternatives, the preferred one first. -/
def alternatives : List Expr → Expr
  | [] => .empty
  | [only] => only
  | first :: rest => .either first (alternatives rest)

/-- Some match of the expression may be empty. -/
def nullable : Expr → Bool
  | .empty => true
  | .set _ => false
  | .look _ => true
  | .group _ body => body.nullable
  | .both first second => first.nullable && second.nullable
  | .either first second => first.nullable || second.nullable
  | .loop least _ _ body => least == 0 || body.nullable

/-- The expression takes no character, whatever the text. -/
def weightless : Expr → Bool
  | .empty => true
  | .set _ => false
  | .look _ => true
  | .group _ body => body.weightless
  | .both first second => first.weightless && second.weightless
  | .either first second => first.weightless && second.weightless
  | .loop _ most _ body => most == some 0 || body.weightless

/-- A repetition. Where the body takes no character, a second round can do nothing that the
first has not done, so one round is enough. -/
def repeated (least : Nat) (most : Option Nat) (greedy : Bool) (body : Expr) : Expr :=
  if body.weightless then .loop (min least 1) (some ((most.getD 1).min 1)) greedy body
  else .loop least most greedy body

/-- Every match of the expression begins at the start of the text. -/
def anchored : Expr → Bool
  | .empty => false
  | .set _ => false
  | .look condition => condition == .textStart
  | .group _ body => body.anchored
  | .both first second => first.anchored || (first.weightless && second.anchored)
  | .either first second => first.anchored && second.anchored
  | .loop least _ _ body => 0 < least && body.anchored

end Expr

end Rulebook.Pattern
