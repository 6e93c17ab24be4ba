/-
This file turns expressions into programs: numbered instructions that say which character
to take and where to go on. A branch lists the preferred way first, so the order in which
the instructions are explored is the order in which the expression prefers its matches.

Code is laid out backwards. The code of an expression is generated knowing the address
where the search goes on after it, so only a repetition, which goes on at itself, has to
reserve an address before its body exists.
-/

import Rulebook.Pattern.Expr

namespace Rulebook.Pattern

/-- One instruction of a program. -/
inductive Instruction where
  /-- The match is complete. -/
  | accept
  /-- Take one character of the set and go on. -/
  | take (chars : CharSet) (next : Nat)
  /-- Go on if the condition holds here. -/
  | require (condition : Look) (next : Nat)
  /-- Try the first way, then the second. -/
  | branch (first second : Nat)
  deriving Repr, Inhabited

/-- Instructions by address. -/
abbrev Code := Array Instruction

namespace Code

/-- Append an instruction, and tell its address. -/
def emit (code : Code) (instruction : Instruction) : Nat × Code :=
  (code.size, code.push instruction)

/-- A branch between another round and the way out. -/
def choice (greedy : Bool) (round out : Nat) : Instruction :=
  if greedy then .branch round out else .branch out round

/-- Put a piece of code in front, a number of times. -/
def times (piece : Nat → Code → Nat × Code) : Nat → Nat → Code → Nat × Code
  | 0, next, code => (next, code)
  | count + 1, next, code =>
    let (entry, code) := piece next code
    times piece count entry code

/-- Put a piece of code in front a number of times, each time with a way out. The ways out
all lead to the same address. -/
def optionally (greedy : Bool) (out : Nat) (piece : Nat → Code → Nat × Code) :
    Nat → Nat → Code → Nat × Code
  | 0, next, code => (next, code)
  | count + 1, next, code =>
    let (round, code) := piece next code
    let (entry, code) := code.emit (choice greedy round out)
    optionally greedy out piece count entry code

/-- A piece of code that is followed by a choice to run it again. The address of that choice
is reserved first and filled in when the piece is in place. -/
def again (greedy : Bool) (piece : Nat → Code → Nat × Code) (next : Nat) (code : Code) :
    Nat × Code :=
  let (loop, code) := code.emit .accept
  let (round, code) := piece loop code
  (round, code.setIfInBounds loop (choice greedy round next))

/-- Code for an expression, given the address where the search goes on after it; the answer
has the address where the code is entered. A repetition whose body may be empty becomes an
optional repetition of at least one round, so that an empty round is tried before none. -/
def generate : Expr → Nat → Code → Nat × Code
  | .empty, next, code => (next, code)
  | .set set, next, code => code.emit (.take set next)
  | .look look, next, code => code.emit (.require look next)
  | .group _ body, next, code => generate body next code
  | .both first second, next, code =>
    let (middle, code) := generate second next code
    generate first middle code
  | .either first second, next, code =>
    let (right, code) := generate second next code
    let (left, code) := generate first next code
    code.emit (.branch left right)
  | .loop least (some most) greedy body, next, code =>
    let (rest, code) := optionally greedy next (generate body) (most - least) next code
    times (generate body) least rest code
  | .loop 0 none greedy body, next, code =>
    if body.nullable then
      let (round, code) := again greedy (generate body) next code
      code.emit (choice greedy round next)
    else
      let (loop, code) := code.emit .accept
      let (round, code) := generate body loop code
      (loop, code.setIfInBounds loop (choice greedy round next))
  | .loop (least + 1) none greedy body, next, code =>
    let (round, code) := again greedy (generate body) next code
    times (generate body) least round code

end Code

/-- A pattern ready to be searched for. -/
structure Program where
  /-- The instructions. -/
  code : Code
  /-- Where a match begins. -/
  entry : Nat
  /-- A match can only begin at the start of the text. -/
  anchored : Bool
  deriving Inhabited

/-- The program of an expression. The first instruction accepts. -/
def Program.ofExpr (expr : Expr) : Program :=
  let (entry, code) := Code.generate expr 0 #[.accept]
  { code, entry, anchored := expr.anchored }

end Rulebook.Pattern
