/-
This file searches a text for a pattern. All ways in which a match could go on are followed
side by side, one character at a time, in the order in which the pattern prefers them. A way
that comes to an instruction already reached at the same place can do no better than the one
that came first and is dropped, so the work per character is bounded by the program.

Of all matches the one that begins first wins, and of those the most preferred.
-/

import Rulebook.Pattern.Footprint
import Rulebook.Pattern.Program
import Rulebook.Pattern.Reader

namespace Rulebook.Pattern

/-- The ways to go on from one place: the instructions reached, and those of them that wait
for a character or accept, the least preferred first. -/
structure Frontier where
  /-- The instruction at an address was reached. -/
  reached : Array Bool
  /-- Addresses of instructions that do not lead on by themselves. -/
  waiting : List Nat := []

/-- The frontier that has reached nothing. -/
def Program.fresh (program : Program) : Frontier :=
  { reached := Array.replicate program.code.size false }

/-- Extend a frontier by everything that some addresses lead to without taking a character.
The addresses still to be visited are held with the most preferred first. The first argument
bounds the number of visits: an instruction sends the search to two others at most, and only
on the first visit. -/
def Program.explore (program : Program) (before after : Option Char) :
    Nat → List Nat → Frontier → Frontier
  | 0, _, frontier => frontier
  | _, [], frontier => frontier
  | budget + 1, address :: pending, ⟨reached, waiting⟩ =>
    if reached.getD address true then
      program.explore before after budget pending ⟨reached, waiting⟩
    else
      let reached := reached.setIfInBounds address true
      match program.code[address]? with
      | some (.require look next) =>
        let pending := if look.holds before after then next :: pending else pending
        program.explore before after budget pending ⟨reached, waiting⟩
      | some (.branch first second) =>
        program.explore before after budget (first :: second :: pending) ⟨reached, waiting⟩
      | _ => program.explore before after budget pending ⟨reached, address :: waiting⟩

/-- Extend a frontier by everything an address leads to. -/
def Program.enter (program : Program) (before after : Option Char) (address : Nat)
    (frontier : Frontier) : Frontier :=
  program.explore before after (2 * program.code.size + 2) [address] frontier

/-- What one place in the text decides. -/
structure Verdict where
  /-- A way accepts here. -/
  accepted : Bool := false
  /-- The ways preferred to it, the most preferred first. -/
  live : List Nat := []

/-- The match is complete at an address. -/
def Program.accepts (program : Program) (address : Nat) : Bool :=
  match program.code[address]? with
  | some .accept => true
  | _ => false

/-- Go through the waiting ways from the most preferred on, up to one that accepts. -/
def Program.judge (program : Program) (waiting : List Nat) : Verdict :=
  { accepted := waiting.any program.accepts
    live := waiting.takeWhile fun address => !program.accepts address }

/-- Let one way take a character, if it can. -/
def Program.move (program : Program) (c : Char) (after : Option Char) (frontier : Frontier)
    (address : Nat) : Frontier :=
  match program.code[address]? with
  | some (.take set next) =>
    if set.contains c then program.enter (some c) after next frontier else frontier
  | _ => frontier

/-- Let every live way take a character, the most preferred first. -/
def Program.advance (program : Program) (c : Char) (after : Option Char) (live : List Nat) :
    Frontier :=
  live.foldl (program.move c after) program.fresh

/-- Follow the waiting ways through the rest of the text. The answer is the length in bytes
from the start of the search to the end of the best match. While no match is known, a
pattern that is not anchored may also begin at the next character. -/
def Program.follow (program : Program) (position : Nat) (best : Option Nat)
    (waiting : List Nat) : List Char → Option Nat
  | [] => if (program.judge waiting).accepted then some position else best
  | c :: rest =>
    let verdict := program.judge waiting
    let best := if verdict.accepted then some position else best
    let moved := program.advance c rest.head? verdict.live
    let searching := !program.anchored && best.isNone
    let frontier := if searching then program.enter (some c) rest.head? program.entry moved
      else moved
    if frontier.waiting.isEmpty && !searching then best
    else program.follow (position + c.utf8Size) best frontier.waiting.reverse rest

/-- The end of the match in a text, as a number of bytes from its start. -/
def Program.matchEnd? (program : Program) (text : List Char) : Option Nat :=
  let frontier := program.enter none text.head? program.entry program.fresh
  if frontier.waiting.isEmpty && program.anchored then none
  else program.follow 0 none frontier.waiting.reverse text

/-- The program that looks for a pattern at the start of a text. The pattern is put between
an anchored opening and a closing parenthesis before it is read. -/
def Program.compile? (pattern : String) (ignoreCase : Bool) : Option Program :=
  match Expr.read? ignoreCase ("^(?:".toList ++ pattern.toList ++ [')']) with
  | some expr => if expr.fits then some (.ofExpr expr) else none
  | none => none

end Rulebook.Pattern
