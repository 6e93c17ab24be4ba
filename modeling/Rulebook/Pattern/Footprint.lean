/-
This file counts the bytes that the automaton of a pattern takes, and refuses patterns whose
automaton would take too many. The automaton reads bytes, not characters. It is needed in two
forms, one for each direction of reading: the forward one also notes where captures begin and
end. Nothing is built; the states are only counted, in the order in which they would be laid
out, because how much of a set can be shared depends on the numbers of its states.

Counting can take long, and most patterns are small. A bound that is quickly found from the
expression alone settles those.
-/

import Rulebook.Pattern.Plan
import Rulebook.Unicode.Utf8
import Std.Data.HashMap

namespace Rulebook.Pattern

open Rulebook.Unicode

/-- Patterns whose automaton would take more bytes than this are refused. -/
def footprintLimit : Nat := 10 * 1024 * 1024

/-! ### Layouts -/

/-- What has been laid out of an automaton. -/
structure Layout where
  /-- The number of states, which is also the number of the next one. -/
  states : Nat := 0
  /-- The bytes for lists of states that a state may lead to. -/
  links : Nat := 0

/-- The bytes of all states, with their lists. -/
def Layout.bytes (layout : Layout) : Nat :=
  32 * layout.states + layout.links

/-- Lay out more. -/
def Layout.add (layout : Layout) (states links : Nat) : Layout :=
  ⟨layout.states + states, layout.links + links⟩

/-- What has been laid out up to the end of a part. -/
structure LaidPart where
  layout : Layout
  /-- The last state of the part has a list, and what follows is one more entry in it. -/
  branching : Bool := false

/-- The layout with the part joined to what follows it. -/
def LaidPart.joined (part : LaidPart) : Layout :=
  if part.branching then part.layout.add 0 4 else part.layout

/-- The end of a part, if all up to there is within the limit. -/
def Layout.fit (layout : Layout) (branching : Bool) : Option LaidPart :=
  if layout.bytes ≤ footprintLimit then some { layout, branching } else none

/-! ### Sets -/

/-- A layout with states that can be shared. Each has a key that says where it leads, and is
remembered in a slot until another one takes that slot. -/
structure SharedLayout where
  layout : Layout
  remembered : Std.HashMap Nat (List Nat × Nat) := {}

/-- The number of the slot for a key. -/
def slotOf (slots : Nat) (key : List Nat) : Nat :=
  let mixed : UInt64 := key.foldl (fun mixed number => (mixed ^^^ number.toUInt64) * 1099511628211)
    14695981039346656037
  mixed.toNat % slots

/-- The number of the state with a key, which is laid out unless it is remembered. -/
def SharedLayout.state (slots : Nat) (key : List Nat) (links : Nat) (shared : SharedLayout) :
    Nat × SharedLayout :=
  let slot := slotOf slots key
  let known := match shared.remembered[slot]? with
    | some (known, state) => if known == key then some state else none
    | none => none
  match known with
  | some state => (state, shared)
  | none =>
    let state := shared.layout.states
    (state, ⟨shared.layout.add 1 links, shared.remembered.insert slot (key, state)⟩)

/-- Lay out sequences of byte ranges as a tree that is read forwards: those that begin with
the same range share the state before it. The first argument is the number of the state after
all of them, the second bounds their lengths. -/
def layOutTree (target : Nat) : Nat → List (List ByteRange) → SharedLayout → Nat × SharedLayout
  | 0, _, shared => (target, shared)
  | length + 1, sequences, shared =>
    let groups := sequences.splitBy fun left right => left.head? == right.head?
    let (key, shared) := groups.foldl (fun (key, shared) group =>
      match group with
      | ((low, high) :: rest) :: _ =>
        let (next, shared) :=
          if rest.isEmpty then (target, shared)
          else layOutTree target length (group.map List.tail) shared
        (key ++ [low, high, next], shared)
      | _ => (key, shared)) ([], shared)
    shared.state 10000 key (8 * groups.length)

/-- Lay out a sequence of byte ranges that is read backwards, from the state after it. -/
def layOutReversed (target : Nat) (sequence : List ByteRange) (shared : SharedLayout) :
    SharedLayout :=
  (sequence.foldl (fun (next, shared) (low, high) =>
    SharedLayout.state 1000 [next, low, high] 0 shared) (target, shared)).2

/-- Lay out a set of characters. -/
def layOutSet (backwards : Bool) (ranges : Ranges) (layout : Layout) : Layout :=
  if ranges.all fun interval => interval.2 < 128 then layout.add 2 (8 * ranges.length)
  else if backwards then
    (Utf8.sequences ranges).foldl (fun shared sequence =>
      let shared := layOutReversed (layout.states + 1) sequence shared
      { shared with layout := shared.layout.add 0 4 }) { layout := layout.add 2 0 } |>.layout
  else
    (layOutTree layout.states 4 (Utf8.sequences ranges) { layout := layout.add 1 0 }).2.layout

/-! ### Alternatives that are all literals -/

/-- The bytes of plans that are all literals. -/
def literals? : List Plan → Option (List (List Nat))
  | [] => some []
  | .literal text :: rest => (literals? rest).map (Utf8.encodeAll text :: ·)
  | _ => none

/-- The words between those that end here. Several in front that do count once. -/
def wordGroups (words : List (List Nat)) : List (List (List Nat)) :=
  let words := match words with
    | [] :: rest => [] :: rest.dropWhile List.isEmpty
    | words => words
  words.foldr (fun word groups =>
    match word, groups with
    | [], groups => [] :: groups
    | word, group :: groups => (word :: group) :: groups
    | word, [] => [[word]]) [[]]

/-- Lay out words as a tree in which they share their beginnings. The first argument bounds
their lengths. -/
def layOutWords : Nat → List (List Nat) → Layout → Layout
  | 0, _, layout => layout
  | length + 1, words, layout =>
    if words.all List.isEmpty then layout
    else
      let groups := wordGroups words
      let filled := groups.filter fun group => !group.isEmpty
      let layout := filled.foldl (fun layout group =>
        let firsts := (group.filterMap List.head?).eraseDups
        let layout := firsts.foldl (fun layout first =>
          layOutWords length ((group.filter (·.head? == some first)).map List.tail) layout) layout
        layout.add 1 (if firsts.length = 1 then 0 else 8 * firsts.length)) layout
      layout.add 1 (4 * (filled.length + (groups.length - 1)))

/-! ### Plans -/

/-- Lay out a part a number of times. -/
def layOutCopies (piece : Layout → Option LaidPart) : Nat → LaidPart → Option LaidPart
  | 0, part => some part
  | count + 1, part =>
    match piece part.joined with
    | some part => layOutCopies piece count part
    | none => none

/-- Lay out a part a number of times, each time with a way out. -/
def layOutOptions (piece : Layout → Option LaidPart) : Nat → LaidPart → Option LaidPart
  | 0, part => some part
  | count + 1, part =>
    match piece (part.joined.add 1 8) with
    | some part => layOutOptions piece count part
    | none => none

mutual

/-- Lay out a plan. -/
def Plan.layOut (backwards : Bool) : Plan → Layout → Option LaidPart
  | .empty, layout => (layout.add 1 0).fit false
  | .literal text, layout => (layout.add (Utf8.encodeAll text).length 0).fit false
  | .set ranges, layout => (layOutSet backwards ranges layout).fit false
  | .look _, layout => (layout.add 1 0).fit false
  | .capture body, layout =>
    if backwards then body.layOut backwards layout
    else do
      let part ← body.layOut backwards (layout.add 1 0)
      (part.joined.add 1 0).fit false
  | .sequence parts, layout => layOutParts backwards parts { layout }
  | .choice branches, layout =>
    match literals? branches with
    | some words =>
      let words := if backwards then words.map List.reverse else words
      let longest := words.foldl (fun longest word => max longest word.length) 0
      (layOutWords (longest + 1) words (layout.add 1 0)).fit false
    | none => layOutBranches backwards 0 branches layout
  | .loop 0 none _ body, layout =>
    if body.surelyAdvancing then do
      let part ← body.layOut backwards (layout.add 1 4)
      part.joined.fit true
    else do
      let part ← body.layOut backwards layout
      (part.joined.add 3 16).fit false
  | .loop least none _ body, layout => do
    let part ← layOutCopies (body.layOut backwards) least { layout }
    (part.joined.add 1 4).fit true
  | .loop 0 (some 1) _ body, layout => do
    let part ← body.layOut backwards (layout.add 1 0)
    (part.joined.add 1 8).fit false
  | .loop least (some most) _ body, layout => do
    let part ← layOutCopies (body.layOut backwards) least
      { layout := if least = 0 then layout.add 1 0 else layout }
    if most = least then return part
    else do
      let part ← layOutOptions (body.layOut backwards) (most - least)
        { part with layout := part.layout.add 1 0 }
      part.joined.fit false

/-- Lay out parts one after the other, in the direction of reading. -/
def layOutParts (backwards : Bool) : List Plan → LaidPart → Option LaidPart
  | [], part => some part
  | plan :: rest, part =>
    if backwards then do
      let part ← layOutParts backwards rest part
      plan.layOut backwards part.joined
    else do
      let part ← plan.layOut backwards part.joined
      layOutParts backwards rest part

/-- Lay out branches side by side, from the one with a number on. The states before and after
them come once there are two. -/
def layOutBranches (backwards : Bool) (number : Nat) : List Plan → Layout → Option LaidPart
  | [], layout => layout.fit false
  | plan :: rest, layout => do
    let part ← plan.layOut backwards layout
    layOutBranches backwards (number + 1) rest (part.joined.add (if number = 1 then 2 else 0) 4)

end

/-- The automaton of a plan is within the limit. A search that may begin anywhere begins with
a loop over all bytes; the whole match is a capture too. -/
def Plan.fits (backwards : Bool) (plan : Plan) : Bool :=
  let anchored := plan.guarded (if backwards then .textEnd else .textStart) backwards
  let start : Layout := if anchored then ⟨1, 0⟩ else ⟨3, 16⟩
  match (Plan.capture plan).layOut backwards start with
  | some part => ((part.joined.add 1 0).fit false).isSome
  | none => false

/-! ### A quick bound -/

/-- A bound on the number of stretches in a set, or in its closure under change of case. At
most three characters differ from a given one only in case, and fewer than three thousand
from any. -/
def CharSet.stretches (folded : Bool) : CharSet → Nat
  | .none => 0
  | .range low high => if folded then min (4 * (high.toNat - low.toNat + 1)) 3000 else 1
  | .digit => wideDigits.length + 1
  | .blank => blanks.length
  | .word => wideWords.length + 4
  | .table ranges => if folded then ranges.length + 3000 else ranges.length
  | .union left right => left.stretches folded + right.stretches folded
  | .inter left right =>
    left.stretches false + right.stretches false + 2 + if folded then 3000 else 0
  | .complement set => set.stretches false + 2 + if folded then 3000 else 0
  | .anyCase _ set => set.stretches true

/-- A bound on the bytes of an automaton for an expression, in either direction. An interval
of characters is described by sixteen sequences of four bytes at most. -/
def Expr.bound : Expr → Nat
  | .empty => 100
  | .set chars => 100 + 2600 * chars.stretches false
  | .look _ => 100
  | .group _ body => 100 + body.bound
  | .both first second => first.bound + second.bound
  | .either first second => 100 + first.bound + second.bound
  | .loop least most _ body => 200 + (body.bound + 60) * max 1 (most.getD least)

/-- The automata of an expression are within the limit. -/
def Expr.fits (expr : Expr) : Bool :=
  expr.bound + 300 ≤ footprintLimit ||
    (let plan := Plan.ofExpr expr
    plan.fits false && plan.fits true)

end Rulebook.Pattern
