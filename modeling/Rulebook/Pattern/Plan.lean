/-
This file brings patterns into the form in which their automata are laid out. A plan says the
same as the expression it is made of, with less: parts that do nothing are gone, characters
that follow one another are one literal, alternatives that are single characters or sets are
one set, and what all alternatives begin with stands in front of them.

Every constructor here simplifies only at the top, since the parts it is given are plans
already.
-/

import Rulebook.Pattern.Expr

namespace Rulebook.Pattern

open Rulebook.Unicode

/-- A pattern, ready to be laid out. -/
inductive Plan where
  | empty
  | literal (text : List Char)
  | set (ranges : Ranges)
  | look (condition : Look)
  | capture (body : Plan)
  | sequence (parts : List Plan)
  | choice (branches : List Plan)
  | loop (least : Nat) (most : Option Nat) (greedy : Bool) (body : Plan)
  deriving Inhabited

namespace Plan

/-! ### Comparison -/

mutual

/-- Two plans are the same. Captures are all different, since each is asked for by itself. -/
def same : Plan → Plan → Bool
  | .empty, .empty => true
  | .literal left, .literal right => left == right
  | .set left, .set right => left == right
  | .look left, .look right => left == right
  | .sequence left, .sequence right => sameAll left right
  | .choice left, .choice right => sameAll left right
  | .loop least most greedy body, .loop least' most' greedy' body' =>
    least == least' && most == most' && greedy == greedy' && same body body'
  | _, _ => false

/-- Two lists of plans are the same. -/
def sameAll : List Plan → List Plan → Bool
  | [], [] => true
  | left :: lefts, right :: rights => same left right && sameAll lefts rights
  | _, _ => false

end

/-! ### Lengths of matches -/

mutual

/-- The plan takes no character, whatever the text. -/
def weightless : Plan → Bool
  | .empty => true
  | .literal _ => false
  | .set _ => false
  | .look _ => true
  | .capture body => body.weightless
  | .sequence parts => allWeightless parts
  | .choice branches => allWeightless branches
  | .loop _ _ _ body => body.weightless

/-- None of some plans takes a character. -/
def allWeightless : List Plan → Bool
  | [] => true
  | plan :: rest => plan.weightless && allWeightless rest

end

mutual

/-- The empty set stands nowhere in the plan. -/
def possible : Plan → Bool
  | .set ranges => !ranges.isEmpty
  | .capture body => body.possible
  | .sequence parts => allPossible parts
  | .choice branches => allPossible branches
  | .loop _ _ _ body => body.possible
  | _ => true

/-- The empty set stands nowhere in some plans. -/
def allPossible : List Plan → Bool
  | [] => true
  | plan :: rest => plan.possible && allPossible rest

end

mutual

/-- No match is empty, as far as the lengths of the parts show. -/
def advancing : Plan → Bool
  | .empty => false
  | .literal _ => true
  | .set _ => true
  | .look _ => false
  | .capture body => body.advancing
  | .sequence parts => anyAdvancing parts
  | .choice branches => allAdvancing branches
  | .loop least _ _ body => 0 < least && body.advancing

/-- One of some plans has no empty match. -/
def anyAdvancing : List Plan → Bool
  | [] => false
  | plan :: rest => plan.advancing || anyAdvancing rest

/-- None of some plans has an empty match. -/
def allAdvancing : List Plan → Bool
  | [] => true
  | plan :: rest => plan.advancing && allAdvancing rest

end

/-- Every match is known to take a character. Of a part that matches nothing, no length is
known. -/
def surelyAdvancing (plan : Plan) : Bool :=
  plan.possible && plan.advancing

/-! ### Anchors -/

mutual

/-- Every match begins, or in the other direction ends, with a condition. -/
def guarded (condition : Look) (backwards : Bool) : Plan → Bool
  | .look actual => actual == condition
  | .capture body => body.guarded condition backwards
  | .sequence parts =>
    if backwards then guardedLast condition parts else guardedFirst condition parts
  | .choice branches => allGuarded condition backwards branches
  | .loop least _ _ body => 0 < least && body.guarded condition backwards
  | _ => false

/-- One of the parts up to the first that may take a character has the condition. -/
def guardedFirst (condition : Look) : List Plan → Bool
  | [] => false
  | part :: rest =>
    part.guarded condition false || (part.weightless && guardedFirst condition rest)

/-- One of the parts from the last that may take a character on has the condition. -/
def guardedLast (condition : Look) : List Plan → Bool
  | [] => false
  | part :: rest =>
    guardedLast condition rest || (allWeightless rest && part.guarded condition true)

/-- All branches have the condition. -/
def allGuarded (condition : Look) (backwards : Bool) : List Plan → Bool
  | [] => true
  | branch :: rest =>
    branch.guarded condition backwards && allGuarded condition backwards rest

end

/-! ### Constructors -/

/-- A set of characters; a set of one is a literal. -/
def ofRanges : Ranges → Plan
  | [(low, high)] => if low = high then .literal [Char.ofNat low] else .set [(low, high)]
  | ranges => .set ranges

/-- Put a part in front of the parts of a sequence. -/
def putFirst (part : Plan) (rest : List Plan) : List Plan :=
  match part, rest with
  | .empty, rest => rest
  | .literal first, .literal second :: rest => .literal (first ++ second) :: rest
  | part, rest => part :: rest

/-- Plans one after the other. -/
def inSequence (plans : List Plan) : Plan :=
  let parts := plans.foldr (fun plan rest =>
    match plan, rest with
    | .sequence parts, [] => parts
    | .sequence parts, rest => parts.foldr putFirst rest
    | part, rest => putFirst part rest) []
  match parts with
  | [] => .empty
  | [only] => only
  | parts => .sequence parts

/-- The characters of plans that are all single characters. -/
def singles? : List Plan → Option Ranges
  | [] => some []
  | .literal [c] :: rest => (singles? rest).map ((c.toNat, c.toNat) :: ·)
  | _ => none

/-- The sets of plans that are all sets. -/
def sets? : List Plan → Option (List Ranges)
  | [] => some []
  | .set ranges :: rest => (sets? rest).map (ranges :: ·)
  | _ => none

/-- The parts of plans that are all sequences. -/
def sequences? : List Plan → Option (List (List Plan))
  | [] => some []
  | .sequence parts :: rest => (sequences? rest).map (parts :: ·)
  | _ => none

/-- What two lists of parts both begin with. -/
def sharedPrefix : List Plan → List Plan → List Plan
  | left :: lefts, right :: rights =>
    if left.same right then left :: sharedPrefix lefts rights else []
  | _, _ => []

/-- The branches of a plan as alternatives of another one. -/
def branches : Plan → List Plan
  | .choice branches => branches
  | plan => [plan]

/-- Plans as alternatives. The first argument bounds how often something shared is put in
front; every time the alternatives lose a part. -/
def oneOfWithin : Nat → List Plan → Plan
  | _, [] => .set []
  | _, [only] => only
  | count, plans =>
    let plans := plans.flatMap branches
    match singles? plans, sets? plans, sequences? plans with
    | some ranges, _, _ => ofRanges ranges.arrange
    | _, some tables, _ => ofRanges (Ranges.unionAll tables)
    | _, _, some (first :: rest) =>
      match count, rest.foldl sharedPrefix first with
      | count + 1, shared@(_ :: _) =>
        let tails := (first :: rest).map fun parts => inSequence (parts.drop shared.length)
        inSequence (shared ++ [oneOfWithin count tails])
      | _, _ => .choice plans
    | _, _, _ => .choice plans

mutual

/-- The number of parts of a plan. -/
def size : Plan → Nat
  | .capture body => body.size + 1
  | .sequence parts => totalSize parts + 1
  | .choice branches => totalSize branches + 1
  | .loop _ _ _ body => body.size + 1
  | _ => 1

/-- The number of parts of some plans. -/
def totalSize : List Plan → Nat
  | [] => 0
  | plan :: rest => plan.size + totalSize rest

end

/-- Plans as alternatives. -/
def oneOf : List Plan → Plan
  | [only] => only
  | plans => oneOfWithin (totalSize plans) plans

/-- A repetition. A body that takes no character is matched once at most. -/
def repeated (least : Nat) (most : Option Nat) (greedy : Bool) (body : Plan) : Plan :=
  let (least, most) :=
    if body.weightless then (min least 1, some ((most.getD 1).min 1)) else (least, most)
  if most = some 0 then .empty
  else if least = 1 ∧ most = some 1 then body
  else .loop least most greedy body

/-- The alternatives of an expression, as plans. -/
def alternativesOf : Expr → List Plan
  | .empty => [.empty]
  | .set chars => [ofRanges chars.ranges]
  | .look condition => [.look condition]
  | .group captures body =>
    let plan := oneOf (alternativesOf body)
    [if captures then .capture plan else plan]
  | .both first second => [inSequence [oneOf (alternativesOf first), oneOf (alternativesOf second)]]
  | .either first second => oneOf (alternativesOf first) :: alternativesOf second
  | .loop least most greedy body => [repeated least most greedy (oneOf (alternativesOf body))]

/-- The plan of an expression. -/
def ofExpr (expr : Expr) : Plan :=
  oneOf (alternativesOf expr)

end Plan

end Rulebook.Pattern
