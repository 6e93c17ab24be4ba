/-
This file holds the sets of characters that token patterns speak about. A set is kept as
the expression that denotes it, not as a table: membership is computed from the parts, so
each set operation has its meaning as a one-line equation. The table of a set can be
computed from the same expression where its stretches have to be counted.

Ignoring case is a set operation too. The closure of a set contains a character when the
set itself contains that character in some case.
-/

import Rulebook.Unicode.Blank
import Rulebook.Unicode.Digit
import Rulebook.Unicode.Folding
import Rulebook.Unicode.Word

namespace Rulebook.Pattern

open Rulebook.Unicode

/-- How far the rules on case, digits, blanks and words reach. -/
inductive Scope where
  /-- They know every character. -/
  | wide
  /-- They know the seven-bit characters only. -/
  | narrow
  deriving DecidableEq, Repr, Inhabited

/-- The forms of a character that differ only in case. -/
def Scope.variants (scope : Scope) (c : Char) : List Char :=
  match scope with
  | .wide => caseVariants c
  | .narrow => [c, otherCase c]

/-- A set of characters, as the expression that denotes it. -/
inductive CharSet where
  | none
  | range (low high : Char)
  | digit
  | blank
  | word
  | table (ranges : Ranges)
  | union (left right : CharSet)
  | inter (left right : CharSet)
  | complement (set : CharSet)
  | anyCase (scope : Scope) (set : CharSet)
  deriving DecidableEq, Repr, Inhabited

namespace CharSet

/-- The set of one character. -/
def single (c : Char) : CharSet :=
  .range c c

/-- Every character. -/
def all : CharSet :=
  .complement .none

/-- What is in the first set and not in the second. -/
def without (left right : CharSet) : CharSet :=
  .inter left (.complement right)

/-- What is in exactly one of two sets. -/
def either (left right : CharSet) : CharSet :=
  .union (left.without right) (right.without left)

/-- The union of some intervals. -/
def ofRanges (ranges : List (Char × Char)) : CharSet :=
  ranges.foldr (fun interval rest => .union (.range interval.1 interval.2) rest) .none

/-- Membership of a character in a set. -/
def contains : CharSet → Char → Bool
  | .none, _ => false
  | .range low high, c => low ≤ c && c ≤ high
  | .digit, c => isDigit c
  | .blank, c => isBlank c
  | .word, c => isWord c
  | .table ranges, c => ranges.contains c.toNat
  | .union left right, c => left.contains c || right.contains c
  | .inter left right, c => left.contains c && right.contains c
  | .complement set, c => !set.contains c
  | .anyCase scope set, c => (scope.variants c).any set.contains

/-- The closure of a set under change of case, if case is to be ignored. -/
def foldedIf (ignoreCase : Bool) (scope : Scope) (set : CharSet) : CharSet :=
  if ignoreCase then .anyCase scope set else set

/-- The complement of a set, if it is to be negated. -/
def negatedIf (negated : Bool) (set : CharSet) : CharSet :=
  if negated then .complement set else set

/-- The table of a set: its stretches, in ascending order and apart from each other. -/
def ranges : CharSet → Ranges
  | .none => []
  | .range low high => [(low.toNat, high.toNat)]
  | .digit => (0x30, 0x39) :: wideDigits
  | .blank => blanks
  | .word => (0x30, 0x39) :: (0x41, 0x5A) :: (0x5F, 0x5F) :: (0x61, 0x7A) :: wideWords
  | .table ranges => ranges
  | .union left right => left.ranges.union right.ranges
  | .inter left right => left.ranges.inter right.ranges
  | .complement set => set.ranges.complement
  | .anyCase .wide set => set.ranges.anyCase
  | .anyCase .narrow set => set.ranges.anyLetterCase

@[simp] theorem contains_none (c : Char) : contains .none c = false := rfl

@[simp] theorem contains_range (low high c : Char) :
    contains (.range low high) c = (low ≤ c && c ≤ high) := rfl

@[simp] theorem contains_table (ranges : Ranges) (c : Char) :
    contains (.table ranges) c = ranges.contains c.toNat := rfl

@[simp] theorem contains_union (left right : CharSet) (c : Char) :
    contains (.union left right) c = (left.contains c || right.contains c) := rfl

@[simp] theorem contains_inter (left right : CharSet) (c : Char) :
    contains (.inter left right) c = (left.contains c && right.contains c) := rfl

@[simp] theorem contains_complement (set : CharSet) (c : Char) :
    contains (.complement set) c = !set.contains c := rfl

theorem contains_single (c d : Char) : contains (single c) d = true ↔ d = c := by
  simp only [single, contains_range, Bool.and_eq_true, decide_eq_true_eq]
  exact ⟨fun bounds => Char.le_antisymm bounds.2 bounds.1,
    fun equal => equal ▸ ⟨Char.le_refl _, Char.le_refl _⟩⟩

end CharSet

/-! ### Sets within a scope -/

namespace Scope

/-- The decimal digits. -/
def digitSet : Scope → CharSet
  | .wide => .digit
  | .narrow => .range '0' '9'

/-- The blanks. -/
def blankSet : Scope → CharSet
  | .wide => .blank
  | .narrow => .ofRanges [('\t', '\r'), (' ', ' ')]

/-- The characters of words. -/
def wordSet : Scope → CharSet
  | .wide => .word
  | .narrow => .ofRanges [('0', '9'), ('A', 'Z'), ('_', '_'), ('a', 'z')]

end Scope

end Rulebook.Pattern
