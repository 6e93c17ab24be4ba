/-
This file holds the one shape in which character properties are tabulated: a list of
closed intervals of code points. Membership is a search through the list, so a table
means the union of its intervals whatever their order.

The operations on tables keep the intervals in ascending order and apart from each other,
so that a table made by them lists every stretch of its code points once.
-/

namespace Rulebook.Unicode

/-- A set of code points, written as closed intervals. -/
abbrev Ranges := List (Nat × Nat)

namespace Ranges

/-- A code point belongs to a table when one of its intervals encloses it. -/
def contains (ranges : Ranges) (code : Nat) : Bool :=
  ranges.any fun interval => interval.1 ≤ code && code ≤ interval.2

theorem contains_nil (code : Nat) : contains [] code = false := rfl

theorem contains_cons (low high : Nat) (rest : Ranges) (code : Nat) :
    contains ((low, high) :: rest) code =
      ((low ≤ code && code ≤ high) || contains rest code) := rfl

theorem contains_append (left right : Ranges) (code : Nat) :
    contains (left ++ right) code = (contains left code || contains right code) :=
  List.any_append

/-! ### Written tables -/

/-- The value of a hexadecimal digit in a written table. -/
def digitValue (c : Char) : Nat :=
  if c.isDigit then c.toNat - '0'.toNat else c.toNat - 'A'.toNat + 10

/-- Read intervals in hexadecimal digits with a blank after each. The two ends of an interval
stand with a hyphen between them; a lone code point stands for itself. -/
def ofChars (low : Option Nat) (value : Nat) : List Char → Ranges
  | [] => [(low.getD value, value)]
  | c :: rest =>
    if c == ' ' then (low.getD value, value) :: ofChars none 0 rest
    else if c == '-' then ofChars (some value) 0 rest
    else ofChars low (16 * value + digitValue c) rest

/-- Read a table that is written over several lines. -/
def ofLines (lines : List String) : Ranges :=
  lines.flatMap fun line => ofChars none 0 line.toList

/-! ### Operations -/

/-- Join an interval with the intervals after it that touch or overlap it. -/
def joinFrom (low high : Nat) : Ranges → Ranges
  | [] => [(low, high)]
  | (low', high') :: rest =>
    if low' ≤ high + 1 then joinFrom low (max high high') rest
    else (low, high) :: joinFrom low' high' rest

/-- Join the intervals of a table in ascending order where they touch or overlap. -/
def join : Ranges → Ranges
  | [] => []
  | (low, high) :: rest => joinFrom low high rest

/-- The order of intervals by their lower ends. -/
def startsBefore (left right : Nat × Nat) : Bool :=
  left.1 ≤ right.1

/-- Bring intervals in any order into ascending order, and join them. -/
def arrange (ranges : Ranges) : Ranges :=
  join (ranges.mergeSort startsBefore)

/-- The code points in one of two tables. -/
def union (left right : Ranges) : Ranges :=
  join (List.merge left right startsBefore)

/-- The code points in one of several tables. -/
def unionAll (tables : List Ranges) : Ranges :=
  arrange (tables.flatMap id)

/-- The intervals between those of a table, from a code point on. -/
def gapsFrom (low : Nat) : Ranges → Ranges
  | [] => if low ≤ 0x10FFFF then [(low, 0x10FFFF)] else []
  | (low', high') :: rest =>
    if low < low' then (low, low' - 1) :: gapsFrom (high' + 1) rest
    else gapsFrom (high' + 1) rest

/-- The code points that are no characters: two of them together write one character in a
sixteen-bit encoding. -/
def surrogates : Ranges :=
  [(0xD800, 0xDFFF)]

/-- The characters that are not in a table. -/
def complement (ranges : Ranges) : Ranges :=
  gapsFrom 0 (union ranges surrogates)

/-- The characters in one table and not in another. -/
def without (left right : Ranges) : Ranges :=
  complement (union (complement left) right)

/-- The characters in both of two tables. -/
def inter (left right : Ranges) : Ranges :=
  without left (complement right)

end Ranges

end Rulebook.Unicode
