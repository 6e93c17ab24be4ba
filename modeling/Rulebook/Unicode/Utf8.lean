/-
This file writes code points as bytes, and intervals of code points as sequences of byte
ranges. A sequence stands for all code points whose first byte lies in its first range, the
second byte in the second, and so on. An interval that no single sequence describes is cut
into intervals that one does: where a surrogate begins, where the number of bytes changes,
and where a byte other than the first would have to stop short of its full range.
-/

import Rulebook.Unicode.Ranges

namespace Rulebook.Unicode

/-- A closed interval of bytes. -/
abbrev ByteRange := Nat × Nat

namespace Utf8

/-- The bytes of a code point. -/
def encode (code : Nat) : List Nat :=
  let later (shift : Nat) : Nat := 0x80 + code / shift % 0x40
  if code < 0x80 then [code]
  else if code < 0x800 then [0xC0 + code / 0x40, later 1]
  else if code < 0x10000 then [0xE0 + code / 0x1000, later 0x40, later 1]
  else [0xF0 + code / 0x40000, later 0x1000, later 0x40, later 1]

/-- The stretches of code points that are written in the same number of bytes and hold no
surrogates. -/
def stretches : Ranges :=
  [(0, 0x7F), (0x80, 0x7FF), (0x800, 0xD7FF), (0xE000, 0xFFFF), (0x10000, 0x10FFFF)]

/-- The first place where an interval has to be cut because a block of code points that share
their leading bytes is only partly in it. Code points of one byte have no such blocks. -/
def cut? (low high : Nat) : Option Nat :=
  (if high < 0x80 then [] else [0x40, 0x1000, 0x40000]).findSome? fun block =>
    if low / block = high / block then none
    else if low % block ≠ 0 then some ((low / block + 1) * block)
    else if (high + 1) % block ≠ 0 then some (high / block * block)
    else none

/-- Cut an interval until every part is described by one sequence. Each size of blocks asks
for two cuts at most. -/
def pieces : Nat → Nat → Nat → Ranges
  | 0, low, high => [(low, high)]
  | cuts + 1, low, high =>
    match cut? low high with
    | none => [(low, high)]
    | some place => pieces cuts low (place - 1) ++ pieces cuts place high

/-- The sequences that describe an interval of code points, in ascending order. -/
def sequencesOf (low high : Nat) : List (List ByteRange) :=
  stretches.flatMap fun stretch =>
    let low := max low stretch.1
    let high := min high stretch.2
    if high < low then []
    else (pieces 6 low high).map fun piece => (encode piece.1).zip (encode piece.2)

/-- The sequences that describe a table, in ascending order. -/
def sequences (ranges : Ranges) : List (List ByteRange) :=
  ranges.flatMap fun interval => sequencesOf interval.1 interval.2

/-- The bytes of a text. -/
def encodeAll (text : List Char) : List Nat :=
  text.flatMap fun c => encode c.toNat

end Utf8

end Rulebook.Unicode
