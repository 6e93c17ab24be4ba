/-
This file holds the flags that govern how a part of a pattern is read, and what the reader
skips under them. Blanks and comments that are skipped may stand between any two characters
that belong together, also between the digits of a number or the letters of a name.
-/

import Rulebook.Pattern.Expr

namespace Rulebook.Pattern

open Rulebook.Unicode

/-- What the flags in force say about the part of the pattern being read. -/
structure Flags where
  /-- Letters match in either case. -/
  ignoreCase : Bool := false
  /-- The anchors of a line match at line breaks. -/
  multiLine : Bool := false
  /-- A dot matches line breaks too. -/
  dotAll : Bool := false
  /-- A repetition prefers fewer rounds unless it is marked as lazy. -/
  swapGreed : Bool := false
  /-- Blanks and comments in the pattern are skipped. -/
  verbose : Bool := false
  /-- A carriage return counts as a line break. -/
  carriageReturn : Bool := false
  /-- Which characters the rules on case, digits, blanks and words know. -/
  scope : Scope := .wide
  deriving DecidableEq, Repr

namespace Flags

/-- Switch one flag on or off by its letter. -/
def set (flags : Flags) (letter : Char) (value : Bool) : Option Flags :=
  match letter with
  | 'i' => some { flags with ignoreCase := value }
  | 'm' => some { flags with multiLine := value }
  | 's' => some { flags with dotAll := value }
  | 'U' => some { flags with swapGreed := value }
  | 'x' => some { flags with verbose := value }
  | 'R' => some { flags with carriageReturn := value }
  | 'u' => some { flags with scope := if value then .wide else .narrow }
  | _ => none

/-! ### What signs mean -/

/-- A set closed under change of case, if the flags say so. -/
def fold (flags : Flags) (set : CharSet) : CharSet :=
  set.foldedIf flags.ignoreCase flags.scope

/-- The complement of a set. Within the narrow scope there is none: it would hold bytes that
are no characters. -/
def complement? (flags : Flags) (set : CharSet) : Option CharSet :=
  if flags.scope = .narrow then none else some (.complement set)

/-- A set, or its complement if it is to be negated. -/
def negated? (flags : Flags) (negated : Bool) (set : CharSet) : Option CharSet :=
  if negated then flags.complement? set else some set

/-- What a dot matches. -/
def dot? (flags : Flags) : Option CharSet :=
  flags.complement?
    (if flags.dotAll then .none
    else if flags.carriageReturn then .union (.single '\n') (.single '\r')
    else .single '\n')

/-- What a circumflex asserts. -/
def caret (flags : Flags) : Look :=
  if !flags.multiLine then .textStart
  else if flags.carriageReturn then .lineStartReturn else .lineStart

/-- What a dollar sign asserts. -/
def dollar (flags : Flags) : Look :=
  if !flags.multiLine then .textEnd
  else if flags.carriageReturn then .lineEndReturn else .lineEnd

/-! ### What is skipped -/

/-- Take leading characters of a kind, at most a number of them. What the flags tell the
reader to skip is left out, before the first of them, between them and after the last. -/
def gatherWithin (flags : Flags) (wanted : Char → Bool) :
    Nat → Bool → List Char → List Char × List Char
  | _, _, [] => ([], [])
  | count, inComment, c :: rest =>
    if inComment then gatherWithin flags wanted count (c != '\n') rest
    else if flags.verbose && isBlank c then gatherWithin flags wanted count false rest
    else if flags.verbose && c == '#' then gatherWithin flags wanted count true rest
    else if count = 0 || !wanted c then ([], c :: rest)
    else
      let (taken, rest) := gatherWithin flags wanted (count - 1) false rest
      (c :: taken, rest)

/-- Take leading characters of a kind. -/
def gather (flags : Flags) (wanted : Char → Bool) (text : List Char) : List Char × List Char :=
  flags.gatherWithin wanted text.length false text

/-- Drop blanks, and comments that run from a hash sign to the end of their line, if the
flags in force tell the reader to skip them. -/
def skip (flags : Flags) (text : List Char) : List Char :=
  (flags.gatherWithin (fun _ => false) 0 false text).2

/-- The character that decides whether a hyphen makes a range. A comment does not hide it:
only its hash sign is passed over. -/
def peek (flags : Flags) (text : List Char) : Option Char :=
  if !flags.verbose then text.head?
  else match text.dropWhile isBlank with
    | '#' :: rest => (rest.dropWhile isBlank).head?
    | rest => rest.head?

/-! ### Numbers -/

/-- A decimal number between blanks, below two to the thirty-second. -/
def readCount (flags : Flags) (text : List Char) : Option (Nat × List Char) :=
  let (digits, rest) := flags.gather Char.isDigit (text.dropWhile isBlank)
  let value := digits.foldl (fun value c => 10 * value + (c.toNat - '0'.toNat)) 0
  if digits.isEmpty || UInt32.size ≤ value then none
  else some (value, rest.dropWhile isBlank)

/-- The bounds of a counted repetition, after its opening brace and through its closing one. -/
def readBounds (flags : Flags) (text : List Char) : Option (Nat × Option Nat × List Char) := do
  let (least, rest) ← flags.readCount (flags.skip text)
  match rest with
  | '\x7d' :: rest => return (least, some least, rest)
  | ',' :: rest =>
    match flags.skip rest with
    | '\x7d' :: rest => return (least, none, rest)
    | rest => do
      let (most, rest) ← flags.readCount rest
      match rest with
      | '\x7d' :: rest => if least ≤ most then some (least, some most, rest) else none
      | _ => none
  | _ => none

end Flags

end Rulebook.Pattern
