/-
This file holds an input text together with an index of its byte offsets: which characters there
are to read from each of them on, and at which of them a line begins. An offset is a character
boundary exactly when there are characters, or the end of the text, to read from it on.

Lines and columns are looked up when they are asked for. The line of an offset is searched for
among the starts of the lines, and the column counts the characters from the start of the line. An
offset inside a character has no column of its own; it is given the number of bytes from the start
of its line instead.
-/

import Rulebook.Sorted
import Rulebook.Text.Position

namespace Rulebook

/-- The number of bytes that some characters take. -/
def byteCount (chars : List Char) : Nat :=
  chars.foldr (fun c count => c.utf8Size + count) 0

/-- The first characters of a text, up to a number of bytes. -/
def takeBytes : Nat → List Char → List Char
  | _, [] => []
  | 0, _ => []
  | count, c :: rest => c :: takeBytes (count - c.utf8Size) rest

/-- What there is to read from each byte offset of a text on; nothing inside a character. -/
def restsOf : List Char → List (Option (List Char))
  | [] => [some []]
  | c :: rest => some (c :: rest) :: (List.replicate (c.utf8Size - 1) none ++ restsOf rest)

/-- The offsets behind the newlines of a text, which begins at an offset itself. -/
def lineStartsFrom (offset : Nat) : List Char → List Nat
  | [] => []
  | c :: rest =>
    let later := lineStartsFrom (offset + c.utf8Size) rest
    if c = '\n' then (offset + 1) :: later else later

/-- A line without the carriage return that may end it. -/
def dropReturn (line : List Char) : List Char :=
  if line.getLast? = some '\r' then line.dropLast else line

/-- An input text. -/
structure Source where
  /-- The characters of the text. -/
  chars : List Char
  /-- The number of bytes of the text. -/
  size : Nat
  /-- The characters from each offset on, from nought to the number of bytes. -/
  rests : Array (Option (List Char))
  /-- The offsets at which the lines begin. -/
  lineStarts : Array Nat

namespace Source

/-- Index a text. -/
def ofString (text : String) : Source where
  chars := text.toList
  size := byteCount text.toList
  rests := (restsOf text.toList).toArray
  lineStarts := (0 :: lineStartsFrom 0 text.toList).toArray

/-- The characters from an offset on; nothing inside a character or past the end. -/
def rest? (source : Source) (offset : Nat) : Option (List Char) :=
  source.rests[offset]?.join

/-- The character at an offset. -/
def charAt? (source : Source) (offset : Nat) : Option Char :=
  (source.rest? offset).bind List.head?

/-- The characters between two offsets, if these are boundaries and in order. -/
def between? (source : Source) (start stop : Nat) : Option (List Char) :=
  match source.rest? start, source.rest? stop with
  | some rest, some _ => if start ≤ stop then some (takeBytes (stop - start) rest) else none
  | _, _ => none

/-- The line of an offset, counted from nought: the last one that does not begin behind it. -/
def lineIndex (source : Source) (offset : Nat) : Nat :=
  match Sorted.search source.lineStarts offset with
  | .ok line => line
  | .error next => next - 1

/-- The line and column of an offset. Offsets past the end count as the end. -/
def position (source : Source) (offset : Nat) : Position :=
  let offset := min offset source.size
  let line := source.lineIndex offset
  let start := source.lineStarts.getD line 0
  let column := match source.between? start offset with
    | some chars => chars.length
    | none => offset - start
  ⟨line + 1, column + 1⟩

/-- The text between two offsets. -/
def slice (source : Source) (start stop : Nat) : String :=
  String.ofList (takeBytes (stop - start) ((source.rest? start).getD []))

/-- The number of lines. -/
def lineCount (source : Source) : Nat :=
  source.lineStarts.size

/-- The end of a line, counted from nought: before the newline of the line, or with the text. -/
def lineStop (source : Source) (line : Nat) : Nat :=
  match source.lineStarts[line + 1]? with
  | some next => next - 1
  | none => source.size

/-- A line by its number, which counts from one, without its terminator. -/
def lineText? (source : Source) : Nat → Option String
  | 0 => none
  | index + 1 => do
    let start ← source.lineStarts[index]?
    let line ← source.between? start (source.lineStop index)
    return String.ofList (dropReturn line)

/-- A text with its tabs made into single spaces. -/
def flattenTabs (text : String) : String :=
  String.ofList (text.toList.map fun c => if c = '\t' then ' ' else c)

/-- A number of spaces. -/
def spaces (count : Nat) : String :=
  String.ofList (List.replicate count ' ')

/-- The line of an offset with a caret under the column of the offset. -/
def highlight (source : Source) (offset : Nat) : String :=
  let position := source.position offset
  flattenTabs ((source.lineText? position.line).getD "") ++ "\n" ++
    spaces (position.column - 1) ++ "^"

end Source

end Rulebook
