/-
This file names settings by paths and puts values under them. A path goes down through
tables by name and through arrays by index. Names are compared without regard to case.

Putting a value never fails: what stands in the way of a path is replaced. A table is laid
over the table that is there, entry by entry; any other value replaces what is there.
-/

import Rulebook.Settings.Value
import Rulebook.Text.Decimal

namespace Rulebook.Settings

/-- One step of a path. -/
inductive Segment where
  | field (name : String)
  /-- An index; a negative one counts from the end. -/
  | index (position : Int)
  deriving DecidableEq, Repr

/-- A way down from the outermost table. -/
abbrev Path := List Segment

namespace Path

/-- The characters of which names are made. -/
def isNameChar (c : Char) : Bool :=
  c.isAlphanum || c == '_' || c == '-' || c == ' '

/-- A name at the front of a text. -/
def readName (text : List Char) : Option (String × List Char) :=
  let name := text.takeWhile isNameChar
  if name.isEmpty then none else some (String.ofList name, text.drop name.length)

/-- An index within sixty-four bits, through its closing bracket. -/
def readIndex (text : List Char) : Option (Int × List Char) :=
  let isSpace := fun c => c == ' ' || c == '\t'
  let text := text.dropWhile isSpace
  let (negative, text) := match text with
    | '-' :: rest => (true, rest)
    | text => (false, text)
  let digits := text.takeWhile Char.isDigit
  let magnitude := Int.ofNat (digits.foldl (fun value c => 10 * value + (c.toNat - '0'.toNat)) 0)
  let value := if negative then -magnitude else magnitude
  match (text.drop digits.length).dropWhile isSpace with
  | ']' :: rest =>
    if !digits.isEmpty && Decimal.fitsWord value then some (value, rest) else none
  | _ => none

/-- The steps after the first, at most a number of them. -/
def readSteps : Nat → List Char → Option Path
  | _, [] => some []
  | 0, _ => none
  | count + 1, '.' :: rest => do
    let (name, rest) ← readName rest
    return .field name :: (← readSteps count rest)
  | count + 1, '[' :: rest => do
    let (position, rest) ← readIndex rest
    return .index position :: (← readSteps count rest)
  | _, _ => none

/-- The path that a text writes: a name, then names after dots and indices in brackets. -/
def read? (text : String) : Option Path := do
  let (name, rest) ← readName text.toList
  return .field name :: (← readSteps rest.length rest)

end Path

namespace Value

/-- The entries of a value that is a table. -/
def entries : Value → List (String × Value)
  | .table entries => entries
  | _ => []

/-- The items of a value that is an array. -/
def items : Value → List Value
  | .array items => items
  | _ => []

/-- The entry of a name. -/
def entry? (value : Value) (name : String) : Option Value :=
  value.entries.lookup name

/-- Put an entry into a list of entries. -/
def putEntry (name : String) (value : Value) : List (String × Value) → List (String × Value)
  | [] => [(name, value)]
  | (other, old) :: rest =>
    if other = name then (name, value) :: rest else (other, old) :: putEntry name value rest

/-- Put an entry into a table. A value that is no table becomes one. -/
def withEntry (value : Value) (name : String) (entry : Value) : Value :=
  .table (putEntry name entry value.entries)

/-- Put an item into an array, lengthening it with nothing if need be. A value that is no
array becomes one. -/
def withItem (value : Value) (position : Nat) (item : Value) : Value :=
  let items := value.items
  let padding : List Value := List.replicate (position + 1 - items.length) .null
  .array ((items ++ padding).set position item)

/-- The place in an array that an index names. -/
def placeOf (items : List Value) (position : Int) : Nat :=
  if 0 ≤ position then position.toNat else items.length - position.natAbs

mutual

/-- Lay a value over what is there. -/
def lay (above : Value) (under : Option Value) : Value :=
  match above with
  | .table entries => layEntries entries (under.getD (.table []))
  | value => value

/-- Lay the entries of a table over a value, one after the other. -/
def layEntries (entries : List (String × Value)) (under : Value) : Value :=
  match entries with
  | [] => under
  | (name, value) :: rest =>
    let name := lower name
    layEntries rest (under.withEntry name (lay value (under.entry? name)))

end

/-- Put a value under a path. -/
def put (root : Value) (path : Path) (value : Value) : Value :=
  match path with
  | [] => root
  | [.field name] => root.withEntry (lower name) (lay value (root.entry? (lower name)))
  | [.index position] => root.withItem (placeOf root.items position) value
  | .field name :: rest =>
    let name := lower name
    root.withEntry name (((root.entry? name).getD .null).put rest value)
  | .index position :: rest =>
    let place := placeOf root.items position
    root.withItem place ((root.items[place]?.getD .null).put rest value)

end Value

end Rulebook.Settings
