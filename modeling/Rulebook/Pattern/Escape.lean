/-
This file reads what follows a backslash in a pattern: a character that would otherwise mean
something else, a character by its code, a set of characters by a letter or by the name of a
property, or a condition.
-/

import Rulebook.Pattern.Flags
import Rulebook.Unicode.Query

namespace Rulebook.Pattern

open Rulebook.Unicode

/-- What an escape sequence stands for. -/
inductive Escape where
  | literal (c : Char)
  | set (chars : CharSet)
  | look (condition : Look)

namespace Escape

/-! ### Characters -/

/-- The characters that have a meaning of their own in patterns. -/
def isMeta (c : Char) : Bool :=
  "\\.+*?()|[]\x7b\x7d^$#&-~".toList.contains c

/-- The characters that may follow a backslash to stand for themselves. -/
def isEscapable (c : Char) : Bool :=
  isMeta c || (c.val < 128 && !c.isAlphanum && c != '<' && c != '>')

/-- The value of a hexadecimal digit. -/
def hexDigit? (c : Char) : Option Nat :=
  if '0' ≤ c && c ≤ '9' then some (c.toNat - '0'.toNat)
  else if 'a' ≤ c && c ≤ 'f' then some (c.toNat - 'a'.toNat + 10)
  else if 'A' ≤ c && c ≤ 'F' then some (c.toNat - 'A'.toNat + 10)
  else none

/-- The character whose code hexadecimal digits write, if they write one. -/
def charOfHex? (digits : List Char) : Option Char :=
  match digits.foldlM (fun value c => (hexDigit? c).map (16 * value + ·)) 0 with
  | some code => if code.isValidChar then some (Char.ofNat code) else none
  | none => none

/-- A character by its code, after the letter of the escape: in braces, or in as many digits
as the letter asks for. Two digits alone write a byte, which in the narrow scope has to be a
character by itself. -/
def readHex (flags : Flags) (width : Nat) (text : List Char) : Option (Escape × List Char) :=
  match flags.skip text with
  | '\x7b' :: rest =>
    match flags.gather (· != '\x7d') rest with
    | ([], _) => none
    | (digits, '\x7d' :: rest) => (charOfHex? digits).map fun c => (.literal c, flags.skip rest)
    | _ => none
  | text =>
    let (digits, rest) := flags.gatherWithin (fun _ => true) width false text
    if digits.length < width then none
    else match charOfHex? digits with
      | some c =>
        if width = 2 && flags.scope = .narrow && 128 ≤ c.val then none
        else some (.literal c, rest)
      | none => none

/-! ### Sets -/

/-- The place where a name is divided from a value: the first of its signs that occurs,
tried in this order. -/
def divide? (text : List Char) : List (List Char) → Option (List Char × List Char)
  | [] => none
  | sign :: signs =>
    match (List.range text.length).find? fun place => sign.isPrefixOf (text.drop place) with
    | some place => some (text.take place, text.drop (place + sign.length))
    | none => divide? text signs

/-- The set that the text between the braces of a property stands for. -/
def property? (text : List Char) : Option Ranges :=
  match divide? text ["!=".toList, [':'], ['=']] with
  | some (property, value) => setValued? property value
  | none => setNamed? text

/-- A set by the name of a property, after the letter of the escape: in braces, or a single
letter. Case is closed over before negation. -/
def readProperty (flags : Flags) (negated : Bool) (text : List Char) :
    Option (Escape × List Char) := do
  let (name, rest) ← match flags.skip text with
    | '\x7b' :: rest =>
      match flags.gather (· != '\x7d') rest with
      | (name, _ :: rest) => some (name, rest)
      | (_, []) => none
    | c :: rest => if c == '\\' then none else some ([c], rest)
    | [] => none
  if flags.scope = .narrow then none
  else do
    let ranges ← property? name
    return (.set ((flags.fold (.table ranges)).negatedIf negated), rest)

/-! ### Conditions -/

/-- A word edge, or one of its named variants in braces. Braces that begin with neither a
letter nor a hyphen are left alone: they count a repetition. -/
def readWordEdge (flags : Flags) (text : List Char) : Option (Escape × List Char) :=
  match text with
  | '\x7b' :: rest =>
    match flags.skip rest with
    | [] => none
    | first :: _ =>
      if !isNameChar first then some (.look (.wordEdge flags.scope), text)
      else match flags.gather isNameChar rest with
        | (name, '\x7d' :: rest) => (named? (String.ofList name)).map fun look => (.look look, rest)
        | _ => none
  | text => some (.look (.wordEdge flags.scope), text)
where
  /-- The characters of which the names of conditions are made. -/
  isNameChar (c : Char) : Bool :=
    c.isAlpha || c == '-'
  /-- The condition of a name. -/
  named? : String → Option Look
    | "start" => some (.wordStart flags.scope)
    | "end" => some (.wordEnd flags.scope)
    | "start-half" => some (.wordStartHalf flags.scope)
    | "end-half" => some (.wordEndHalf flags.scope)
    | _ => none

/-! ### All escapes -/

/-- Read what follows a backslash. -/
def read (flags : Flags) (text : List Char) : Option (Escape × List Char) :=
  let complement (set : CharSet) (rest : List Char) : Option (Escape × List Char) :=
    (flags.complement? set).map fun set => (.set set, rest)
  match text with
  | [] => none
  | 'd' :: rest => some (.set flags.scope.digitSet, rest)
  | 'D' :: rest => complement flags.scope.digitSet rest
  | 's' :: rest => some (.set flags.scope.blankSet, rest)
  | 'S' :: rest => complement flags.scope.blankSet rest
  | 'w' :: rest => some (.set flags.scope.wordSet, rest)
  | 'W' :: rest => complement flags.scope.wordSet rest
  | 'p' :: rest => readProperty flags false rest
  | 'P' :: rest => readProperty flags true rest
  | 'x' :: rest => readHex flags 2 rest
  | 'u' :: rest => readHex flags 4 rest
  | 'U' :: rest => readHex flags 8 rest
  | 'a' :: rest => some (.literal '\x07', rest)
  | 'f' :: rest => some (.literal '\x0c', rest)
  | 't' :: rest => some (.literal '\t', rest)
  | 'n' :: rest => some (.literal '\n', rest)
  | 'r' :: rest => some (.literal '\r', rest)
  | 'v' :: rest => some (.literal '\x0b', rest)
  | 'A' :: rest => some (.look .textStart, rest)
  | 'z' :: rest => some (.look .textEnd, rest)
  | 'b' :: rest => readWordEdge flags rest
  | 'B' :: rest => some (.look (.noWordEdge flags.scope), rest)
  | '<' :: rest => some (.look (.wordStart flags.scope), rest)
  | '>' :: rest => some (.look (.wordEnd flags.scope), rest)
  | c :: rest => if isEscapable c then some (.literal c, rest) else none

/-- What an escape sequence means outside brackets. -/
def toExpr (flags : Flags) : Escape → Expr
  | .literal c => .set (flags.fold (.single c))
  | .set chars => .set chars
  | .look condition => .look condition

end Escape

end Rulebook.Pattern
