/-
This file reads the text of a pattern. The reader goes through the text once, from left to
right, holding the groups that are still open on a stack; every step uses up at least one
character, so the length of the text bounds the number of steps.

Only whether a text is a pattern matters to its users, not why it is none, so each part of
the reader returns nothing at all for a text that breaks the rules.
-/

import Rulebook.Pattern.Brackets
import Rulebook.Unicode.Letter

namespace Rulebook.Pattern

open Rulebook.Unicode

/-! ### Groups -/

/-- What stands after an opening parenthesis. -/
inductive Opening where
  /-- A group whose body is read under these flags. -/
  | group (captures : Bool) (inside : Flags)
  /-- A group with a name that no other group may have. -/
  | named (name : String)
  /-- Flags for the rest of the enclosing group. -/
  | switch (flags : Flags)

/-- Flag letters up to a colon or a closing parenthesis, each at most once, with at most
one minus sign, which some letter must follow. -/
def readFlags (seen : List Char) (value : Bool) (flags : Flags) :
    List Char → Option (Flags × Char × List Char)
  | [] => none
  | c :: rest =>
    if c == ':' || c == ')' then
      if seen.head? == some '-' then none else some (flags, c, rest)
    else if seen.contains c then none
    else if c == '-' then readFlags (c :: seen) false flags rest
    else match flags.set c value with
      | some flags => readFlags (c :: seen) value flags rest
      | none => none

/-- The name of a group, up to the closing angle bracket. -/
def readGroupName (text : List Char) : Option (String × List Char) :=
  let name := text.takeWhile (· != '>')
  let isFirst := fun c : Char => c == '_' || isLetter c
  let isLater := fun c : Char => isFirst c || c == '.' || c == '[' || c == ']' || isNumber c
  match name, text.drop name.length with
  | first :: later, _ :: rest =>
    if isFirst first && later.all isLater then some (String.ofList name, rest) else none
  | _, _ => none

/-- Read what an opening parenthesis opens. Conditions on the text around the group are not
part of patterns. -/
def readOpening (flags : Flags) (text : List Char) : Option (Opening × List Char) :=
  match flags.skip text with
  | '?' :: '=' :: _ => none
  | '?' :: '!' :: _ => none
  | '?' :: '<' :: '=' :: _ => none
  | '?' :: '<' :: '!' :: _ => none
  | '?' :: 'P' :: '<' :: rest => (readGroupName rest).map fun (name, rest) => (.named name, rest)
  | '?' :: '<' :: rest => (readGroupName rest).map fun (name, rest) => (.named name, rest)
  | '?' :: rest =>
    match readFlags [] true flags rest with
    | some (inside, ':', rest) => some (.group false inside, rest)
    | some (flags, _, after) =>
      if rest.head? == some ')' then none else some (.switch flags, after)
    | none => none
  | text => some (.group true flags, text)

/-! ### Parts of a pattern -/

/-- A part of a pattern as it stands in a sequence. -/
structure Piece where
  expr : Expr
  /-- The number of levels that its parts are nested. -/
  height : Nat := 0
  /-- A repetition sign may follow. -/
  repeatable : Bool := true

namespace Piece

/-- The height of some pieces side by side: one level more than the highest of them, unless
there is only one. -/
def heightOf : List Piece → Nat
  | [] => 0
  | [only] => only.height
  | pieces => pieces.foldl (fun height piece => max height piece.height) 0 + 1

/-- Pieces one after the other. -/
def sequence (pieces : List Piece) : Piece :=
  { expr := .sequence (pieces.map (·.expr)), height := heightOf pieces }

/-- Pieces as alternatives. -/
def alternatives (pieces : List Piece) : Piece :=
  { expr := .alternatives (pieces.map (·.expr)), height := heightOf pieces }

end Piece

/-- A group that is still open, or the pattern itself. -/
structure OpenGroup where
  /-- The flags in force. -/
  flags : Flags
  /-- The group can be asked what it matched. -/
  captures : Bool := false
  /-- The finished alternatives, the latest first. -/
  branches : List Piece := []
  /-- The pieces of the alternative being read, the latest first. -/
  pieces : List Piece := []

namespace OpenGroup

/-- Append a piece to the alternative being read. -/
def add (group : OpenGroup) (piece : Piece) : OpenGroup :=
  { group with pieces := piece :: group.pieces }

/-- The alternative being read. -/
def branch (group : OpenGroup) : Piece :=
  .sequence group.pieces.reverse

/-- Finish an alternative and begin the next one. -/
def split (group : OpenGroup) : OpenGroup :=
  { group with branches := group.branch :: group.branches, pieces := [] }

/-- What stands in the group. -/
def close (group : OpenGroup) : Piece :=
  .alternatives (group.branch :: group.branches).reverse

/-- The group, as a piece of what is around it. -/
def toPiece (group : OpenGroup) : Piece :=
  let body := group.close
  { expr := .group group.captures body.expr, height := body.height + 1 }

/-- Repeat the last piece. -/
def repeatLast (group : OpenGroup) (least : Nat) (most : Option Nat) (lazy : Bool) :
    Option OpenGroup :=
  match group.pieces with
  | ⟨expr, height, true⟩ :: pieces =>
    let greedy := lazy == group.flags.swapGreed
    some { group with pieces := ⟨.repeated least most greedy expr, height + 1, true⟩ :: pieces }
  | _ => none

end OpenGroup

/-! ### The whole pattern -/

/-- A question mark after a repetition sign makes it lazy. -/
def readLazy (text : List Char) : Bool × List Char :=
  match text with
  | '?' :: rest => (true, rest)
  | text => (false, text)

/-- Read a pattern. The list holds the groups around the innermost one and the names
already given; every round uses up at least one character. -/
def readPattern : Nat → List String → OpenGroup → List OpenGroup → List Char → Option Piece
  | 0, _, _, _, _ => none
  | budget + 1, names, inner, outer, text =>
    let more (inner : OpenGroup) (rest : List Char) := readPattern budget names inner outer rest
    let repeated (least : Nat) (most : Option Nat) (rest : List Char) :=
      let (lazy, rest) := readLazy rest
      match inner.repeatLast least most lazy with
      | some inner => more inner rest
      | none => none
    match inner.flags.skip text with
    | [] => if outer.isEmpty then some inner.close else none
    | '(' :: rest =>
      match readOpening inner.flags rest with
      | none => none
      | some (.group captures flags, rest) =>
        readPattern budget names { flags, captures } (inner :: outer) rest
      | some (.named name, rest) =>
        if names.contains name then none
        else
          readPattern budget (name :: names) { flags := inner.flags, captures := true }
            (inner :: outer) rest
      | some (.switch flags, rest) =>
        more { inner with flags, pieces := ⟨.empty, 0, false⟩ :: inner.pieces } rest
    | ')' :: rest =>
      match outer with
      | [] => none
      | enclosing :: outer => readPattern budget names (enclosing.add inner.toPiece) outer rest
    | '|' :: rest => more inner.split rest
    | '[' :: rest =>
      let (opened, rest) := openBrackets inner.flags rest
      match readBrackets inner.flags (rest.length + 1) opened [] rest with
      | some (⟨set, height⟩, rest) => more (inner.add ⟨.set set, height, true⟩) rest
      | none => none
    | '?' :: rest => repeated 0 (some 1) rest
    | '*' :: rest => repeated 0 none rest
    | '+' :: rest => repeated 1 none rest
    | '\x7b' :: rest =>
      match inner.flags.readBounds rest with
      | some (least, most, rest) => repeated least most (inner.flags.skip rest)
      | none => none
    | '\\' :: rest =>
      match Escape.read inner.flags rest with
      | some (escape, rest) => more (inner.add { expr := escape.toExpr inner.flags }) rest
      | none => none
    | '.' :: rest =>
      match inner.flags.dot? with
      | some set => more (inner.add { expr := .set set }) rest
      | none => none
    | '^' :: rest => more (inner.add { expr := .look inner.flags.caret }) rest
    | '$' :: rest => more (inner.add { expr := .look inner.flags.dollar }) rest
    | c :: rest =>
      more (inner.add { expr := (Escape.literal c).toExpr inner.flags }) rest

/-- Patterns nested more deeply than this are refused. -/
def heightLimit : Nat := 250

/-- The expression that a text denotes, if it is a pattern that is not nested too deeply. -/
def Expr.read? (ignoreCase : Bool) (text : List Char) : Option Expr :=
  match readPattern (text.length + 1) [] { flags := { ignoreCase } } [] text with
  | some piece => if piece.height ≤ heightLimit then some piece.expr else none
  | none => none

end Rulebook.Pattern
