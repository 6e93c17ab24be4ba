/-
This file reads sets of characters in brackets. Brackets may stand within brackets, and two
sets can be joined by an operator; operators bind to the left. The reader holds the brackets
that are still open on a stack. With each set it tells how deeply its parts are nested.
-/

import Rulebook.Pattern.Escape

namespace Rulebook.Pattern

/-- The sets that have a name between colons. -/
def namedSet? (name : String) : Option CharSet :=
  match name with
  | "alnum" => some (.ofRanges [('0', '9'), ('A', 'Z'), ('a', 'z')])
  | "alpha" => some (.ofRanges [('A', 'Z'), ('a', 'z')])
  | "ascii" => some (.range '\x00' '\x7f')
  | "blank" => some (.ofRanges [('\t', '\t'), (' ', ' ')])
  | "cntrl" => some (.ofRanges [('\x00', '\x1f'), ('\x7f', '\x7f')])
  | "digit" => some (.range '0' '9')
  | "graph" => some (.range '!' '~')
  | "lower" => some (.range 'a' 'z')
  | "print" => some (.range ' ' '~')
  | "punct" => some (.ofRanges [('!', '/'), (':', '@'), ('[', '\x60'), ('\x7b', '~')])
  | "space" => some (.ofRanges [('\t', '\r'), (' ', ' ')])
  | "upper" => some (.range 'A' 'Z')
  | "word" => some (.ofRanges [('0', '9'), ('A', 'Z'), ('_', '_'), ('a', 'z')])
  | "xdigit" => some (.ofRanges [('0', '9'), ('A', 'F'), ('a', 'f')])
  | _ => none

/-- The operators that join two sets inside brackets. -/
inductive SetOperator where
  | intersection
  | difference
  | symmetric

/-- The set that an operator makes of two. -/
def SetOperator.apply (operator : SetOperator) (left right : CharSet) : CharSet :=
  match operator with
  | .intersection => .inter left right
  | .difference => left.without right
  | .symmetric => left.either right

/-- A set of characters with the number of levels that its parts are nested. -/
structure NestedSet where
  set : CharSet
  height : Nat := 0

/-- Brackets that are still open: what stands in them so far. -/
structure OpenBrackets where
  /-- The set is negated as a whole. -/
  negated : Bool
  /-- The left side of an operator, waiting for its right side. -/
  operand : Option (SetOperator × NestedSet) := none
  /-- The members read since the bracket or the last operator, the latest first. -/
  members : List NestedSet := []

namespace OpenBrackets

/-- Add members to the innermost brackets. -/
def add (brackets : OpenBrackets) (member : NestedSet) : OpenBrackets :=
  { brackets with members := member :: brackets.members }

/-- The members since the bracket or the last operator, as one set. Several of them are one
level more than the highest of them. -/
def side (brackets : OpenBrackets) : NestedSet :=
  match brackets.members with
  | [] => ⟨.none, 0⟩
  | [only] => only
  | members => {
      set := members.foldr (fun member set => .union set member.set) .none
      height := members.foldr (fun member height => max height member.height) 0 + 1 }

/-- The set read so far, with a waiting operator applied. Both sides of an operator are
closed under change of case first. -/
def total (flags : Flags) (brackets : OpenBrackets) : NestedSet :=
  let right := brackets.side
  match brackets.operand with
  | none => right
  | some (operator, left) => {
      set := operator.apply (flags.fold left.set) (flags.fold right.set)
      height := max left.height right.height + 1 }

/-- Let an operator wait for its right side. -/
def join (flags : Flags) (operator : SetOperator) (brackets : OpenBrackets) : OpenBrackets :=
  { brackets with operand := some (operator, brackets.total flags), members := [] }

/-- The set that closed brackets denote. Case is closed over before negation. -/
def close? (flags : Flags) (brackets : OpenBrackets) : Option NestedSet :=
  let total := brackets.total flags
  (flags.negated? brackets.negated (flags.fold total.set)).map fun set =>
    ⟨set, total.height + 1⟩

end OpenBrackets

/-- A named set after an opening bracket; nothing if the text there is not one. -/
def readName? (text : List Char) : Option (Bool × CharSet × List Char) :=
  match text with
  | ':' :: rest =>
    let (negated, rest) := match rest with
      | '^' :: rest => (true, rest)
      | rest => (false, rest)
    let name := rest.takeWhile (· != ':')
    match rest.drop name.length with
    | ':' :: ']' :: rest => (namedSet? (String.ofList name)).map fun set => (negated, set, rest)
    | _ => none
  | _ => none

/-- Read past an opening bracket: a negation sign, then hyphens that stand for themselves,
or a closing bracket that does. -/
def openBrackets (flags : Flags) (text : List Char) : OpenBrackets × List Char :=
  let (negated, text) := match flags.skip text with
    | '^' :: rest => (true, flags.skip rest)
    | text => (false, text)
  let member (c : Char) : NestedSet := { set := .single c }
  match text with
  | ']' :: rest => ({ negated, members := [member ']'] }, rest)
  | text =>
    let (hyphens, rest) := flags.gather (· == '-') text
    ({ negated, members := hyphens.map member }, rest)

/-- One member, before it is known whether it begins a range. Within the narrow scope it
cannot be a character of more than seven bits. -/
def readMember (flags : Flags) (text : List Char) : Option (Escape × List Char) :=
  let (member, rest) := match text with
    | [] => (none, [])
    | '\\' :: rest => match Escape.read flags rest with
      | some (escape, rest) => (some escape, rest)
      | none => (none, rest)
    | c :: rest => (some (.literal c), rest)
  match member with
  | some (.literal c) =>
    if flags.scope = .narrow && 128 ≤ c.val then none else some (.literal c, rest)
  | some escape => some (escape, rest)
  | none => none

/-- A member or a range of members. A hyphen before the closing bracket, or before another
hyphen, does not make a range. -/
def readMembers (flags : Flags) (text : List Char) : Option (CharSet × List Char) := do
  let (first, rest) ← readMember flags text
  let rest := flags.skip rest
  let alone : Option (CharSet × List Char) := match first with
    | .literal c => some (.single c, rest)
    | .set set => some (set, rest)
    | .look _ => none
  match rest with
  | '-' :: after =>
    if flags.peek after == some ']' || flags.peek after == some '-' then alone
    else do
      let (second, rest) ← readMember flags (flags.skip after)
      match first, second with
      | .literal low, .literal high => if low ≤ high then some (.range low high, rest) else none
      | _, _ => none
  | _ => alone

/-- Read bracketed sets up to the bracket that closes the outermost. The list holds the
brackets around the innermost one; every round uses up at least one character. -/
def readBrackets (flags : Flags) :
    Nat → OpenBrackets → List OpenBrackets → List Char → Option (NestedSet × List Char)
  | 0, _, _, _ => none
  | budget + 1, inner, outer, text =>
    let more (inner : OpenBrackets) (rest : List Char) :=
      readBrackets flags budget inner outer rest
    match flags.skip text with
    | [] => none
    | '[' :: rest =>
      match readName? rest with
      | some (negated, set, rest) =>
        match flags.negated? negated (flags.fold set) with
        | some set => more (inner.add { set }) rest
        | none => none
      | none =>
        let (opened, rest) := openBrackets flags rest
        readBrackets flags budget opened (inner :: outer) rest
    | ']' :: rest =>
      match inner.close? flags, outer with
      | some closed, [] => some (closed, rest)
      | some closed, enclosing :: outer =>
        readBrackets flags budget (enclosing.add closed) outer rest
      | none, _ => none
    | '&' :: '&' :: rest => more (inner.join flags .intersection) rest
    | '-' :: '-' :: rest => more (inner.join flags .difference) rest
    | '~' :: '~' :: rest => more (inner.join flags .symmetric) rest
    | text =>
      match readMembers flags text with
      | some (set, rest) => more (inner.add { set }) rest
      | none => none

end Rulebook.Pattern
