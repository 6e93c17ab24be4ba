/-
This file guesses the primitive value that a text writes. The guesses are made in a fixed
order, from truth values to plain text, and the first that fits is taken.
-/

import Rulebook.Text.Decimal
import Rulebook.Text.Escape

namespace Rulebook.Ast

/-- A primitive value. -/
inductive Value where
  | bool (value : Bool)
  | integer (value : Int)
  | float (value : Float)
  /-- A quoted text, without its quotes and with its escapes resolved. -/
  | str (text : String)
  /-- The inside of a pattern between slashes. -/
  | pattern (text : String)
  /-- Anything else, as it stands. -/
  | text (text : String)

namespace Value

/-- A sign and what follows it. -/
def splitSign : List Char → Bool × List Char
  | '-' :: rest => (true, rest)
  | chars => (false, chars)

/-- Some digits. -/
def isDigits (chars : List Char) : Bool :=
  !chars.isEmpty && chars.all Char.isDigit

/-- An integer of sixty-four bits: an optional minus sign and digits. -/
def integer? (text : List Char) : Option Int :=
  let (negative, digits) := splitSign text
  let magnitude := Int.ofNat (Decimal.ofDigits digits)
  let value := if negative then -magnitude else magnitude
  if isDigits digits && Decimal.fitsWord value then some value else none

/-- An optional part of a numeral: a mark and the digits after it. Without the mark the part
is empty and nothing is used up. -/
def markedDigits (mark : Char) (chars : List Char) : Option (List Char × List Char) :=
  match chars with
  | c :: rest =>
    if c = mark then
      let digits := rest.takeWhile Char.isDigit
      if digits.isEmpty then none else some (digits, rest.drop digits.length)
    else some ([], chars)
  | [] => some ([], [])

/-- A decimal number: an optional minus sign, digits, a fraction and an exponent. -/
def numeral? (text : List Char) : Option Decimal.Numeral := do
  let (negative, rest) := splitSign text
  let whole := rest.takeWhile Char.isDigit
  if whole.isEmpty then none
  else
    let (fraction, rest) ← markedDigits '.' (rest.drop whole.length)
    let (exponent, rest) ← markedDigits 'e' rest
    if rest.isEmpty then
      some ⟨negative, Decimal.ofDigits (whole ++ fraction),
        Int.ofNat (Decimal.ofDigits exponent) - Int.ofNat fraction.length⟩
    else none

/-- What stands between two equal marks at the ends of a text. -/
def between? (mark : Char) (text : List Char) : Option (List Char) :=
  match text with
  | first :: rest =>
    if first = mark && rest.getLast? = some mark then some rest.dropLast else none
  | [] => none

/-- Drop the backslashes that stand before slashes. -/
def plainSlashes : List Char → List Char
  | [] => []
  | '\\' :: '/' :: rest => '/' :: plainSlashes rest
  | c :: rest => c :: plainSlashes rest

/-- The value that some characters write. -/
def ofChars (chars : List Char) : Value :=
  if chars = "true".toList then .bool true
  else if chars = "false".toList then .bool false
  else match integer? chars with
  | some value => .integer value
  | none => match numeral? chars with
  | some numeral => .float numeral.toFloat
  | none => match between? '\'' chars <|> between? '"' chars with
  | some inner => .str (String.ofList (Text.unescapeChars inner))
  | none => match between? '/' chars with
  | some inner => .pattern (String.ofList (plainSlashes inner))
  | none => .text (String.ofList chars)

/-- The value that a text writes. -/
def ofText (text : String) : Value :=
  ofChars text.toList

end Value

end Rulebook.Ast
