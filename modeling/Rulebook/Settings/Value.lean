/-
This file holds the values of settings as files and callers give them, and what they mean
where a truth value or a count is wanted. Values are taken generously: a number or a word can
stand for a truth value, and a fraction is rounded to the nearest count.
-/

import Rulebook.Unicode.Lowercase

namespace Rulebook.Settings

/-- A value of a setting. -/
inductive Value where
  | null
  | bool (value : Bool)
  | integer (value : Int)
  | float (value : Float)
  | text (value : String)
  | array (items : List Value)
  | table (entries : List (String × Value))
  deriving Inhabited

/-- Why settings cannot be used. -/
inductive Problem where
  /-- The name of a setting is not a path. -/
  | badPath
  /-- A file that has to be there is not. -/
  | missingFile
  /-- A file breaks the rules of its format. -/
  | badFile
  /-- A group of settings is not a table. -/
  | badShape
  /-- A value does not mean what is wanted. -/
  | badValue
  deriving DecidableEq, Repr

namespace Value

/-- A word without regard to case. -/
def lower (text : String) : String :=
  Unicode.inLowercase text

/-- The truth value that a word stands for. -/
def truthWord? (text : String) : Option Bool :=
  match lower text with
  | "true" | "on" | "yes" => some true
  | "false" | "off" | "no" => some false
  | _ => none

/-- The value as a truth value. -/
def toBool : Value → Except Problem Bool
  | .bool value => .ok value
  | .integer value => .ok (value != 0)
  | .float value => .ok (value != 0.0)
  | .text "1" => .ok true
  | .text "0" => .ok false
  | .text word =>
    match truthWord? word with
    | some value => .ok value
    | none => .error .badValue
  | _ => .error .badValue

/-- A count that fits in sixty-four bits. -/
def countWithin (value : Nat) : Except Problem Nat :=
  if value < UInt64.size then .ok value else .error .badValue

/-- The count that digits write, after an optional plus sign. -/
def countOfText (text : String) : Except Problem Nat :=
  let digits := match text.toList with
    | '+' :: rest => rest
    | chars => chars
  if digits.isEmpty || !digits.all Char.isDigit then .error .badValue
  else countWithin (digits.foldl (fun value c => 10 * value + (c.toNat - '0'.toNat)) 0)

/-- The value as a count. A fraction is rounded, halves away from nought, and brought into
the range of sixty-four bits. -/
def toCount : Value → Except Problem Nat
  | .bool value => .ok value.toNat
  | .integer (.ofNat value) => countWithin value
  | .float value => .ok value.round.toUInt64.toNat
  | .text word =>
    match truthWord? word with
    | some value => .ok value.toNat
    | none => countOfText word
  | _ => .error .badValue

/-- The value as a count that may be absent. -/
def toCount? : Value → Except Problem (Option Nat)
  | .null => .ok none
  | value => value.toCount.map some

end Value

end Rulebook.Settings
