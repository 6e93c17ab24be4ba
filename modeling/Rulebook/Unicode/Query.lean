/-
This file finds sets of characters by the names that the standard gives them: the value of a
property alone where that is clear, or the property and its value. Case, blanks, hyphens and
underscores in names do not matter, nor does an "is" in front.
-/

import Rulebook.Unicode.Age
import Rulebook.Unicode.Script
import Rulebook.Unicode.Segment

namespace Rulebook.Unicode

/-- A name without what does not matter in it. Characters beyond seven bits do not count. -/
def looseChars (name : List Char) : List Char :=
  (name.filter fun c => c.val < 128 && c != ' ' && c != '_' && c != '-').map Char.toLower

/-- A name in the form in which names are compared. The letter `c` after "is" is left as it
stands: there is a property of that name, which is no set of characters. -/
def looseName (name : List Char) : String :=
  match name with
  | first :: second :: rest =>
    if first.toLower == 'i' && second.toLower == 's' then
      let loose := looseChars rest
      if loose == ['c'] then "isc" else String.ofList loose
    else String.ofList (looseChars name)
  | _ => String.ofList (looseChars name)

/-- The set that a name alone stands for: a property, a category or a script. Where a category
and a property that is no set share a short name, the category is meant. -/
def setNamed? (name : List Char) : Option Ranges :=
  let name := looseName name
  match Property.named? name with
  | some ranges => some ranges
  | none => match Category.named? name with
    | some ranges => some ranges
    | none => (Script.named? name).map (·.own)

/-- The set that a property and its value stand for. -/
def setValued? (property value : List Char) : Option Ranges :=
  let value := looseName value
  match looseName property with
  | "gc" | "generalcategory" => Category.named? value
  | "sc" | "script" => (Script.named? value).map (·.own)
  | "scx" | "scriptextensions" => (Script.named? value).map (·.used)
  | "age" => Age.known? value
  | "gcb" | "graphemeclusterbreak" => Segment.graphemeBreak? value
  | "wb" | "wordbreak" => Segment.wordBreak? value
  | "sb" | "sentencebreak" => Segment.sentenceBreak? value
  | _ => none

end Rulebook.Unicode
