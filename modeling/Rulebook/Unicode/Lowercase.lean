/-
This file gives characters in lower case. Lower case and case folding agree on most
characters, so only where they differ is tabulated: a few characters fold although they are
in lower case, and one alphabet folds to its capitals.
-/

import Rulebook.Unicode.Folding

namespace Rulebook.Unicode

/-- Characters in lower case that are not their own image under folding. -/
def foldingInLowercase : Ranges := .ofLines [
    "B5 17F 345 3C2 3D0-3D1 3D5-3D6 3F0-3F1 3F5 13F8-13FD 1C80-1C88 1E9B 1FBE 1FD3 1FE3 AB70-ABBF",
    "FB05"]

/-- Runs of capitals that are their own image under folding, or that folding does not know. -/
def unfoldedCapitals : List FoldingRun := [
    ⟨0x13A0, 0x13EF, 1, 38864⟩, ⟨0x13F0, 0x13F5, 1, 8⟩, ⟨0xA7CE, 0xA7CE, 1, 1⟩,
    ⟨0xA7D2, 0xA7D4, 2, 1⟩, ⟨0x16EA0, 0x16EB8, 1, 27⟩]

/-- The code point of a character in lower case. -/
def lowerCode (code : Nat) : Nat :=
  if foldingInLowercase.contains code then code
  else match unfoldedCapitals.find? (·.covers code) with
    | some run => (Int.ofNat code + run.shift).toNat
    | none => foldCode code

/-- A character in lower case. The capital with a dot above keeps the dot as a mark of its
own. -/
def lowerChar (c : Char) : List Char :=
  if c.val < 128 then [c.toLower]
  else if c.toNat = 0x130 then ['i', '\u0307']
  else [Char.ofNat (lowerCode c.toNat)]

/-- A text in lower case, character by character. -/
def inLowercase (text : String) : String :=
  String.ofList (text.toList.flatMap lowerChar)

end Rulebook.Unicode
