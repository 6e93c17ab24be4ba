/-
This file says of which characters names are made. Names follow a later edition of the
standard than the other tables do, so letters and numbers that came with it are added to
those of the earlier one.
-/

import Rulebook.Unicode.Property

namespace Rulebook.Unicode

/-- Alphabetic characters that came with the later edition. -/
def laterLetters : Ranges := .ofLines [
    "88F C5C CDC A7CE-A7CF A7D2 A7D4 A7F1 10940-10959 10EC5-10EC7 10EFA-10EFB 11B60-11B67",
    "11DB0-11DDB 16EA0-16EB8 16EBB-16ED3 16FF2-16FF6 187F8-187FF 18D09-18D1E 18D80-18DF2",
    "1E6C0-1E6DE 1E6E0-1E6F5 1E6FE-1E6FF 2B73A-2B73F 2CEA2-2CEAD 323B0-33479"]

/-- Numbers that came with the later edition. -/
def laterNumbers : Ranges := .ofLines ["11DE0-11DE9 16FF4-16FF6"]

/-- A letter, or another character that is used like one. -/
def isLetter (c : Char) : Bool :=
  c.isAlpha || (128 ≤ c.val &&
    (Property.alphabetic.contains c.toNat || laterLetters.contains c.toNat))

/-- A digit, or another character that writes a number. -/
def isNumber (c : Char) : Bool :=
  c.isDigit || (128 ≤ c.val &&
    (Category.numbers.contains c.toNat || laterNumbers.contains c.toNat))

end Rulebook.Unicode
