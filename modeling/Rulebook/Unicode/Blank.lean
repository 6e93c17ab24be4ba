/-
This file tabulates the blank characters: those with the `White_Space` property. There
are few enough that one table serves for all of them.
-/

import Rulebook.Unicode.Ranges

namespace Rulebook.Unicode

/-- Every character with the `White_Space` property. -/
def blanks : Ranges := [
    (0x0009, 0x000D), (0x0020, 0x0020), (0x0085, 0x0085), (0x00A0, 0x00A0), (0x1680, 0x1680),
    (0x2000, 0x200A), (0x2028, 0x2029), (0x202F, 0x202F), (0x205F, 0x205F), (0x3000, 0x3000)]

/-- A space, a tab, a line break or another character that only separates text. -/
def isBlank (c : Char) : Bool :=
  blanks.contains c.toNat

end Rulebook.Unicode
