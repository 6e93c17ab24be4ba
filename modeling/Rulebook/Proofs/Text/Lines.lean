/-
This file says which line of a text an offset lies on, and what that line is. A source keeps the
offsets at which lines begin, in ascending order: those of the lines that begin before the offset
or at it, and then those of the lines behind. The search ends between the two, so it finds the line
that holds the offset.

The line reaches back to the last newline before the offset and on to the first newline behind it.
The bytes between two entries of the index are exactly these characters and the newline.
-/

import Mathlib.Data.List.DropRight
import Rulebook.Proofs.Text.Boundary

namespace Rulebook

/-! ### Where the lines of a text begin -/

theorem lineStartsFrom_append (offset : Nat) (before rest : List Char) :
    lineStartsFrom offset (before ++ rest) =
      lineStartsFrom offset before ++ lineStartsFrom (offset + byteCount before) rest := by
  induction before generalizing offset with
  | nil => rfl
  | cons c before inductionHypothesis =>
    have later := inductionHypothesis (offset + c.utf8Size)
    rw [Nat.add_assoc] at later
    rw [List.cons_append, byteCount_cons, lineStartsFrom, lineStartsFrom, later]
    by_cases newline : c = '\n'
    · rw [if_pos newline, if_pos newline, List.cons_append]
    · rw [if_neg newline, if_neg newline]

/-- Every newline begins a line. -/
theorem length_lineStartsFrom (offset : Nat) (chars : List Char) :
    (lineStartsFrom offset chars).length = chars.count '\n' := by
  induction chars generalizing offset with
  | nil => rfl
  | cons c chars inductionHypothesis =>
    rw [lineStartsFrom, List.count_cons]
    by_cases newline : c = '\n'
    · rw [if_pos newline, if_pos (by simpa using newline), List.length_cons, inductionHypothesis]
    · rw [if_neg newline, if_neg (by simpa using newline), inductionHypothesis, Nat.add_zero]

/-- The lines begin behind a newline, which lies among the characters. -/
theorem bounds_of_mem_lineStartsFrom {offset start : Nat} {chars : List Char}
    (member : start ∈ lineStartsFrom offset chars) :
    offset < start ∧ start ≤ offset + byteCount chars := by
  induction chars generalizing offset with
  | nil => cases member
  | cons c chars inductionHypothesis =>
    have positive := c.utf8Size_pos
    have behind : start ∈ lineStartsFrom (offset + c.utf8Size) chars →
        offset < start ∧ start ≤ offset + byteCount (c :: chars) := by
      intro later
      have bounds := inductionHypothesis later
      rw [byteCount_cons]
      omega
    rw [lineStartsFrom] at member
    by_cases newline : c = '\n'
    · rw [if_pos newline, List.mem_cons] at member
      rcases member with rfl | later
      · rw [byteCount_cons]
        omega
      · exact behind later
    · rw [if_neg newline] at member
      exact behind member

/-- The last line that begins among some characters begins behind their last newline. -/
theorem getLast?_lineStartsFrom (chars : List Char) :
    (0 :: lineStartsFrom 0 chars).getLast? =
      some (byteCount (chars.rdropWhile (· != '\n'))) := by
  induction chars using List.reverseRecOn with
  | nil => rfl
  | append_singleton chars c inductionHypothesis =>
    rw [lineStartsFrom_append, Nat.zero_add, lineStartsFrom, lineStartsFrom,
      List.rdropWhile_concat]
    by_cases newline : c = '\n'
    · rw [if_pos newline, if_neg (by simpa using newline), ← List.cons_append,
        List.getLast?_concat, byteCount_append, newline]
      rfl
    · rw [if_neg newline, if_pos (by simpa using newline), List.append_nil, inductionHypothesis]

/-- The first line that begins among some characters begins behind their first newline. -/
theorem head?_lineStartsFrom (offset : Nat) (chars : List Char) :
    (lineStartsFrom offset chars).head? =
      if '\n' ∈ chars then some (offset + byteCount (chars.takeWhile (· != '\n')) + 1)
      else none := by
  induction chars generalizing offset with
  | nil => rfl
  | cons c chars inductionHypothesis =>
    rw [lineStartsFrom]
    by_cases newline : c = '\n'
    · rw [if_pos newline, if_pos (by simp [newline]),
        List.takeWhile_cons_of_neg (by simp [newline])]
      rfl
    · rw [if_neg newline, inductionHypothesis, List.takeWhile_cons_of_pos (by simp [newline]),
        byteCount_cons, ← Nat.add_assoc]
      simp only [List.mem_cons, Ne.symm newline, false_or]

/-! ### The line of an offset -/

/-- The characters around a cut of a text, back to a newline and on to a newline. -/
def lineAround (before rest : List Char) : List Char :=
  before.rtakeWhile (· != '\n') ++ rest.takeWhile (· != '\n')

theorem newline_not_mem_lineAround (before rest : List Char) : '\n' ∉ lineAround before rest := by
  intro member
  rcases List.mem_append.mp member with earlier | later
  · simpa using List.mem_rtakeWhile_imp earlier
  · simpa using List.mem_takeWhile_imp later

namespace Source

variable {text : String} {before rest : List Char} (cut : text.toList = before ++ rest)
include cut

/-- The index holds the lines that begin before the cut, or at it, and then the lines behind it. -/
theorem lineStarts_ofString : (ofString text).lineStarts =
    ((0 :: lineStartsFrom 0 before) ++ lineStartsFrom (byteCount before) rest).toArray := by
  rw [ofString, cut, lineStartsFrom_append, Nat.zero_add, List.cons_append]

/-- The search finds as many lines before the line of an offset as there are newlines. -/
theorem lineIndex_ofString : (ofString text).lineIndex (byteCount before) = before.count '\n' := by
  have small : ∀ start ∈ 0 :: lineStartsFrom 0 before, start ≤ byteCount before := by
    intro start member
    rcases List.mem_cons.mp member with rfl | later
    · exact Nat.zero_le _
    · exact (bounds_of_mem_lineStartsFrom later).2.trans_eq (Nat.zero_add _)
  have large : ∀ start ∈ lineStartsFrom (byteCount before) rest, byteCount before < start :=
    fun start member => (bounds_of_mem_lineStartsFrom member).1
  rw [lineIndex, lineStarts_ofString cut,
    Sorted.search_append (List.cons_ne_nil _ _) small large, List.length_cons,
    length_lineStartsFrom]
  by_cases here : (0 :: lineStartsFrom 0 before).getLast? = some (byteCount before)
  · rw [if_pos here]
    rfl
  · rw [if_neg here]
    rfl

/-- The line of an offset begins behind the last newline before the offset. -/
theorem lineStart_ofString : (ofString text).lineStarts[before.count '\n']? =
    some (byteCount (before.rdropWhile (· != '\n'))) := by
  have last := getLast?_lineStartsFrom before
  rw [List.getLast?_eq_getElem?, List.length_cons, length_lineStartsFrom,
    Nat.add_sub_cancel] at last
  rw [lineStarts_ofString cut, List.getElem?_toArray, List.getElem?_append_left, last]
  rw [List.length_cons, length_lineStartsFrom]
  exact Nat.lt_succ_self _

/-- The next line begins behind the first newline that is not before the offset. -/
theorem nextLineStart_ofString : (ofString text).lineStarts[before.count '\n' + 1]? =
    if '\n' ∈ rest then some (byteCount before + byteCount (rest.takeWhile (· != '\n')) + 1)
    else none := by
  rw [lineStarts_ofString cut, List.getElem?_toArray, List.getElem?_append_right, List.length_cons,
    length_lineStartsFrom, Nat.sub_self, ← List.head?_eq_getElem?, head?_lineStartsFrom]
  rw [List.length_cons, length_lineStartsFrom]

/-- The line of an offset ends before the first newline that is not before the offset. -/
theorem lineStop_ofString : (ofString text).lineStop (before.count '\n') =
    byteCount before + byteCount (rest.takeWhile (· != '\n')) := by
  rw [lineStop, nextLineStart_ofString cut]
  by_cases more : '\n' ∈ rest
  · rw [if_pos more]
    rfl
  · have whole : rest.takeWhile (· != '\n') = rest :=
      List.takeWhile_eq_self_iff.mpr fun c member => by
        simpa using ne_of_mem_of_not_mem member more
    rw [if_neg more, whole, ← byteCount_append, ← cut]
    rfl

/-- The text of the line of an offset is what lies around the offset between two newlines. -/
theorem lineText?_ofString : (ofString text).lineText? (before.count '\n' + 1) =
    some (String.ofList (dropReturn (lineAround before rest))) := by
  have before_eq : before.rdropWhile (· != '\n') ++ before.rtakeWhile (· != '\n') = before :=
    List.rdropWhile_append_rtakeWhile
  have rest_eq : rest.takeWhile (· != '\n') ++ rest.dropWhile (· != '\n') = rest :=
    List.takeWhile_append_dropWhile
  have pieces : (ofString text).chars = before.rdropWhile (· != '\n') ++ lineAround before rest ++
      rest.dropWhile (· != '\n') := by
    rw [lineAround, ← List.append_assoc, before_eq, List.append_assoc, rest_eq]
    exact cut
  have stop : (ofString text).lineStop (before.count '\n') =
      byteCount (before.rdropWhile (· != '\n')) + byteCount (lineAround before rest) := by
    rw [lineStop_ofString cut, lineAround, byteCount_append, ← Nat.add_assoc,
      ← byteCount_append (before.rdropWhile _), before_eq]
  rw [lineText?, lineStart_ofString cut, stop, Option.bind_eq_bind, Option.bind_some,
    (faithful_ofString text).between?_eq pieces]
  rfl

end Source

end Rulebook
