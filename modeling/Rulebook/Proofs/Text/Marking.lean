/-
This file says what a source shows of the line around an offset: the line itself, and below it a
caret. The line is found by the number that the position of the offset has, and the caret is put
behind as many spaces as the column says. Both come from the same characters around the offset, so
the caret stands below the character at the offset.

Only what ends the line may be missing above the caret: the newline, and a carriage return in front
of it or at the end of the text.
-/

import Rulebook.Proofs.Text.Counting

namespace Rulebook

/-! ### Carriage returns -/

/-- A carriage return is taken off the end of a line, and nothing else is. -/
theorem dropReturn_cases (line : List Char) :
    line = dropReturn line ++ ['\r'] ∨
      line = dropReturn line ∧ (dropReturn line).getLast? ≠ some '\r' := by
  rw [dropReturn]
  by_cases returned : line.getLast? = some '\r'
  · obtain ⟨shorter, rfl⟩ := List.getLast?_eq_some_iff.mp returned
    rw [if_pos returned, List.dropLast_concat]
    exact Or.inl rfl
  · rw [if_neg returned]
    exact Or.inr ⟨rfl, returned⟩

theorem mem_of_mem_dropReturn {line : List Char} {c : Char} (member : c ∈ dropReturn line) :
    c ∈ line := by
  rcases dropReturn_cases line with returned | ⟨same, -⟩
  · rw [returned]
    exact List.mem_append_left _ member
  · rwa [same]

/-- A character is kept unless it is the carriage return at the end. -/
theorem getElem?_dropReturn {earlier later : List Char} {c : Char}
    (kept : ¬(c = '\r' ∧ later = [])) :
    (dropReturn (earlier ++ c :: later))[earlier.length]? = some c := by
  have there : (earlier ++ c :: later)[earlier.length]? = some c := by
    rw [List.getElem?_append_right (Nat.le_refl _), Nat.sub_self, List.getElem?_cons_zero]
  cases later with
  | nil =>
    have plain : (earlier ++ [c]).getLast? ≠ some '\r' := by
      rw [List.getLast?_concat]
      exact fun same => kept ⟨Option.some.inj same, rfl⟩
    rwa [dropReturn, if_neg plain]
  | cons next more =>
    rcases dropReturn_cases (earlier ++ c :: next :: more) with returned | ⟨same, -⟩
    · have counted := congrArg List.length returned
      simp only [List.length_append, List.length_cons, List.length_nil] at counted
      rwa [returned, List.getElem?_append_left (by omega)] at there
    · rwa [← same]

/-! ### The caret -/

/-- Where nothing of the line is left, the text ends or the line does. -/
theorem ends_of_takeWhile_eq_nil {rest : List Char} (empty : rest.takeWhile (· != '\n') = []) :
    rest = [] ∨ rest.head? = some '\n' := by
  cases rest with
  | nil => exact Or.inl rfl
  | cons c rest =>
    by_cases newline : c = '\n'
    · exact Or.inr (congrArg some newline)
    · rw [List.takeWhile_cons_of_pos (by simpa using newline)] at empty
      cases empty

/-- Making tabs into spaces makes no newlines. -/
theorem newline_not_mem_flattened {line : List Char} (single : '\n' ∉ line) :
    '\n' ∉ line.map fun c => if c = '\t' then ' ' else c := by
  intro member
  obtain ⟨c, inLine, newline⟩ := List.mem_map.mp member
  by_cases tab : c = '\t'
  · rw [if_pos tab] at newline
    cases newline
  · rw [if_neg tab] at newline
    exact single (newline ▸ inLine)

namespace Source

/-- The caret points at the character at the offset. Two lines are shown: the line around the
offset without what ends it and with its tabs made into spaces, and a caret behind as many spaces
as there are columns before the offset. Unless the character at the offset ends the line, it stands
above the caret. -/
theorem caret_points_at_character {text : String} {before rest : List Char}
    (cut : text.toList = before ++ rest) :
    ∃ line shown : List Char,
      (lineAround before rest = line ++ ['\r'] ∨
        lineAround before rest = line ∧ line.getLast? ≠ some '\r') ∧
      shown = line.map (fun c => if c = '\t' then ' ' else c) ∧ '\n' ∉ shown ∧
      ((ofString text).highlight (byteCount before)).toList =
        shown ++ '\n' :: (List.replicate
          (((ofString text).position (byteCount before)).column - 1) ' ' ++ ['^']) ∧
      ∀ c after, rest = c :: after → c ≠ '\n' →
        ¬(c = '\r' ∧ (after = [] ∨ after.head? = some '\n')) →
        shown[((ofString text).position (byteCount before)).column - 1]? =
          some (if c = '\t' then ' ' else c) := by
  have position_eq := position_ofString cut
  have line_eq : ((ofString text).position (byteCount before)).line = before.count '\n' + 1 := by
    rw [position_eq]
    exact Nat.add_comm _ _
  have column_eq : ((ofString text).position (byteCount before)).column - 1 =
      (before.rtakeWhile (· != '\n')).length := by
    rw [position_eq, List.rtakeWhile, List.length_reverse]
    exact Nat.add_sub_cancel_left _ _
  refine ⟨dropReturn (lineAround before rest), _, dropReturn_cases _, rfl, ?_, ?_, ?_⟩
  · exact newline_not_mem_flattened fun member =>
      newline_not_mem_lineAround before rest (mem_of_mem_dropReturn member)
  · rw [highlight, line_eq, lineText?_ofString cut, flattenTabs, spaces, Option.getD_some,
      String.toList_append, String.toList_append, String.toList_append]
    simp
  · intro c after starts plain ends
    subst starts
    have around : lineAround before (c :: after) =
        before.rtakeWhile (· != '\n') ++ c :: after.takeWhile (· != '\n') := by
      rw [lineAround, List.takeWhile_cons_of_pos (by simpa using plain)]
    have kept : ¬(c = '\r' ∧ after.takeWhile (· != '\n') = []) := by
      rintro ⟨returned, last⟩
      exact ends ⟨returned, ends_of_takeWhile_eq_nil last⟩
    rw [column_eq, around, List.getElem?_map, getElem?_dropReturn kept, Option.map_some]

/-- A tab behind a character of two bytes, on a line that ends in a carriage return. -/
theorem caret_points_at_tab :
    "a\né\tb\r\nc".toList = ['a', '\n', 'é'] ++ '\t' :: ['b', '\r', '\n', 'c'] ∧
      '\t' ≠ '\n' ∧ '\t' ≠ '\r' ∧
      ∃ shown : List Char,
        ((ofString "a\né\tb\r\nc").highlight 4).toList = shown ++ ['\n', ' ', '^'] ∧
          shown[1]? = some ' ' := by
  have cut : "a\né\tb\r\nc".toList = ['a', '\n', 'é'] ++ '\t' :: ['b', '\r', '\n', 'c'] := by
    decide
  obtain ⟨line, shown, -, -, -, lines, above⟩ := caret_points_at_character cut
  have character := above _ _ rfl (by decide) (by decide)
  have column : ((ofString "a\né\tb\r\nc").position (byteCount ['a', '\n', 'é'])).column = 2 := by
    decide
  rw [column] at lines character
  exact ⟨cut, by decide, by decide, shown, lines, character⟩

end Source

end Rulebook
