/-
This file says at which line and column an offset of a text lies. The line is one more than the
newlines before the offset, and the column one more than the characters behind the last of them.

Every character moves the position on: a newline to the next line, and any other character to the
next column. So an offset further on in a text has a later position, and no two offsets share one.
-/

import Mathlib.Data.List.Induction
import Rulebook.Proofs.Text.Lines

namespace Rulebook

/-- The position behind a character. -/
def Position.next (position : Position) (c : Char) : Position :=
  if c = '\n' then ⟨position.line + 1, 1⟩ else ⟨position.line, position.column + 1⟩

/-- The line and the column behind some characters of a text. -/
def Position.after (chars : List Char) : Position where
  line := 1 + chars.count '\n'
  column := 1 + (chars.reverse.takeWhile (· != '\n')).length

/-- One more character moves the position on by that character. -/
theorem Position.after_append_singleton (chars : List Char) (c : Char) :
    after (chars ++ [c]) = (after chars).next c := by
  rw [next, after, after, List.count_append, List.reverse_append, List.reverse_singleton,
    List.singleton_append, List.takeWhile_cons]
  by_cases newline : c = '\n'
  · rw [if_pos newline, newline, List.count_singleton_self]
    rfl
  · rw [if_neg newline, List.count_singleton, if_neg (by simpa using newline),
      if_pos (by simpa using newline), List.length_cons]
    rfl

theorem Position.lt_next (position : Position) (c : Char) : position < position.next c := by
  rw [next]
  by_cases newline : c = '\n'
  · rw [if_pos newline]
    exact Or.inl (Nat.lt_succ_self _)
  · rw [if_neg newline]
    exact Or.inr ⟨rfl, Nat.lt_succ_self _⟩

/-- Some more characters make the position a later one. -/
theorem Position.after_lt_after (before : List Char) {middle : List Char} (nonempty : middle ≠ []) :
    after before < after (before ++ middle) := by
  induction middle using List.reverseRecOn with
  | nil => exact absurd rfl nonempty
  | append_singleton middle c inductionHypothesis =>
    have last : after (before ++ middle) < after (before ++ (middle ++ [c])) := by
      rw [← List.append_assoc, after_append_singleton]
      exact lt_next _ _
    by_cases empty : middle = []
    · subst empty
      rwa [List.append_nil] at last
    · exact lt_trans (inductionHypothesis empty) last

namespace Source

/-- The position of an offset counts newlines before it, and characters behind the last newline. -/
theorem position_ofString {text : String} {before rest : List Char}
    (cut : text.toList = before ++ rest) :
    (ofString text).position (byteCount before) = Position.after before := by
  have inside : min (byteCount before) (ofString text).size = byteCount before := by
    apply Nat.min_eq_left
    rw [(faithful_ofString text).size_eq]
    exact Boundary.le ⟨before, rest, cut, rfl⟩
  have before_eq : before.rdropWhile (· != '\n') ++ before.rtakeWhile (· != '\n') = before :=
    List.rdropWhile_append_rtakeWhile
  have pieces : (ofString text).chars =
      before.rdropWhile (· != '\n') ++ before.rtakeWhile (· != '\n') ++ rest := by
    rw [before_eq]
    exact cut
  have prefixOfLine := (faithful_ofString text).between?_eq pieces
  rw [← byteCount_append, before_eq] at prefixOfLine
  have start : (ofString text).lineStarts.getD (before.count '\n') 0 =
      byteCount (before.rdropWhile (· != '\n')) := by
    rw [Array.getD_eq_getD_getElem?, lineStart_ofString cut, Option.getD_some]
  simp only [position, inside, lineIndex_ofString cut, start, prefixOfLine]
  rw [Position.after, List.rtakeWhile, List.length_reverse, Nat.add_comm 1, Nat.add_comm 1]

/-- Offsets past the end have the position of the end. -/
theorem position_past_end {text : String} {offset : Nat} (past : byteCount text.toList ≤ offset) :
    (ofString text).position offset = Position.after text.toList := by
  have whole := position_ofString (List.append_nil text.toList).symm
  have clamped : min offset (ofString text).size =
      min (byteCount text.toList) (ofString text).size := by
    rw [(faithful_ofString text).size_eq]
    exact (Nat.min_eq_right past).trans (Nat.min_self _).symm
  rw [position] at whole ⊢
  rwa [clamped]

/-- The further on a boundary is, the later is its position. -/
theorem position_lt_position {text : String} {first second : Nat}
    (left : Boundary text.toList first) (right : Boundary text.toList second)
    (earlier : first < second) :
    (ofString text).position first < (ofString text).position second := by
  obtain ⟨before, middle, after, cut, rfl, rfl⟩ := left.split right (Nat.le_of_lt earlier)
  have nonempty : middle ≠ [] := by
    rintro rfl
    exact Nat.lt_irrefl _ earlier
  have leftCut : text.toList = before ++ (middle ++ after) := by rw [cut, List.append_assoc]
  rw [position_ofString leftCut, ← byteCount_append, position_ofString cut]
  exact Position.after_lt_after before nonempty

/-- Positions are exact. At every boundary the line counts the newlines before it, and the column
the characters behind the last newline; past the end there is only the position of the end.
Positions come in the order of the boundaries, so different boundaries have different ones. -/
theorem positions_are_exact (text : String) :
    (∀ before rest, text.toList = before ++ rest →
      (ofString text).position (byteCount before) =
        ⟨1 + before.count '\n', 1 + (before.reverse.takeWhile (· != '\n')).length⟩) ∧
    (∀ offset, byteCount text.toList ≤ offset →
      (ofString text).position offset = (ofString text).position (byteCount text.toList)) ∧
    (∀ first second, Boundary text.toList first → Boundary text.toList second → first < second →
      (ofString text).position first < (ofString text).position second) ∧
    (∀ first second, Boundary text.toList first → Boundary text.toList second → first ≠ second →
      (ofString text).position first ≠ (ofString text).position second) := by
  refine ⟨fun before rest cut => position_ofString cut, fun offset past => ?_,
    fun first second left right earlier => position_lt_position left right earlier,
    fun first second left right distinct same => ?_⟩
  · rw [position_past_end past, position_past_end (Nat.le_refl _)]
  · rcases Nat.lt_or_gt_of_ne distinct with earlier | later
    · have ordered := position_lt_position left right earlier
      rw [same] at ordered
      exact Position.lt_irrefl _ ordered
    · have ordered := position_lt_position right left later
      rw [same] at ordered
      exact Position.lt_irrefl _ ordered

/-- An empty line between two others, behind a character of two bytes. -/
theorem positions_around_empty_line :
    "é\n\nb".toList = ['é', '\n'] ++ ['\n', 'b'] ∧
      (ofString "é\n\nb").position 3 = ⟨2, 1⟩ ∧
      (ofString "é\n\nb").position 9 = (ofString "é\n\nb").position 5 ∧
      (ofString "é\n\nb").position 2 < (ofString "é\n\nb").position 3 ∧
      (ofString "é\n\nb").position 3 ≠ (ofString "é\n\nb").position 4 := by
  obtain ⟨counted, clamped, ordered, distinct⟩ := positions_are_exact "é\n\nb"
  have cut : "é\n\nb".toList = ['é', '\n'] ++ ['\n', 'b'] := by decide
  have two : Boundary "é\n\nb".toList 2 := ⟨['é'], ['\n', '\n', 'b'], by decide, by decide⟩
  have three : Boundary "é\n\nb".toList 3 := ⟨['é', '\n'], ['\n', 'b'], cut, by decide⟩
  have four : Boundary "é\n\nb".toList 4 := ⟨['é', '\n', '\n'], ['b'], by decide, by decide⟩
  have behind := counted _ _ cut
  have size : byteCount "é\n\nb".toList = 5 := by decide
  rw [show byteCount ['é', '\n'] = 3 by decide] at behind
  rw [size] at clamped
  exact ⟨cut, behind, clamped 9 (by decide), ordered 2 3 two three (by decide),
    distinct 3 4 three four (by decide)⟩

end Source

end Rulebook
