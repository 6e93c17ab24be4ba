/-
This file holds positions in a text as people count them: lines and columns, both from one.
Positions are ordered by line and then by column.
-/

namespace Rulebook

/-- A line and a column, both counted from one. -/
structure Position where
  line : Nat
  column : Nat
  deriving DecidableEq, Repr

namespace Position

/-- The position of the first character of a text. -/
def origin : Position :=
  ⟨1, 1⟩

instance : Inhabited Position := ⟨origin⟩

/-- A position comes before another on an earlier line, or further left on the same line. -/
def before (left right : Position) : Prop :=
  left.line < right.line ∨ (left.line = right.line ∧ left.column < right.column)

instance : LT Position := ⟨before⟩

instance (left right : Position) : Decidable (left < right) :=
  inferInstanceAs (Decidable (_ ∨ _))

/-- The line and the column with a colon between them. -/
def render (position : Position) : String :=
  s!"{position.line}:{position.column}"

/-- Positions from the first to the last. -/
def sort (positions : List Position) : List Position :=
  positions.mergeSort fun left right => !(decide (right < left))

theorem lt_irrefl (position : Position) : ¬position < position := by
  rintro (earlier | ⟨_, further⟩)
  · exact Nat.lt_irrefl _ earlier
  · exact Nat.lt_irrefl _ further

theorem lt_trans {first second third : Position} (left : first < second)
    (right : second < third) : first < third := by
  simp only [LT.lt, before] at left right ⊢
  simp only [Nat.lt_eq] at left right ⊢
  omega

end Position

end Rulebook
