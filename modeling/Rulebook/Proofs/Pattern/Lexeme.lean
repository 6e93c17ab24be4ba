/-
This file says what the two simplest programs match: one character of a set, and as many
characters of a set as there are, but at least one. Words, numbers, blanks and signs are tokens
of these two forms.
-/

import Rulebook.Proofs.Text.Boundary

namespace Rulebook

/-- Starts of a text that take as many bytes are the same. -/
theorem eq_of_byteCount_eq {first rest second rest' : List Char}
    (same : first ++ rest = second ++ rest') (equal : byteCount first = byteCount second) :
    first = second := by
  obtain ⟨middle, rfl⟩ := exists_append_of_byteCount_le same (Nat.le_of_eq equal)
  rw [byteCount_append] at equal
  have empty : middle = [] := byteCount_eq_zero.mp (by omega)
  rw [empty, List.append_nil]

namespace Pattern.Program

/-- The program that takes one character of a set. -/
def oneOf (set : CharSet) : Program where
  code := #[.accept, .take set 0, .require .textStart 1]
  entry := 2
  anchored := true

/-- The program that takes characters of a set as long as there are any, and at least one. -/
def manyOf (set : CharSet) : Program where
  code := #[.accept, .branch 2 0, .take set 1, .require .textStart 2]
  entry := 3
  anchored := true

variable {set : CharSet} {text front back : List Char}

/-! ### One character -/

theorem waiting_advance_oneOf (set : CharSet) (c : Char) (after : Option Char) :
    ((oneOf set).advance c after [1]).waiting = if set.contains c then [0] else [] := by
  show (if set.contains c then (oneOf set).enter (some c) after 0 (oneOf set).fresh
    else (oneOf set).fresh).waiting = _
  split <;> rfl

/-- Where the match is complete, nothing more is taken. -/
theorem follow_oneOf_done (set : CharSet) (position : Nat) (best : Option Nat)
    (text : List Char) : (oneOf set).follow position best [0] text = some position := by
  cases text <;> rfl

theorem matchEnd?_oneOf (set : CharSet) (text : List Char) :
    (oneOf set).matchEnd? text =
      text.head?.bind fun c => if set.contains c then some c.utf8Size else none := by
  show (oneOf set).follow 0 none [1] text = _
  cases text with
  | nil => rfl
  | cons c rest =>
    show (if ((oneOf set).advance c rest.head? [1]).waiting.isEmpty && true then none
      else (oneOf set).follow (0 + c.utf8Size) none
        ((oneOf set).advance c rest.head? [1]).waiting.reverse rest) =
      if set.contains c then some c.utf8Size else none
    rw [waiting_advance_oneOf]
    split
    · exact (follow_oneOf_done set _ none rest).trans (by rw [Nat.zero_add])
    · rfl

theorem exists_of_matchEnd?_oneOf
    (matched : (oneOf set).matchEnd? (front ++ back) = some (byteCount front)) :
    ∃ c, front = [c] ∧ set.contains c = true := by
  rw [matchEnd?_oneOf] at matched
  obtain ⟨c, here, matched⟩ := Option.bind_eq_some_iff.mp matched
  obtain ⟨rest, cut⟩ := List.head?_eq_some_iff.mp here
  split at matched
  · rename_i member
    have one : byteCount [c] = byteCount front := Option.some.inj matched
    exact ⟨c, (eq_of_byteCount_eq cut.symm one).symm, member⟩
  · cases matched

/-! ### Many characters -/

theorem waiting_advance_manyOf (set : CharSet) (c : Char) (after : Option Char) :
    ((manyOf set).advance c after [2]).waiting = if set.contains c then [0, 2] else [] := by
  show (if set.contains c then (manyOf set).enter (some c) after 1 (manyOf set).fresh
    else (manyOf set).fresh).waiting = _
  split <;> rfl

/-- After the first character the match could end anywhere, but it goes on while it can. -/
theorem follow_manyOf_going (set : CharSet) (position : Nat) (best : Option Nat)
    (text : List Char) : (manyOf set).follow position best [2, 0] text =
      some (position + byteCount (text.takeWhile set.contains)) := by
  induction text generalizing position best with
  | nil => rfl
  | cons c rest inductionHypothesis =>
    show (if ((manyOf set).advance c rest.head? [2]).waiting.isEmpty && true then some position
      else (manyOf set).follow (position + c.utf8Size) (some position)
        ((manyOf set).advance c rest.head? [2]).waiting.reverse rest) = _
    rw [waiting_advance_manyOf, List.takeWhile_cons]
    split
    · refine (inductionHypothesis _ _).trans ?_
      rw [byteCount_cons, Nat.add_assoc]
    · rfl

theorem matchEnd?_manyOf (set : CharSet) (text : List Char) :
    (manyOf set).matchEnd? text =
      if text.takeWhile set.contains = [] then none
      else some (byteCount (text.takeWhile set.contains)) := by
  show (manyOf set).follow 0 none [2] text = _
  cases text with
  | nil => rfl
  | cons c rest =>
    show (if ((manyOf set).advance c rest.head? [2]).waiting.isEmpty && true then none
      else (manyOf set).follow (0 + c.utf8Size) none
        ((manyOf set).advance c rest.head? [2]).waiting.reverse rest) = _
    rw [waiting_advance_manyOf, List.takeWhile_cons]
    split
    · refine (follow_manyOf_going set _ none rest).trans ?_
      rw [if_neg (List.cons_ne_nil _ _), byteCount_cons, Nat.zero_add]
    · rfl

theorem of_matchEnd?_manyOf
    (matched : (manyOf set).matchEnd? (front ++ back) = some (byteCount front)) :
    front ≠ [] ∧ ∀ c ∈ front, set.contains c = true := by
  rw [matchEnd?_manyOf] at matched
  split at matched
  · cases matched
  · rename_i some
    have taken : (front ++ back).takeWhile set.contains = front :=
      eq_of_byteCount_eq List.takeWhile_append_dropWhile (Option.some.inj matched)
    rw [taken] at some
    refine ⟨some, fun c member => ?_⟩
    rw [← taken] at member
    exact List.all_eq_true.mp List.all_takeWhile c member

end Pattern.Program

end Rulebook
