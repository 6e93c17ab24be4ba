/-
This file shows when a pattern takes input whenever it matches. A match ends where some way
through the program accepts, so it is empty only if a way accepts before any character has
been taken.
-/

import Rulebook.Grammar.Rule

namespace Rulebook

namespace Pattern.Program

variable {program : Program}

/-- Some way through the program accepts before a character is taken. -/
def opens (program : Program) (next : Option Char) : Bool :=
  (program.judge (program.enter none next program.entry program.fresh).waiting.reverse).accepted

/-- Unless a way accepts at the start, no way that is followed ends a match there. -/
theorem follow_ne_zero {position : Nat} {best : Option Nat} {waiting : List Nat}
    (best_ne : best ≠ some 0)
    (onward : position ≠ 0 ∨ (program.judge waiting).accepted = false) (text : List Char) :
    program.follow position best waiting text ≠ some 0 := by
  have here_ne : (if (program.judge waiting).accepted then some position else best) ≠ some 0 := by
    split
    · rename_i accepted
      rcases onward with positive | refused
      · exact fun zero => positive (Option.some.inj zero)
      · rw [refused] at accepted
        cases accepted
    · exact best_ne
  induction text generalizing position best waiting with
  | nil =>
    rw [follow]
    exact here_ne
  | cons c rest inductionHypothesis =>
    have further : position + c.utf8Size ≠ 0 := by
      have positive := c.utf8Size_pos
      omega
    rw [follow]
    generalize (if (program.judge waiting).accepted then some position else best) = reached
      at here_ne ⊢
    have onward_ne : ∀ frontier : Frontier,
        program.follow (position + c.utf8Size) reached frontier.waiting.reverse rest ≠ some 0 := by
      refine fun frontier => inductionHypothesis here_ne (.inl further) ?_
      split
      · exact fun zero => further (Option.some.inj zero)
      · exact here_ne
    split
    · split
      · exact here_ne
      · exact onward_ne _
    · split
      · exact here_ne
      · exact onward_ne _

theorem matchEnd?_ne_zero (closed : ∀ next, program.opens next = false) (text : List Char) :
    program.matchEnd? text ≠ some 0 := by
  rw [matchEnd?]
  split
  · exact Option.some_ne_none 0 |>.symm
  · exact follow_ne_zero (Option.some_ne_none 0).symm (.inr (closed text.head?)) text

end Pattern.Program

/-- A token that matches the empty text nowhere. -/
def TokenRule.TakesInput (token : TokenRule) : Prop :=
  ∀ source offset, token.matchAt? source offset ≠ some 0

theorem TokenRule.takesInput_of_closed {token : TokenRule}
    (closed : ∀ next, token.program.opens next = false) : token.TakesInput := by
  intro source offset empty
  rw [matchAt?] at empty
  obtain ⟨text, -, ended⟩ := Option.bind_eq_some_iff.mp empty
  exact Pattern.Program.matchEnd?_ne_zero closed text ended

end Rulebook
