/-
This file says which moments a parse passes through. A statement about every state that is
reached during a parse, or about every request for a rule, is a statement about the trail of
that parse.

A trail is spoken of and never computed. It is given by the property of being a certain list
of moments, and a property takes neither time nor room when a parse runs.
-/

import Rulebook.Parse.State

namespace Rulebook.Parse

/-- What happens at a moment of a parse. -/
inductive Happening where
  /-- The state has been changed. -/
  | changed
  /-- A rule is asked for by name, as the next child of a node. -/
  | asked (parent : Nat) (name : String)
  /-- A rule is tried as the next child of a node. -/
  | tried (parent : Nat) (rule : Rule)

/-- The node at which something is to be matched next. -/
def Happening.parent? : Happening → Option Nat
  | .changed => none
  | .asked parent _ => some parent
  | .tried parent _ => some parent

/-- A moment of a parse. -/
structure Moment where
  happening : Happening
  state : State

/-- The moments of a parse in their order. -/
structure Trail where
  /-- These are the moments. -/
  is : List Moment → Prop
  unique : ∃ moments, is = (· = moments)

namespace Trail

/-- No moment at all. -/
@[inline]
def empty : Trail :=
  ⟨(· = []), [], rfl⟩

/-- One moment. -/
@[inline]
def single (moment : Moment) : Trail :=
  ⟨(· = [moment]), [moment], rfl⟩

/-- One trail and then another. -/
@[inline]
def append (first second : Trail) : Trail where
  is moments := ∃ before after, first.is before ∧ second.is after ∧ moments = before ++ after
  unique := by
    obtain ⟨before, isBefore⟩ := first.unique
    obtain ⟨after, isAfter⟩ := second.unique
    exact ⟨before ++ after, by simp [isBefore, isAfter]⟩

/-- The moments of a trail. -/
noncomputable def moments (trail : Trail) : List Moment :=
  trail.unique.choose

theorem is_iff (trail : Trail) (moments : List Moment) :
    trail.is moments ↔ moments = trail.moments := by
  have spec : trail.is = (· = trail.moments) := trail.unique.choose_spec
  rw [spec]

@[simp]
theorem moments_empty : empty.moments = [] :=
  ((is_iff empty []).mp rfl).symm

@[simp]
theorem moments_single (moment : Moment) : (single moment).moments = [moment] :=
  ((is_iff (single moment) [moment]).mp rfl).symm

@[simp]
theorem moments_append (first second : Trail) :
    (first.append second).moments = first.moments ++ second.moments := by
  have joined : (first.append second).is (first.moments ++ second.moments) :=
    ⟨_, _, (is_iff first _).mpr rfl, (is_iff second _).mpr rfl, rfl⟩
  exact ((is_iff _ _).mp joined).symm

end Trail

end Rulebook.Parse
