/-
This file says when a request for a rule comes to an answer without any limit: it matches, and
takes input, or it does not match. Tokens that take input settle so. A choice settles if its
alternatives do, and an operator settles if its operands and the signs between them do, for every
round takes some of the input that is left.
-/

import Rulebook.Proofs.Derivation.Course
import Rulebook.Proofs.Pattern.Progress

namespace Rulebook.Parse

open Recognition (afterBlanks blanksWithin blankAt?_cases)

variable {environment : Environment} {grammar : Grammar} {chain : Grammar.Chain}
  {offset : Nat} {rule : Rule} {name : String} {source : Source}

/-! ### Boundaries -/

section

variable (faithful : source.Faithful)
include faithful

theorem boundary_blanksWithin (tokens : List Rule) (rounds : Nat)
    (boundary : Boundary source.chars offset) :
    offset ≤ blanksWithin source tokens rounds offset ∧
      Boundary source.chars (blanksWithin source tokens rounds offset) := by
  induction rounds generalizing offset with
  | zero => exact ⟨Nat.le_refl _, boundary⟩
  | succ rounds inductionHypothesis =>
    rw [blanksWithin]
    rcases blankAt?_cases source offset tokens with ⟨stop, found, isBlank⟩ | ⟨none, -⟩
    · obtain ⟨less, further⟩ := isBlank.further faithful
      obtain ⟨le, last⟩ := inductionHypothesis further
      rw [found]
      exact ⟨Nat.le_trans (Nat.le_of_lt less) le, last⟩
    · rw [none]
      exact ⟨Nat.le_refl _, boundary⟩

/-- Whitespace ends between two characters, and not before it begins. -/
theorem boundary_afterBlanks (grammar : Grammar) (boundary : Boundary source.chars offset) :
    offset ≤ afterBlanks source grammar offset ∧
      Boundary source.chars (afterBlanks source grammar offset) := by
  rw [afterBlanks]
  split
  · exact ⟨Nat.le_refl _, boundary⟩
  · exact boundary_blanksWithin faithful _ _ boundary

end

/-! ### Requests that settle -/

/-- Wherever it is made, a request matches and takes input, or it does not match. -/
def Settles (environment : Environment) (grammar : Grammar) (chain : Grammar.Chain)
    (name : String) : Prop :=
  ∀ offset, Boundary environment.source.chars offset →
    (∃ stop ast, offset < stop ∧ Boundary environment.source.chars stop ∧
      Yields environment grammar chain offset name stop ast) ∨
    Refuses environment grammar chain offset name

/-- A rule that matches and takes input settles the request. -/
theorem Works.settles {stop : Nat} {ast : Ast.Node}
    (works : Works environment grammar chain offset rule stop ast)
    (faithful : environment.source.Faithful) (forgetful : Forgetful environment)
    (room : Room environment grammar (chain.length + 1))
    (found : grammar.rule? name = some rule) (less : offset < stop)
    (boundary : Boundary environment.source.chars stop) :
    ∃ stop ast, offset < stop ∧ Boundary environment.source.chars stop ∧
      Yields environment grammar chain offset name stop ast := by
  obtain ⟨le, further⟩ := boundary_afterBlanks faithful grammar boundary
  exact ⟨_, ast, Nat.lt_of_lt_of_le less le, further,
    works.yields faithful forgetful found room⟩

section

variable (faithful : environment.source.Faithful) (forgetful : Forgetful environment)
  (room : Room environment grammar (chain.length + 1))

include faithful forgetful room

theorem settles_of_token {token : TokenRule} (found : grammar.rule? name = some rule)
    (kind : rule.kind = .token token) (takes : token.TakesInput) :
    Settles environment grammar chain name := by
  intro offset boundary
  cases matched : token.matchAt? environment.source offset with
  | none => exact .inr ((declines_token kind matched).refuses forgetful found room)
  | some length =>
    have further := (TokenRule.boundary_of_matchAt? faithful matched).2
    have positive : length ≠ 0 := fun zero => takes _ _ (zero ▸ matched)
    obtain ⟨text, reads, taken⟩ := Option.bind_eq_some_iff.mp matched
    obtain ⟨front, back, rfl, rfl⟩ := token.program.matchEnd?_prefix taken
    exact .inl ((works_token faithful kind reads matched).settles faithful forgetful room found
      (by omega) further)

theorem settles_of_choice {choice : ChoiceRule} (found : grammar.rule? name = some rule)
    (kind : rule.kind = .choice choice) (plain : choice.wrap = false)
    (alternatives : ∀ alternative ∈ choice.alternatives, ∀ offset,
      Settles environment grammar ((rule, offset) :: chain) alternative) :
    Settles environment grammar chain name := by
  intro offset boundary
  have picked : ∀ names ⊆ choice.alternatives,
      (∃ name stop ast, offset < stop ∧ Boundary environment.source.chars stop ∧
        Chooses environment grammar ((rule, offset) :: chain) offset names name stop ast) ∨
      Misses environment grammar ((rule, offset) :: chain) offset names := by
    intro names included
    induction names with
    | nil => exact .inr misses_nil
    | cons first rest inductionHypothesis =>
      obtain ⟨here, later⟩ := List.cons_subset.mp included
      rcases alternatives first here offset offset boundary with
        ⟨stop, ast, less, further, yields⟩ | refuses
      · exact .inl ⟨first, stop, ast, less, further, yields.chooses faithful rest⟩
      · rcases inductionHypothesis later with ⟨name, stop, ast, less, further, chooses⟩ | misses
        · exact .inl ⟨name, stop, ast, less, further, refuses.chooses faithful chooses⟩
        · exact .inr (refuses.misses faithful misses)
  rcases picked _ (List.Subset.refl _) with ⟨_, stop, ast, less, further, chooses⟩ | misses
  · exact .inl ((chooses.works faithful kind plain).settles faithful forgetful room found less
      further)
  · exact .inr ((misses.declines kind).refuses forgetful found room)

omit forgetful room in
/-- The rounds of an operator come to an end or break off, since each of them takes input. -/
theorem rounds_or_breaks {operator : OperatorRule}
    (signs : Settles environment grammar chain operator.operator)
    (operands : Settles environment grammar chain operator.operand)
    (boundary : Boundary environment.source.chars offset) :
    (∃ links stop, offset ≤ stop ∧ Boundary environment.source.chars stop ∧
      Rounds environment grammar chain operator offset links stop) ∨
    ∃ rounds, Breaks environment grammar chain operator offset rounds := by
  induction left : environment.source.size - offset using Nat.strongRecOn generalizing offset with
  | ind left' inductionHypothesis =>
    rcases signs offset boundary with ⟨middle, sign, less, between, begins⟩ | refuses
    · rcases operands middle between with ⟨further, operand, more, behind, goesOn⟩ | refuses
      · have inside := faithful.le_size behind
        rcases inductionHypothesis _ (by omega) behind rfl with
          ⟨links, stop, le, last, rounds⟩ | ⟨rounds, breaks⟩
        · exact .inl ⟨_, stop, by omega, last, .more faithful begins goesOn rounds⟩
        · exact .inr ⟨_, .more faithful begins goesOn breaks⟩
      · exact .inr ⟨0, breaks_of_refuses faithful begins refuses⟩
    · exact .inl ⟨[], offset, Nat.le_refl _, boundary, refuses.rounds faithful⟩

theorem settles_of_operator {operator : OperatorRule} (found : grammar.rule? name = some rule)
    (kind : rule.kind = .operator operator)
    (signs : ∀ offset, Settles environment grammar ((rule, offset) :: chain) operator.operator)
    (operands : ∀ offset, Settles environment grammar ((rule, offset) :: chain) operator.operand) :
    Settles environment grammar chain name := by
  intro offset boundary
  cases repeating : chain.repeats rule offset with
  | true => exact .inr ((declines_of_repeats kind repeating).refuses forgetful found room)
  | false =>
    rcases operands offset offset boundary with ⟨middle, ast, less, between, begins⟩ | refuses
    · rcases rounds_or_breaks faithful (signs offset) (operands offset) between with
        ⟨links, stop, le, further, rounds⟩ | ⟨rounds, breaks⟩
      · exact .inl ((Rounds.works faithful kind repeating begins rounds).settles faithful forgetful
          room found (by omega) further)
      · exact .inr ((Breaks.declines faithful kind begins breaks).refuses forgetful found room)
    · exact .inr ((Refuses.declines faithful kind refuses).refuses forgetful found room)

end

end Rulebook.Parse
