/-
This file says how whitespace is skipped. A blank is what the first of some tokens takes that takes
anything, and whitespace is blank after blank until no token takes anything more. This is how a
recognizer reads it off a text.

A parse asks the memo as well, and the memo answers by the names of a token. If all tokens of these
names do the same, then a parse skips what a recognizer finds, whether or not it remembers its
tokens.
-/

import Mathlib.Logic.Relation
import Rulebook.Proofs.Rearrangement.Recollection
import Rulebook.Proofs.Recognition.Recognizer

namespace Rulebook

/-! ### Blanks in a text -/

namespace Recognition

open Relation (ReflTransGen)

/-- At an offset, each of some tokens fails or matches the empty text. -/
def Barren (source : Source) (tokens : List Rule) (offset : Nat) : Prop :=
  ∀ rule ∈ tokens, ∀ token, rule.token? = some token →
    ∀ length, token.matchAt? source offset = some length → length = 0

/-- The first of some tokens that takes input at an offset takes it up to another offset. -/
def IsBlank (source : Source) (tokens : List Rule) (offset stop : Nat) : Prop :=
  ∃ earlier rule later token length, tokens = earlier ++ rule :: later ∧
    Barren source earlier offset ∧ rule.token? = some token ∧
      token.matchAt? source offset = some length ∧ 0 < length ∧ stop = offset + length

variable {source : Source} {tokens rest : List Rule} {rule : Rule} {offset stop : Nat}

theorem barren_cons : Barren source (rule :: rest) offset ↔
    (∀ token, rule.token? = some token → ∀ length, token.matchAt? source offset = some length →
      length = 0) ∧ Barren source rest offset :=
  List.forall_mem_cons

theorem IsBlank.cons (isBlank : IsBlank source rest offset stop)
    (barren : ∀ token, rule.token? = some token → ∀ length,
      token.matchAt? source offset = some length → length = 0) :
    IsBlank source (rule :: rest) offset stop := by
  obtain ⟨earlier, taking, later, token, length, rfl, none, found⟩ := isBlank
  exact ⟨rule :: earlier, taking, later, token, length, rfl, barren_cons.mpr ⟨barren, none⟩, found⟩

/-- The recognizer finds a blank, or no token takes anything. -/
theorem blankAt?_cases (source : Source) (offset : Nat) (tokens : List Rule) :
    (∃ stop, blankAt? source offset tokens = some stop ∧ IsBlank source tokens offset stop) ∨
      blankAt? source offset tokens = none ∧ Barren source tokens offset := by
  induction tokens with
  | nil => exact .inr ⟨rfl, List.forall_mem_nil _⟩
  | cons rule rest inductionHypothesis =>
    -- If a token takes nothing, then the others decide.
    have goOn : (∀ token, rule.token? = some token → ∀ length,
        token.matchAt? source offset = some length → length = 0) →
        blankAt? source offset (rule :: rest) = blankAt? source offset rest →
          (∃ stop, blankAt? source offset (rule :: rest) = some stop ∧
            IsBlank source (rule :: rest) offset stop) ∨
          blankAt? source offset (rule :: rest) = none ∧ Barren source (rule :: rest) offset := by
      intro barren same
      rw [same]
      rcases inductionHypothesis with ⟨stop, found, isBlank⟩ | ⟨none, others⟩
      · exact .inl ⟨stop, found, isBlank.cons barren⟩
      · exact .inr ⟨none, barren_cons.mpr ⟨barren, others⟩⟩
    cases isToken : rule.token? with
    | none =>
      refine goOn (fun token absurd => ?_) (by rw [blankAt?, isToken]; rfl)
      rw [isToken] at absurd
      cases absurd
    | some token =>
      match answered : token.matchAt? source offset with
      | none =>
        refine goOn (fun other same length found => ?_)
          (by rw [blankAt?, isToken, Option.bind_some, answered])
        rw [isToken] at same
        cases same
        rw [answered] at found
        cases found
      | some 0 =>
        refine goOn (fun other same length found => ?_)
          (by rw [blankAt?, isToken, Option.bind_some, answered])
        rw [isToken] at same
        cases same
        rw [answered] at found
        cases found
        rfl
      | some (length + 1) =>
        refine .inl ⟨offset + (length + 1), ?_, [], rule, rest, token, length + 1, rfl,
          List.forall_mem_nil _, isToken, answered, Nat.succ_pos length, rfl⟩
        rw [blankAt?, isToken, Option.bind_some, answered]

/-- A blank takes input, and it ends between two characters. -/
theorem IsBlank.further (isBlank : IsBlank source tokens offset stop) (faithful : source.Faithful) :
    offset < stop ∧ Boundary source.chars stop := by
  obtain ⟨-, -, -, token, length, -, -, -, answered, positive, rfl⟩ := isBlank
  exact ⟨Nat.lt_add_of_pos_right positive, (token.boundary_of_matchAt? faithful answered).2⟩

/-- Whitespace is made of blanks. -/
theorem blanksWithin_reaches (source : Source) (tokens : List Rule) (rounds offset : Nat) :
    ReflTransGen (IsBlank source tokens) offset (blanksWithin source tokens rounds offset) := by
  induction rounds generalizing offset with
  | zero => exact .refl
  | succ rounds inductionHypothesis =>
    rw [blanksWithin]
    rcases blankAt?_cases source offset tokens with ⟨stop, found, isBlank⟩ | ⟨none, -⟩
    · rw [found]
      exact .head isBlank (inductionHypothesis stop)
    · rw [none]

/-- Where whitespace ends, no token takes anything, if no fewer blanks were looked for than there
are bytes. -/
theorem barren_blanksWithin (faithful : source.Faithful) {rounds : Nat}
    (boundary : Boundary source.chars offset) (enough : source.size < offset + rounds) :
    Barren source tokens (blanksWithin source tokens rounds offset) := by
  induction rounds generalizing offset with
  | zero =>
    have bound := faithful.le_size boundary
    omega
  | succ rounds inductionHypothesis =>
    rw [blanksWithin]
    rcases blankAt?_cases source offset tokens with ⟨stop, found, isBlank⟩ | ⟨none, barren⟩
    · obtain ⟨further, boundary⟩ := isBlank.further faithful
      rw [found]
      exact inductionHypothesis boundary (by omega)
    · rw [none]
      exact barren

end Recognition

/-! ### Blanks in a parse -/

namespace Parse

open Match (Tree)
open Recognition (accept afterBlanks blankAt? blanksWithin)

variable {environment : Environment} {first : Grammar} {state after : State} {rule : Rule}
  {token : TokenRule} {tokens : List Rule} {parent : Nat}

/-- If tokens are remembered, then what is remembered of a token is what each token does that goes
by its names. -/
def Unmistaken (environment : Environment) (first : Grammar) (rule : Rule) : Prop :=
  environment.options.memoizeTokens = true →
    Unanimous environment first rule.grammar rule.name

/-- A whitespace token comes to what is remembered of it, or to what it does. -/
theorem attemptBlank_answers (environment : Environment) (rising : state.tree.Rising)
    (inside : parent < state.tree.size) (isToken : rule.token? = some token) :
    ∃ next, (attemptBlank environment parent rule state).outcome =
        .done (state.answer environment.source rule token parent).isSome next ∧
      TokenAnswered environment.source rule token parent state next := by
  rw [attemptBlank, isToken]
  exact tokenAnswered_attemptMemoized state isToken rising inside
    fun _ rising inside => outcome_attemptWith_token rising inside

/-- What comes of a token that is not mistaken for another is what it does. -/
theorem Unmistaken.answer_eq (unmistaken : Unmistaken environment first rule)
    (ready : Ready environment first parent state) (known : Known environment first rule)
    (isToken : rule.token? = some token) :
    state.answer environment.source rule token parent =
      token.matchAt? environment.source (state.tree.stop parent) :=
  ready.toSound.informed.answer_eq ⟨rule, known, rfl, rfl, isToken⟩ fun remembering =>
    unmistaken (ready.memoizing ▸ remembering)

/-- A token that does not match leaves it to the others. -/
theorem skipOne_of_unmatched (rest : List Rule)
    (unmatched : (attemptBlank environment parent rule state).outcome = .done false after) :
    (skipOne environment parent (rule :: rest) state).outcome =
      (skipOne environment parent rest after).outcome := by
  rw [skipOne, Step.stop, Step.outcome_read_bind, (Step.bind_of_done _ unmatched).1]
  rfl

theorem skipOne_of_matched (rest : List Rule)
    (matched : (attemptBlank environment parent rule state).outcome = .done true after) :
    (skipOne environment parent (rule :: rest) state).outcome =
      if state.tree.stop parent < after.tree.stop parent then
        .done true { after with tree := after.tree.skipLast parent }
      else (skipOne environment parent rest
        { after with tree := after.tree.discardLast parent }).outcome := by
  rw [skipOne, Step.stop, Step.outcome_read_bind, (Step.bind_of_done _ matched).1]
  show ((if state.tree.stop parent < after.tree.stop parent then _ else _ : Step Bool)
    after).outcome = _
  split <;> rfl

section

variable (faithful : environment.source.Faithful) (ready : Ready environment first parent state)
  (known : ∀ rule ∈ tokens, Known environment first rule)
include faithful ready known

/-- The first token that takes input is skipped. -/
theorem skipOne_done :
    ∃ skipped after, (skipOne environment parent tokens state).outcome = .done skipped after ∧
      ((∀ rule ∈ tokens, Unmistaken environment first rule) →
        accept skipped (after.tree.stop parent) =
          blankAt? environment.source (state.tree.stop parent) tokens) := by
  induction tokens generalizing state with
  | nil => exact ⟨false, state, rfl, fun _ => rfl⟩
  | cons rule rest inductionHypothesis =>
    -- A token that takes nothing is as if it had not been tried.
    have goOn : ∀ next, Still environment first state next →
        ((∀ other ∈ rule :: rest, Unmistaken environment first other) →
          blankAt? environment.source (state.tree.stop parent) (rule :: rest) =
            blankAt? environment.source (state.tree.stop parent) rest) →
        ∃ skipped after, (skipOne environment parent rest next).outcome = .done skipped after ∧
          ((∀ other ∈ rule :: rest, Unmistaken environment first other) →
            accept skipped (after.tree.stop parent) =
              blankAt? environment.source (state.tree.stop parent) (rule :: rest)) := by
      intro next still same
      obtain ⟨skipped, after, done, answer⟩ := inductionHypothesis (still.ready ready)
        fun other member => known other (List.mem_cons_of_mem _ member)
      refine ⟨skipped, after, done, fun unmistaken => ?_⟩
      rw [same unmistaken, ← still.tree_eq]
      exact answer fun other member => unmistaken other (List.mem_cons_of_mem _ member)
    cases isToken : rule.token? with
    | none =>
      have untried : (attemptBlank environment parent rule state).outcome =
          .done false state := by
        rw [attemptBlank, isToken]
        rfl
      rw [skipOne_of_unmatched rest untried]
      exact goOn state (.refl ready.toSound) fun _ => by rw [blankAt?, isToken]; rfl
    | some token =>
      obtain ⟨next, tried, answered⟩ := attemptBlank_answers environment ready.tree.rising
        ready.isOpen.inside isToken
      have blank : BlankTried environment first rule parent state _ next :=
        (meets_attemptBlank faithful ready (known rule List.mem_cons_self) :
          Run.Meets _ _ True _).returns _ _ tried
      have answer_eq : (∀ other ∈ rule :: rest, Unmistaken environment first other) →
          rule.token?.bind (·.matchAt? environment.source (state.tree.stop parent)) =
            state.answer environment.source rule token parent := fun unmistaken => by
        rw [isToken, (unmistaken rule List.mem_cons_self).answer_eq ready
          (known rule List.mem_cons_self) isToken, Option.bind_some]
      have stop_eq : ∀ length, state.answer environment.source rule token parent = some length →
          next.tree.stop parent = state.tree.stop parent + length := fun length same => by
        rw [answered.tree_eq, same]
        exact stop_attached_matchToken ready rule length
      cases answer : state.answer environment.source rule token parent with
      | none =>
        rw [answer] at tried blank
        rw [skipOne_of_unmatched rest tried]
        exact goOn next ⟨blank.toKept, blank.restored rfl⟩ fun unmistaken => by
          rw [blankAt?, answer_eq unmistaken, answer]
      | some length =>
        rw [answer] at tried blank
        rw [skipOne_of_matched rest tried, stop_eq length answer]
        cases length with
        | zero =>
          rw [Nat.add_zero, if_neg (Nat.lt_irrefl _)]
          exact goOn _ (still_discardLast ready blank.toKept (blank.grown rfl))
            fun unmistaken => by rw [blankAt?, answer_eq unmistaken, answer]
        | succ length =>
          rw [if_pos (Nat.lt_add_of_pos_right length.succ_pos)]
          refine ⟨true, _, rfl, fun unmistaken => ?_⟩
          rw [blankAt?, answer_eq unmistaken, answer]
          show some ((next.tree.skipLast parent).stop parent) = _
          rw [blank.sound.tree.stop_skipLast, stop_eq (length + 1) answer]

/-- Whitespace is skipped to its end. -/
theorem skipAll_done {rounds : Nat}
    (enough : environment.source.size < state.tree.stop parent + rounds) :
    ∃ after, (skipAll environment parent tokens rounds state).outcome = .done () after ∧
      ((∀ rule ∈ tokens, Unmistaken environment first rule) → after.tree.stop parent =
        blanksWithin environment.source tokens rounds (state.tree.stop parent)) := by
  induction rounds generalizing state with
  | zero =>
    have bound := ready.stop_le faithful
    omega
  | succ rounds inductionHypothesis =>
    obtain ⟨skipped, next, done, answer⟩ := skipOne_done faithful ready known
    have met : Run.Meets _ _ True _ := meets_skipOne faithful ready known
    have round := met.returns skipped next done
    rw [skipAll, (Step.bind_of_done _ done).1]
    cases skipped with
    | false =>
      refine ⟨next, rfl, fun unmistaken => ?_⟩
      rw [blanksWithin, ← answer unmistaken]
      exact congrArg (·.stop parent) (round.rests rfl).tree_eq
    | true =>
      obtain ⟨skips, further⟩ := round.skips rfl
      obtain ⟨after, done, stop_eq⟩ := inductionHypothesis skips.ready (by omega)
      refine ⟨after, done, fun unmistaken => ?_⟩
      rw [stop_eq unmistaken, blanksWithin, ← answer unmistaken]
      rfl

end

/-- Skipping whitespace comes to an end. If no whitespace token is mistaken for another, this is
the end of the whitespace of the grammar. -/
theorem skipWhitespace_done (faithful : environment.source.Faithful)
    (ready : Ready environment first parent state) :
    ∃ after, (skipWhitespace environment parent state).outcome = .done () after ∧
      ((∀ rule ∈ state.grammar.whitespaceTokens, Unmistaken environment first rule) →
        after.tree.stop parent =
          afterBlanks environment.source state.grammar (state.tree.stop parent)) := by
  rw [skipWhitespace, Step.outcome_read_bind, afterBlanks]
  cases state.grammar.whitespaceDisabled with
  | true => exact ⟨state, rfl, fun _ => rfl⟩
  | false =>
    exact skipAll_done faithful ready (known_whitespaceTokens ready.grammar)
      (Nat.lt_of_lt_of_le (Nat.lt_succ_self _) (Nat.le_add_left _ _))

end Parse

end Rulebook
