/-
This file says what the answer of a parse means. A parse that is not given up answers with a
tree exactly when its start rule matched and nothing was left. Otherwise it answers with one
failure, placed at a boundary of the text. The failure says that the text stops short if it is
placed at the end; and if not, then either that there was input left, if the start rule
matched, or which character it is that stands there.

The offset of a failure is that of the furthest attempt, also if the attempt has been undone
since. Every attempt is made at the end of an open node, and that is a boundary.
-/

import Rulebook.Proofs.Parse.Abortion
import Rulebook.Proofs.Parse.Furthest

namespace Rulebook.Parse

open Match (Tree)

variable {environment : Environment} {first : Grammar} {matched : Bool} {last : State}

/-- A failure says where a text stops to match, and what stands there. What it says depends on
whether the start rule matched. -/
structure Blames (source : Source) (matched : Bool) (error : ParseError) (offset : Nat) :
    Prop where
  offset_eq : error.offset = some offset
  boundary : Boundary source.chars offset
  offset_le : offset ≤ source.size
  endOfInput_iff : error.cause = .unexpectedEndOfInput ↔ offset = source.size
  unexpected_iff : ∀ c, error.cause = .unexpectedCharacter c ↔ matched = false ∧
    ∃ before after, source.chars = before ++ c :: after ∧ byteCount before = offset
  trailing_iff : error.cause = .trailingInput ↔ matched = true ∧ offset < source.size
  position_eq : error.position = some (source.position offset)
  context_eq : error.context = some (source.highlight offset)

/-! ### Where attempts are made -/

/-- An attempt among proper moments is made at a boundary. -/
theorem boundary_of_attempt {moments : List Moment}
    (proper : ∀ moment ∈ moments, Proper environment first moment) {attempt : Attempt}
    (member : attempt ∈ attempts moments) : Boundary environment.source.chars attempt.offset := by
  obtain ⟨moment, member, found⟩ := List.mem_filterMap.mp member
  have proper := proper moment member
  rw [Moment.attempt?] at found
  split at found
  · rename_i parent name asked
    obtain ⟨rule, -, rfl⟩ := Option.map_eq_some_iff.mp found
    have isOpen := proper.isOpen parent (by rw [asked]; rfl)
    exact (proper.sound.tree.spans parent isOpen.inside).2.1
  · cases found

/-- When the start rule is done with, the furthest offset has been noted down, and it is a
boundary; and so is the place where the root ends. -/
theorem exists_furthest (faithful : environment.source.Faithful) {fuel : Nat} {start : String}
    (done : (begin environment fuel start
      (State.initial first environment.options)).outcome = .done matched last) :
    (∃ furthest, last.diagnostics.furthest = some furthest ∧
      Boundary environment.source.chars furthest) ∧
    Boundary environment.source.chars (last.tree.stop Tree.root) := by
  have meets := meets_begin faithful (excuses_always environment first) fuel start
    (ready_initial environment first)
  obtain ⟨furthest, found, reports⟩ := exists_reports faithful done
  obtain ⟨earlier, attempt, later, listed, rfl, -⟩ := reports.reached
  refine ⟨⟨attempt.offset, found, boundary_of_attempt meets.passes ?_⟩, ?_⟩
  · rw [listed]
    exact List.mem_append_right _ List.mem_cons_self
  · obtain ⟨middle, -, answered⟩ := meets.returns matched last done
    have intact := answered.sound.tree
    exact (intact.spans Tree.root intact.nonempty).2.1

/-! ### What failures say -/

/-- A start rule that did not match: what stands at the furthest offset was not expected. -/
theorem blames_mismatch (faithful : environment.source.Faithful) {furthest : Nat}
    (found : last.diagnostics.furthest = some furthest)
    (boundary : Boundary environment.source.chars furthest) :
    Blames environment.source false (last.mismatch environment) furthest := by
  have offset_eq : last.diagnostics.furthest.getD 0 = furthest := by
    rw [found, Option.getD_some]
  have cause_eq : (last.mismatch environment).cause =
      (environment.source.charAt? furthest).elim .unexpectedEndOfInput .unexpectedCharacter := by
    rw [← offset_eq, State.mismatch]
    cases environment.source.charAt? (last.diagnostics.furthest.getD 0) <;> rfl
  refine ⟨congrArg some offset_eq, boundary, faithful.le_size boundary, ?_, fun c => ?_, ?_,
    congrArg (fun offset => some (environment.source.position offset)) offset_eq,
    congrArg (fun offset => some (environment.source.highlight offset)) offset_eq⟩
  · rw [cause_eq, ← faithful.charAt?_eq_none boundary]
    cases environment.source.charAt? furthest <;> simp
  · rw [cause_eq, ← faithful.charAt?_eq_some]
    cases environment.source.charAt? furthest <;> simp
  · rw [cause_eq]
    cases environment.source.charAt? furthest <;> simp

/-- A start rule that matched and left something: the text goes on after the furthest offset,
or it stops short there. -/
theorem blames_leftover (faithful : environment.source.Faithful) {furthest stop : Nat}
    (found : last.diagnostics.furthest = some furthest)
    (boundary : Boundary environment.source.chars furthest)
    (stopBoundary : Boundary environment.source.chars stop) :
    Blames environment.source true (last.leftover environment stop) (max furthest stop) := by
  have further : Boundary environment.source.chars (max furthest stop) := by
    rcases Nat.le_total furthest stop with le | le
    · rw [Nat.max_eq_right le]
      exact stopBoundary
    · rw [Nat.max_eq_left le]
      exact boundary
  have le_size := faithful.le_size further
  unfold State.leftover
  rw [found]
  refine ⟨rfl, further, le_size, ?_, fun c => ?_, ?_, rfl, rfl⟩
  · show (if environment.source.size ≤ max furthest stop then FailureCause.unexpectedEndOfInput
      else .trailingInput) = .unexpectedEndOfInput ↔ _
    split <;> simp <;> omega
  · show (if environment.source.size ≤ max furthest stop then FailureCause.unexpectedEndOfInput
      else .trailingInput) = .unexpectedCharacter c ↔ _
    split <;> simp
  · show (if environment.source.size ≤ max furthest stop then FailureCause.unexpectedEndOfInput
      else .trailingInput) = .trailingInput ↔ _
    split <;> simp <;> omega

/-! ### Every answer -/

/-- The beginning of a parse in its two parts: the whitespace, and the start rule. -/
theorem begin_eq_done {state : State} {fuel : Nat} {start : String} :
    (begin environment fuel start state).outcome = .done matched last ↔
      ∃ middle, (skipWhitespace environment Tree.root state).outcome = .done () middle ∧
        (consume environment fuel Tree.root start middle).outcome = .done matched last := by
  unfold begin
  cases skipped : (skipWhitespace environment Tree.root state).outcome with
  | done value middle =>
    rw [(Step.bind_of_done _ skipped).1]
    simp
  | aborted error middle =>
    rw [(Step.bind_of_aborted _ skipped).1]
    simp
  | exhausted =>
    rw [(Step.bind_of_exhausted _ skipped).1]
    simp

/-- What a parse answers when its start rule is done with. -/
theorem conclude_done (faithful : environment.source.Faithful) {fuel : Nat} {start : String}
    (done : (begin environment fuel start
      (State.initial first environment.options)).outcome = .done matched last) :
    let answer := (conclude environment (.done matched last)).answer
    ((∃ result, answer = .parsed result) ↔
      matched = true ∧ last.tree.stop Tree.root = environment.source.size) ∧
    ((¬∃ result, answer = .parsed result) → ∃ error offset, answer = .failed error ∧
      Blames environment.source matched error offset) := by
  obtain ⟨⟨furthest, found, boundary⟩, stopBoundary⟩ := exists_furthest faithful done
  have le_size := faithful.le_size stopBoundary
  cases matched with
  | false =>
    refine ⟨by simp [conclude], fun _ => ?_⟩
    exact ⟨_, furthest, rfl, blames_mismatch faithful found boundary⟩
  | true =>
    by_cases left : last.tree.stop Tree.root < environment.source.size
    · have answer_eq : (conclude environment (.done true last)).answer =
          .failed (last.leftover environment (last.tree.stop Tree.root)) := by
        simp only [conclude, if_pos left]
      rw [answer_eq]
      refine ⟨by simp; omega, fun _ => ?_⟩
      exact ⟨_, _, rfl, blames_leftover faithful found boundary stopBoundary⟩
    · have answer_eq : (conclude environment (.done true last)).answer =
          .parsed ⟨environment.source, last.tree, last.totals⟩ := by
        simp only [conclude, if_neg left]
      rw [answer_eq]
      refine ⟨by simp; omega, fun notParsed => absurd ⟨_, rfl⟩ notParsed⟩

/-- A parse that comes to an end, and is not given up, answers with a tree if and only if its
start rule matched after the leading whitespace and the root then ends at the end of the text.
Otherwise it answers with one failure, and the failure says where the text stops to match, and
what stands there. -/
theorem answers_are_classified (input : String) (registry : Registry) (options : ParseOptions)
    (tracing : Bool) (first : Grammar) (start : Option String) (fuel : Nat) :
    let environment := Environment.ofText input registry options tracing
    let answer := (run environment fuel first start).answer
    answer ≠ .exhausted →
    (∀ error, answer = .failed error → error.cause.isAbortion = false) →
    ∃ name middle matched last, (start <|> first.startSymbol) = some name ∧
      (skipWhitespace environment Tree.root (State.initial first environment.options)).outcome =
        .done () middle ∧
      (consume environment fuel Tree.root name middle).outcome = .done matched last ∧
      ((∃ result, answer = .parsed result) ↔
        matched = true ∧ last.tree.stop Tree.root = environment.source.size) ∧
      ((¬∃ result, answer = .parsed result) → ∃ error offset, answer = .failed error ∧
        Blames environment.source matched error offset) := by
  intro environment answer ends notAborted
  have faithful := Environment.faithful_ofText input registry options tracing
  cases chosen : start <|> first.startSymbol with
  | none =>
    have failed : answer = .failed { cause := .noStartSymbol } := by
      simp only [answer, run, chosen]
    exact absurd (notAborted _ failed) (by decide)
  | some name =>
    have answer_eq : answer = (conclude environment (begin environment fuel name
        (State.initial first environment.options)).outcome).answer := by
      simp only [answer, run, chosen]
    cases ended : (begin environment fuel name
        (State.initial first environment.options)).outcome with
    | exhausted => exact absurd (by rw [answer_eq, ended]; rfl) ends
    | aborted error after =>
      have failed : answer = .failed error := by
        rw [answer_eq, ended]
        rfl
      exact absurd (aborting_begin fuel name _ error after ended)
        (by rw [notAborted error failed]; decide)
    | done matched last =>
      obtain ⟨middle, skipped, answered⟩ := begin_eq_done.mp ended
      rw [answer_eq, ended]
      exact ⟨name, middle, matched, last, rfl, skipped, answered, conclude_done faithful ended⟩

/-- The second half of a pair is missing, and another character stands in its place; then there
is more than a pair. -/
theorem answers_to_pairs_are_classified :
    (∃ error, (run (Environment.ofText "xé" {} {} false) 3 pair (some "pair")).answer =
        .failed error ∧ error.cause = .unexpectedCharacter 'é' ∧
        Blames (.ofString "xé") false error 1) ∧
    ∃ error, (run (Environment.ofText "xyx" {} {} false) 3 pair (some "pair")).answer =
        .failed error ∧ error.cause = .trailingInput ∧ Blames (.ofString "xyx") true error 2 := by
  obtain ⟨missing, ranMissing, missing_cause, missing_offset⟩ : ∃ error,
      (run (Environment.ofText "xé" {} {} false) 3 pair (some "pair")).answer = .failed error ∧
      error.cause = .unexpectedCharacter 'é' ∧ error.offset = some 1 := ⟨_, rfl, rfl, rfl⟩
  obtain ⟨more, ranMore, more_cause, more_offset⟩ : ∃ error,
      (run (Environment.ofText "xyx" {} {} false) 3 pair (some "pair")).answer = .failed error ∧
      error.cause = .trailingInput ∧ error.offset = some 2 := ⟨_, rfl, rfl, rfl⟩
  have blamed : ∀ {answer : Answer} {error : ParseError} {matched : Bool} {source : Source},
      answer = .failed error →
      ((¬∃ result, answer = .parsed result) →
        ∃ error offset, answer = .failed error ∧ Blames source matched error offset) →
      ∃ offset, Blames source matched error offset := by
    intro answer error matched source failed otherwise
    obtain ⟨_, offset, same, blames⟩ := otherwise (by rw [failed]; simp)
    obtain rfl := Answer.failed.inj (failed.symm.trans same)
    exact ⟨offset, blames⟩
  constructor
  · obtain ⟨_, _, matched, _, -, -, -, -, otherwise⟩ :=
      answers_are_classified "xé" {} {} false pair (some "pair") 3 (by rw [ranMissing]; simp)
        (fun error same => by
          rw [← Answer.failed.inj (ranMissing.symm.trans same), missing_cause]
          rfl)
    obtain ⟨offset, blames⟩ := blamed ranMissing otherwise
    obtain rfl := Option.some.inj (missing_offset.symm.trans blames.offset_eq)
    obtain ⟨rfl, -⟩ := (blames.unexpected_iff _).mp missing_cause
    exact ⟨missing, ranMissing, missing_cause, blames⟩
  · obtain ⟨_, _, matched, _, -, -, -, -, otherwise⟩ :=
      answers_are_classified "xyx" {} {} false pair (some "pair") 3 (by rw [ranMore]; simp)
        (fun error same => by
          rw [← Answer.failed.inj (ranMore.symm.trans same), more_cause]
          rfl)
    obtain ⟨offset, blames⟩ := blamed ranMore otherwise
    obtain rfl := Option.some.inj (more_offset.symm.trans blames.offset_eq)
    obtain ⟨rfl, -⟩ := blames.trailing_iff.mp more_cause
    exact ⟨more, ranMore, more_cause, blames⟩

end Rulebook.Parse
