/-
This file shows that a failed parse reports its furthest failure. Every request for a rule
that exists is an attempt, also one that is undone later, or made in another grammar. The
report is placed at the greatest offset of all attempts, with the stack of the first attempt
that reached it and the names of all tokens that were tried there.

What a parse notes down about its attempts is at every moment a summary of the attempts made
so far; falling back changes nothing in it.
-/

import Mathlib.Data.String.Basic
import Rulebook.Proofs.Parse.Lawfulness
import Rulebook.Proofs.Parse.Restoration

namespace Rulebook

/-- Adding a text keeps a list sorted and free of repetition. -/
theorem Sorted.pairwise_insert {texts : List String} (sorted : texts.Pairwise (· < ·))
    (text : String) : (Sorted.insert text texts).Pairwise (· < ·) := by
  induction texts with
  | nil => exact List.pairwise_singleton _ _
  | cons first rest inductionHypothesis =>
    obtain ⟨least, sortedRest⟩ := List.pairwise_cons.mp sorted
    rw [insert]
    split
    · rename_i before
      refine List.pairwise_cons.mpr ⟨fun other member => ?_, sorted⟩
      rcases List.mem_cons.mp member with rfl | later
      · exact before
      · exact before.trans (least other later)
    · rename_i notBefore
      split
      · exact sorted
      · rename_i distinct
        have after : first < text := lt_of_le_of_ne (not_lt.mp notBefore) (Ne.symm distinct)
        refine List.pairwise_cons.mpr ⟨fun other member => ?_, inductionHypothesis sortedRest⟩
        rcases Sorted.mem_insert.mp member with rfl | later
        · exact after
        · exact least other later

namespace Parse

open Match (Tree)

/-! ### Attempts -/

/-- An attempt to match a rule: where it was made, and the rules being matched then, the
attempted one included, the innermost first. -/
structure Attempt where
  offset : Nat
  rule : Rule
  stack : List Frame

/-- The attempt that begins at a moment: a rule is asked for, and there is one of that name. -/
def Moment.attempt? (moment : Moment) : Option Attempt :=
  match moment.happening with
  | .asked parent name =>
    (moment.state.grammar.rule? name).map fun rule =>
      ⟨moment.state.tree.stop parent, rule, { rule := name } :: moment.state.stack⟩
  | _ => none

/-- The attempts among some moments, in their order. -/
def attempts (moments : List Moment) : List Attempt :=
  moments.filterMap Moment.attempt?

@[simp]
theorem attempts_nil : attempts [] = [] := rfl

@[simp]
theorem attempts_append (first second : List Moment) :
    attempts (first ++ second) = attempts first ++ attempts second :=
  List.filterMap_append

@[simp]
theorem attempts_changed (state : State) (moments : List Moment) :
    attempts (⟨.changed, state⟩ :: moments) = attempts moments := rfl

theorem attempts_asked (parent : Nat) (name : String) (state : State) (moments : List Moment) :
    attempts (⟨.asked parent name, state⟩ :: moments) =
      ((state.grammar.rule? name).map fun rule =>
        ⟨state.tree.stop parent, rule, { rule := name } :: state.stack⟩).toList ++
          attempts moments := by
  have here : Moment.attempt? ⟨.asked parent name, state⟩ =
    (state.grammar.rule? name).map fun rule =>
      ⟨state.tree.stop parent, rule, { rule := name } :: state.stack⟩ := rfl
  rw [attempts, List.filterMap_cons, here]
  cases state.grammar.rule? name <;> rfl

@[simp]
theorem attempts_trail {Value : Type} (outcome : Outcome Value) :
    attempts outcome.trail.moments = [] := by
  rw [Outcome.moments_trail]
  cases outcome.last? <;> rfl

/-! ### Summaries -/

/-- What is reported of some attempts: the greatest offset at which one was made, the tokens
attempted there, and the stack of the first attempt there. -/
structure Reports (attempts : List Attempt) (offset : Nat) (expected : List String)
    (stack : List Frame) : Prop where
  bound : ∀ attempt ∈ attempts, attempt.offset ≤ offset
  /-- The names are in order, and none of them is repeated. -/
  sorted : expected.Pairwise (· < ·)
  expected_iff : ∀ name, name ∈ expected ↔ ∃ attempt ∈ attempts,
    attempt.offset = offset ∧ attempt.rule.isToken = true ∧ attempt.rule.name = name
  reached : ∃ earlier attempt later, attempts = earlier ++ attempt :: later ∧
    attempt.offset = offset ∧ attempt.stack = stack ∧ ∀ other ∈ earlier, other.offset < offset

/-- What has been noted down is a summary of some attempts. -/
structure Summarizes (attempts : List Attempt) (diagnostics : Diagnostics) : Prop where
  nothing : diagnostics.furthest = none → attempts = []
  reports : ∀ offset, diagnostics.furthest = some offset →
    Reports attempts offset diagnostics.expected diagnostics.stack

/-- Note an attempt down. -/
def noteAttempt (diagnostics : Diagnostics) (attempt : Attempt) : Diagnostics :=
  diagnostics.record attempt.offset attempt.rule attempt.stack

variable {earlier : List Attempt} {attempt : Attempt} {offset : Nat} {expected : List String}
  {stack : List Frame} {diagnostics : Diagnostics}

/-- An attempt further on than all others makes all others irrelevant. -/
theorem reports_further (further : ∀ other ∈ earlier, other.offset < attempt.offset) :
    Reports (earlier ++ [attempt]) attempt.offset
      (if attempt.rule.isToken then [attempt.rule.name] else []) attempt.stack where
  bound other member := by
    rcases List.mem_append.mp member with before | last
    · exact Nat.le_of_lt (further other before)
    · rw [List.mem_singleton.mp last]
  sorted := by
    split
    · exact List.pairwise_singleton _ _
    · exact List.Pairwise.nil
  expected_iff name := by
    constructor
    · intro member
      split at member
      · rename_i isToken
        exact ⟨attempt, by simp, rfl, isToken, (List.mem_singleton.mp member).symm⟩
      · cases member
    · rintro ⟨other, member, same, isToken, rfl⟩
      rcases List.mem_append.mp member with before | last
      · exact absurd same (Nat.ne_of_lt (further other before))
      · rw [List.mem_singleton.mp last] at isToken ⊢
        rw [if_pos isToken]
        exact List.mem_singleton_self _
  reached := ⟨earlier, attempt, [], rfl, rfl, rfl, further⟩

/-- An attempt at the same offset may add a token. -/
theorem Reports.level (reports : Reports earlier attempt.offset expected stack) :
    Reports (earlier ++ [attempt]) attempt.offset
      (if attempt.rule.isToken then Sorted.insert attempt.rule.name expected else expected)
      stack where
  bound other member := by
    rcases List.mem_append.mp member with before | last
    · exact reports.bound other before
    · rw [List.mem_singleton.mp last]
  sorted := by
    split
    · exact Sorted.pairwise_insert reports.sorted _
    · exact reports.sorted
  expected_iff name := by
    have listed : name ∈ (if attempt.rule.isToken then
        Sorted.insert attempt.rule.name expected else expected) ↔
          (attempt.rule.isToken = true ∧ attempt.rule.name = name) ∨ name ∈ expected := by
      split
      · rename_i isToken
        rw [Sorted.mem_insert, eq_comm]
        simp [isToken]
      · rename_i notToken
        simp [notToken]
    rw [listed, reports.expected_iff]
    simp only [List.mem_append, List.mem_singleton, or_and_right, exists_or, exists_eq_left]
    rw [or_comm]
    simp
  reached := by
    obtain ⟨before, first, later, rfl, same, stack_eq, less⟩ := reports.reached
    exact ⟨before, first, later ++ [attempt], by simp, same, stack_eq, less⟩

/-- An attempt that falls short changes nothing. -/
theorem Reports.short (reports : Reports earlier offset expected stack)
    (less : attempt.offset < offset) : Reports (earlier ++ [attempt]) offset expected stack where
  bound other member := by
    rcases List.mem_append.mp member with before | last
    · exact reports.bound other before
    · rw [List.mem_singleton.mp last]
      exact Nat.le_of_lt less
  sorted := reports.sorted
  expected_iff name := by
    rw [reports.expected_iff]
    simp only [List.mem_append, List.mem_singleton, or_and_right, exists_or, exists_eq_left]
    simp [Nat.ne_of_lt less]
  reached := by
    obtain ⟨before, first, later, rfl, same, stack_eq, before_less⟩ := reports.reached
    exact ⟨before, first, later ++ [attempt], by simp, same, stack_eq, before_less⟩

/-- What is noted down of an attempt that advances. -/
theorem noteAttempt_of_advances (advances : diagnostics.advances attempt.offset = true) :
    noteAttempt diagnostics attempt =
      { furthest := some attempt.offset
        stack := attempt.stack
        expected := if attempt.rule.isToken then [attempt.rule.name] else [] } := by
  rw [noteAttempt, Diagnostics.record, if_pos advances]
  simp only [Option.any_some, Nat.le_refl, decide_true, Bool.and_true]
  split <;> rfl

/-- What is noted down of an attempt at the furthest offset so far. -/
theorem noteAttempt_of_level (level : diagnostics.furthest = some attempt.offset) :
    noteAttempt diagnostics attempt = { diagnostics with
      expected := if attempt.rule.isToken then
        Sorted.insert attempt.rule.name diagnostics.expected else diagnostics.expected } := by
  have notAdvances : diagnostics.advances attempt.offset = false := by
    simp [Diagnostics.advances, level]
  rw [noteAttempt, Diagnostics.record, notAdvances]
  simp only [Bool.false_eq_true, if_false, level, Option.any_some, Nat.le_refl, decide_true,
    Bool.and_true]
  split <;> rw [← level]

/-- Nothing is noted down of an attempt that falls short. -/
theorem noteAttempt_of_short (furthest : diagnostics.furthest = some offset)
    (less : attempt.offset < offset) : noteAttempt diagnostics attempt = diagnostics := by
  have notAdvances : diagnostics.advances attempt.offset = false := by
    simp [Diagnostics.advances, furthest, Nat.le_of_lt less]
  rw [noteAttempt, Diagnostics.record, notAdvances]
  simp [furthest, less]

theorem Summarizes.note (summarizes : Summarizes earlier diagnostics) (attempt : Attempt) :
    Summarizes (earlier ++ [attempt]) (noteAttempt diagnostics attempt) := by
  have further : (∀ other ∈ earlier, other.offset < attempt.offset) →
      diagnostics.advances attempt.offset = true →
        Summarizes (earlier ++ [attempt]) (noteAttempt diagnostics attempt) := by
    intro further advances
    rw [noteAttempt_of_advances advances]
    refine ⟨fun absurd => (nomatch absurd), fun offset same => ?_⟩
    rw [← Option.some.inj same]
    exact reports_further further
  cases found : diagnostics.furthest with
  | none =>
    refine further (fun other member => ?_) (by simp [Diagnostics.advances, found])
    rw [summarizes.nothing found] at member
    cases member
  | some furthest =>
    have reports := summarizes.reports furthest found
    rcases Nat.lt_trichotomy furthest attempt.offset with beyond | level | short
    · exact further (fun other member => Nat.lt_of_le_of_lt (reports.bound other member) beyond)
        (by simp [Diagnostics.advances, found, beyond])
    · subst level
      rw [noteAttempt_of_level found]
      refine ⟨fun absurd => ?_, fun offset same => ?_⟩
      · rw [found] at absurd
        cases absurd
      · rw [found] at same
        rw [← Option.some.inj same]
        exact reports.level
    · rw [noteAttempt_of_short found short]
      refine ⟨fun absurd => ?_, fun offset same => ?_⟩
      · rw [found] at absurd
        cases absurd
      · rw [found] at same
        rw [← Option.some.inj same]
        exact reports.short short

/-- To note attempts down one after another is to summarize them. -/
theorem summarizes_foldl (later : List Attempt) (summarizes : Summarizes earlier diagnostics) :
    Summarizes (earlier ++ later) (later.foldl noteAttempt diagnostics) := by
  induction later generalizing earlier diagnostics with
  | nil =>
    rw [List.append_nil]
    exact summarizes
  | cons attempt rest inductionHypothesis =>
    rw [List.append_cons, List.foldl_cons]
    exact inductionHypothesis (summarizes.note attempt)

/-! ### Attempts of a parse -/

variable {environment : Environment} {first : Grammar} {parent : Nat} {name : String}
  {state last : State}

/-- All attempts are noted down, and nothing else is. -/
def notingLaw : Law := fun _ _ state moments ending =>
  ∀ last, ending.last? = some last →
    last.diagnostics = (attempts moments).foldl noteAttempt state.diagnostics

/-- A request for a rule notes the attempt down, and then what is attempted for it. -/
theorem Called.noted {moments : List Moment} {ending : Outcome Unit}
    (called : Called notingLaw parent name state moments ending)
    (ended : ending.last? = some last) :
    last.diagnostics = (attempts moments).foldl noteAttempt state.diagnostics := by
  cases called with
  | unworked => cases ended
  | unresolved absent error =>
    cases ended
    simp only [attempts_asked, absent, attempts_changed, attempts_nil]
    rfl
  | resolved found inner =>
    rw [Outcome.last?_mapState] at ended
    obtain ⟨next, reached, rfl⟩ := Option.map_eq_some_iff.mp ended
    simp only [attempts_asked, found, attempts_changed, attempts_append, attempts_trail,
      List.append_nil, List.foldl_append]
    exact inner next reached

theorem lawful_noting (environment : Environment) (first : Grammar) :
    Lawful environment first notingLaw where
  silent ready unchanged last ended := by
    rw [unchanged last ended]
    rfl
  join ready here left right last ended := by
    rw [attempts_append, List.foldl_append, ← left _ rfl]
    exact right last ended
  slight ready slight notAsked last ended := by
    cases ended
    rw [slight.diagnostics_eq]
    rename_i happening
    cases happening with
    | asked parent name => exact absurd rfl (notAsked parent name)
    | changed => rfl
    | tried parent rule => rfl
  sprout ready sprouting last ended := by
    cases ended
    exact sprouting.diagnostics_eq
  child ready notToken notRepeating inner := inner
  refuse ready isOperator repeating last ended := by
    cases ended
    rfl
  switch ready isRule kind found inner last ended := by
    rw [Outcome.last?_mapState] at ended
    obtain ⟨next, reached, rfl⟩ := Option.map_eq_some_iff.mp ended
    simp only [attempts_changed, attempts_append, attempts_trail, List.append_nil]
    exact inner next reached
  call ready mentions called last ended := called.noted ended

/-- A request for a rule that comes to an end without a failure is an attempt. -/
theorem Called.attempted {law : Law} {moments : List Moment}
    (called : Called law parent name state moments (.done () last)) : attempts moments ≠ [] := by
  generalize ended : Outcome.done () last = ending at called
  cases called with
  | unworked => cases ended
  | unresolved absent error => cases ended
  | resolved found inner =>
    rw [attempts_asked, found]
    exact List.cons_ne_nil _ _

/-- A parse whose start rule is done with has made an attempt. -/
theorem attempts_begin_ne_nil (faithful : environment.source.Faithful) {fuel : Nat}
    {start : String} {matched : Bool}
    (done : (begin environment fuel start
      (State.initial first environment.options)).outcome = .done matched last) :
    attempts (begin environment fuel start
      (State.initial first environment.options)).trail.moments ≠ [] := by
  have ready := ready_initial environment first
  unfold begin at done ⊢
  cases skipped : (skipWhitespace environment Tree.root
      (State.initial first environment.options)).outcome with
  | done value middle =>
    have whitespace : Run.Meets _ _ True _ := meets_skipWhitespace faithful ready
    have here := (whitespace.returns value middle skipped).ready
    obtain ⟨outcome_eq, moments_eq⟩ :=
      Step.bind_of_done (fun _ => consume environment fuel Tree.root start) skipped
    rw [outcome_eq] at done
    have called := (lawful_noting environment first).called_consume faithful fuel here start
    rw [done] at called
    rw [moments_eq, attempts_append]
    exact List.append_ne_nil_of_right_ne_nil _ called.attempted
  | aborted error middle =>
    rw [(Step.bind_of_aborted _ skipped).1] at done
    cases done
  | exhausted =>
    rw [(Step.bind_of_exhausted _ skipped).1] at done
    cases done

/-- What a parse has noted down when its start rule is done with is a summary of all its
attempts, and there is at least one. -/
theorem exists_reports (faithful : environment.source.Faithful) {fuel : Nat} {start : String}
    {matched : Bool}
    (done : (begin environment fuel start
      (State.initial first environment.options)).outcome = .done matched last) :
    ∃ furthest, last.diagnostics.furthest = some furthest ∧
      Reports (attempts (begin environment fuel start
        (State.initial first environment.options)).trail.moments) furthest
          last.diagnostics.expected last.diagnostics.stack := by
  have lawful := lawful_noting environment first
  have noted := lawful.begin faithful fuel start last (by rw [done]; rfl)
  have summarizes : Summarizes ([] ++ attempts (begin environment fuel start
      (State.initial first environment.options)).trail.moments) last.diagnostics := by
    rw [noted]
    exact summarizes_foldl _ ⟨fun _ => rfl, fun offset absurd => nomatch absurd⟩
  cases found : last.diagnostics.furthest with
  | none => exact absurd (summarizes.nothing found) (attempts_begin_ne_nil faithful done)
  | some furthest => exact ⟨furthest, rfl, summarizes.reports furthest found⟩

/-- The failure of a parse whose start rule did not match tells what has been noted down. -/
theorem State.mismatch_of_furthest {furthest : Nat}
    (found : last.diagnostics.furthest = some furthest) (environment : Environment) :
    (last.mismatch environment).offset = some furthest ∧
      (last.mismatch environment).expected = last.diagnostics.expected ∧
        (last.mismatch environment).stack = last.diagnostics.stack.reverse := by
  refine ⟨?_, ?_, rfl⟩
  · show some (last.diagnostics.furthest.getD 0) = _
    rw [found, Option.getD_some]
  · show last.diagnostics.expectedAt (last.diagnostics.furthest.getD 0) = _
    rw [Diagnostics.expectedAt, found, Option.getD_some, if_pos rfl]

/-- The failure of a parse that left some input tells what has been noted down, but no tokens
if they were tried before the place where it left off. -/
theorem State.leftover_of_furthest {furthest : Nat}
    (found : last.diagnostics.furthest = some furthest) (environment : Environment)
    (stop : Nat) :
    (last.leftover environment stop).offset = some (max furthest stop) ∧
      (last.leftover environment stop).expected =
          (if stop ≤ furthest then last.diagnostics.expected else []) ∧
        (last.leftover environment stop).stack = last.diagnostics.stack.reverse := by
  have furthest_iff : furthest = max furthest stop ↔ stop ≤ furthest := by omega
  unfold State.leftover
  rw [found]
  refine ⟨rfl, ?_, rfl⟩
  show last.diagnostics.expectedAt (max furthest stop) = _
  rw [Diagnostics.expectedAt, found]
  simp only [Option.some.injEq, furthest_iff]

/-- A parse that does not match its text reports its furthest failure. If the start rule did
not match, the report is made for the greatest offset of all attempts. If it left some input,
the report is made for the place where it left off, or for the greatest offset, whichever is
further on; tokens are reported only if they were tried there. -/
theorem furthest_failure_is_reported (input : String) (registry : Registry)
    (options : ParseOptions) (tracing : Bool) (first : Grammar) (start : Option String)
    (name : String) (fuel : Nat) :
    let environment := Environment.ofText input registry options tracing
    let parse := begin environment fuel name (State.initial first environment.options)
    (start <|> first.startSymbol) = some name →
    (∀ after, parse.outcome = .done false after → ∃ error offset stack,
      (run environment fuel first start).answer = .failed error ∧
      Reports (attempts parse.trail.moments) offset error.expected stack ∧
      error.offset = some offset ∧ error.stack = stack.reverse) ∧
    ∀ after, parse.outcome = .done true after →
      after.tree.stop Tree.root < environment.source.size →
        ∃ error offset expected stack,
          (run environment fuel first start).answer = .failed error ∧
          Reports (attempts parse.trail.moments) offset expected stack ∧
          error.offset = some (max offset (after.tree.stop Tree.root)) ∧
          error.expected =
            (if after.tree.stop Tree.root ≤ offset then expected else []) ∧
          error.stack = stack.reverse := by
  intro environment parse chosen
  have faithful := Environment.faithful_ofText input registry options tracing
  have ran : run environment fuel first start = conclude environment parse.outcome := by
    rw [run, chosen]
  refine ⟨fun after done => ?_, fun after done left => ?_⟩
  · obtain ⟨furthest, found, reports⟩ := exists_reports faithful done
    obtain ⟨offset_eq, expected_eq, stack_eq⟩ := after.mismatch_of_furthest found environment
    refine ⟨after.mismatch environment, furthest, after.diagnostics.stack, ?_, ?_, offset_eq,
      stack_eq⟩
    · rw [ran, done]
      rfl
    · rw [expected_eq]
      exact reports
  · obtain ⟨furthest, found, reports⟩ := exists_reports faithful done
    let stop := after.tree.stop Tree.root
    refine ⟨after.leftover environment stop, furthest, after.diagnostics.expected,
      after.diagnostics.stack, ?_, reports, after.leftover_of_furthest found environment stop⟩
    rw [ran, done, conclude]
    exact congrArg Report.answer (if_pos left)

/-- The second half of a pair is missing, and then there is more than a pair. -/
theorem failures_of_pairs_are_reported :
    (∃ error offset stack,
      (run (Environment.ofText "xx" {} {} false) 3 pair (some "pair")).answer = .failed error ∧
      Reports (attempts (begin (Environment.ofText "xx" {} {} false) 3 "pair"
        (State.initial pair {})).trail.moments) offset error.expected stack ∧
      error.offset = some offset ∧ error.stack = stack.reverse) ∧
    ∃ error offset expected stack,
      (run (Environment.ofText "xyx" {} {} false) 3 pair (some "pair")).answer = .failed error ∧
      Reports (attempts (begin (Environment.ofText "xyx" {} {} false) 3 "pair"
        (State.initial pair {})).trail.moments) offset expected stack ∧
      error.offset = some (max offset 2) ∧
      error.expected = (if 2 ≤ offset then expected else []) ∧ error.stack = stack.reverse := by
  obtain ⟨after, failed⟩ : ∃ after, (begin (Environment.ofText "xx" {} {} false) 3 "pair"
      (State.initial pair {})).outcome = .done false after := ⟨_, rfl⟩
  obtain ⟨rest, matched, stop_eq⟩ : ∃ rest, (begin (Environment.ofText "xyx" {} {} false) 3
      "pair" (State.initial pair {})).outcome = .done true rest ∧
        rest.tree.stop Tree.root = 2 := ⟨_, rfl, rfl⟩
  have missing := furthest_failure_is_reported "xx" {} {} false pair (some "pair") "pair" 3 rfl
  have leaving := furthest_failure_is_reported "xyx" {} {} false pair (some "pair") "pair" 3 rfl
  have reported := leaving.2 rest matched (stop_eq ▸ by decide)
  rw [stop_eq] at reported
  exact ⟨missing.1 after failed, reported⟩

end Parse

end Rulebook
