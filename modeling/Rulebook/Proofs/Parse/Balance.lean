/-
This file says what the counters of a successful parse come to. Every call was answered. Without
a memo no question was counted. With a memo there are as many misses as entries, since a token is
matched with the text once for each key; and if the memo is transparent, hits and misses together
are the tokens that the same parse tries without it.
-/

import Rulebook.Proofs.Parse.Coverage
import Rulebook.Proofs.Parse.Ledger
import Rulebook.Proofs.Parse.Transparency

namespace Rulebook

/-- A text may be parsed with a grammar that was published, or with one that declares the same
tokens as the published grammar of its name, should there be one. -/
def Registry.Suits (compile : Compiler) (registry : Registry) (first : Grammar) : Prop :=
  registry.Built compile ∧
    ((∃ name, registry.lookup? name = some first) ∨
      first.Built compile ∧
        ∀ other, registry.lookup? first.name = some other → first.TokensAlike compile other)

namespace Parse

open Match (Tree)

variable {environment : Environment} {first : Grammar} {after : State} {fuel : Nat}
  {name : String}

theorem uniform_of_suits {compile : Compiler} (suits : environment.registry.Suits compile first) :
    Uniform environment first := by
  obtain ⟨published, ⟨name, found⟩ | ⟨built, alike⟩⟩ := suits
  · obtain ⟨built, rfl⟩ := published.of_lookup? found
    refine uniform_of_built built published fun other found' => ?_
    rw [← Option.some.inj (found.symm.trans found')]
    exact built.tokensAlike_self
  · exact uniform_of_built built published alike

/-- A parse that returns has kept its accounts from the beginning. -/
theorem accounted_of_done {environment : Environment} {matched : Bool}
    (done : (begin environment fuel name (State.initial first environment.options)).outcome =
      .done matched after) :
    let moments :=
      (begin environment fuel name (State.initial first environment.options)).trail.moments
    after.statistics.calls = after.statistics.found + after.statistics.notFound ∧
      after.statistics.cacheHits = 0 ∧ after.statistics.cacheMisses = 0 ∧
      Option.Rel (Memo.Asked (tokenAttempts moments) (evaluations moments))
        (if environment.options.memoizeTokens then some {} else none) after.memo := by
  have accounted := accountable_begin fuel name _ matched after done
  refine ⟨?_, accounted.hits_eq, accounted.misses_eq, accounted.memo⟩
  have pending_eq : after.statistics.pending = 0 := accounted.pending_eq
  rw [Statistics.pending] at pending_eq
  omega

/-- If the memo is transparent, a parse that returns tries the same tokens without it. -/
theorem attempts_without_memo (faithful : environment.source.Faithful)
    (uniform : Uniform environment first) {matched : Bool}
    (done : (begin environment fuel name (State.initial first environment.options)).outcome =
      .done matched after) :
    let options := { environment.options with memoizeTokens := false }
    let plain := begin { environment with options } fuel name (State.initial first options)
    (∃ last, plain.outcome = .done matched last) ∧
      tokenAttempts plain.trail.moments = tokenAttempts
        (begin environment fuel name (State.initial first environment.options)).trail.moments := by
  intro options plain
  have agree : (State.initial first environment.options).Agrees Forgets
      (State.initial first options) := ⟨rfl, rfl⟩
  have limits : Limits environment options fun _ => False := fun _ => .inl rfl
  have agrees := agrees_begin (replays_of_uniform uniform) limits faithful (.inl (Eq.refl fuel))
    name (ready_initial environment first) agree
  obtain ⟨last, done', -⟩ := (done ▸ agrees.ends).done_right
  exact ⟨⟨last, done'⟩, agrees.attempts_eq matched after done⟩

/-- A token of which the memo knows the outcome is not matched with the text: it makes no
difference what would come of it. -/
theorem replayed_of_not_evaluated {moment : Moment} {parent : Nat} {rule : Rule}
    (tried : moment.happening = .tried parent rule) (isToken : rule.isToken = true)
    (replayed : moment.evaluated? = none) (attempt attempt' : Step Bool) :
    attemptMemoized rule parent attempt moment.state =
      attemptMemoized rule parent attempt' moment.state := by
  obtain ⟨happening, state⟩ := moment
  dsimp only at tried
  subst tried
  rw [Moment.evaluated?, key?_tried isToken, Option.filter_some] at replayed
  refine attemptMemoized_of_knows isToken ?_ attempt attempt'
  cases knows : state.knows ⟨rule.grammar, state.tree.stop parent, rule.name⟩ with
  | true => rfl
  | false => simp [knows] at replayed

/-- What a memo holds at the end of a run: the keys for which the pattern of a token was matched
with the text, each of them once. Where a pattern was not matched, it makes no difference what
would have come of it. -/
structure Recorded (run : Run Bool) (misses : Nat) (memo : Memo) : Prop where
  misses_eq : misses = memo.entries.size
  distinct : (evaluations run.trail.moments).Nodup
  mem_iff : ∀ key, key ∈ evaluations run.trail.moments ↔ key ∈ memo.entries
  replayed : ∀ moment ∈ run.trail.moments, ∀ parent rule,
    moment.happening = .tried parent rule → rule.isToken = true → moment.evaluated? = none →
      ∀ attempt attempt', attemptMemoized rule parent attempt moment.state =
        attemptMemoized rule parent attempt' moment.state

/-- A memo that was empty has recorded what it was asked and did not know. -/
theorem recorded_of_asked {run : Run Bool} {memo : Memo} {keys : List MemoKey}
    (asked : Memo.Asked keys (evaluations run.trail.moments) {} memo) :
    Recorded run memo.misses memo where
  misses_eq := by
    rw [asked.missed_eq, asked.size_eq, Std.HashMap.size_empty]
  distinct := asked.distinct
  mem_iff key := by
    rw [asked.mem_iff, or_iff_right Std.HashMap.not_mem_empty]
  replayed _ _ _ _ tried isToken := replayed_of_not_evaluated tried isToken

/-- A parse of a grammar by the name under which it was published is a parse of that grammar. -/
theorem runNamed_eq {published : String} {first : Grammar}
    (found : environment.registry.lookup? published = some first) (fuel : Nat)
    (start : Option String) :
    runNamed environment fuel published start = run environment fuel first start := by
  rw [runNamed, found]

/-- Without a memo, hits and misses stay at nought. -/
theorem totals_of_forgetful {matched : Bool}
    (done : (begin environment fuel name (State.initial first environment.options)).outcome =
      .done matched after) (forgetful : environment.options.memoizeTokens = false) :
    after.totals.cacheHits = 0 ∧ after.totals.cacheMisses = 0 := by
  obtain ⟨-, hits_eq, misses_eq, related⟩ := accounted_of_done done
  rw [forgetful] at related
  rw [State.totals, eq_none_of_rel_none related]
  exact ⟨hits_eq, misses_eq⟩

/-- With a memo, hits and misses are those of the memo, which was empty at first. -/
theorem totals_of_memoizing {matched : Bool}
    (done : (begin environment fuel name (State.initial first environment.options)).outcome =
      .done matched after) (memoizing : environment.options.memoizeTokens = true) :
    let moments :=
      (begin environment fuel name (State.initial first environment.options)).trail.moments
    ∃ memo, after.memo = some memo ∧
      Memo.Asked (tokenAttempts moments) (evaluations moments) {} memo ∧
      after.totals.cacheHits = memo.hits ∧ after.totals.cacheMisses = memo.misses := by
  intro moments
  obtain ⟨-, -, -, related⟩ := accounted_of_done done
  rw [memoizing] at related
  obtain ⟨memo, present, asked⟩ := exists_of_rel_some related
  refine ⟨memo, present, asked, ?_⟩
  rw [State.totals, present]
  exact ⟨rfl, rfl⟩

/-- The counters of a successful parse, with whatever grammar and by whatever settings, balance.
As many rules were found as not, taken together, as were called. Without a memo there are neither
hits nor misses. With a memo there are as many misses as keys in the memo at the end, and for each
of them the pattern of a token was matched with the text once. And if the memo is transparent,
hits and misses together are the tokens that are tried, by rules and by the skipping of
whitespace, when the text is parsed without it. -/
theorem counters_balance (input : String) (registry : Registry) (options : ParseOptions)
    (tracing : Bool) (fuel : Nat) (first : Grammar) (start : Option String) (result : ParseTree)
    (parsed : (run (Environment.ofText input registry options tracing) fuel first start).answer =
        .parsed result ∨
      ∃ published, registry.lookup? published = some first ∧
        (runNamed (Environment.ofText input registry options tracing) fuel published start).answer =
          .parsed result) :
    let course options name := begin (Environment.ofText input registry options tracing) fuel name
      (State.initial first options)
    let counters := result.statistics
    counters.calls = counters.found + counters.notFound ∧
    (options.memoizeTokens = false → counters.cacheHits = 0 ∧ counters.cacheMisses = 0) ∧
    (options.memoizeTokens = true → ∃ name after memo,
      (start <|> first.startSymbol) = some name ∧
      (course options name).outcome = .done true after ∧ after.memo = some memo ∧
      Recorded (course options name) counters.cacheMisses memo ∧
      ∀ compile, registry.Suits compile first →
        let plain := course { options with memoizeTokens := false } name
        (∃ last, plain.outcome = .done true last) ∧
          counters.cacheHits + counters.cacheMisses =
            (tokenAttempts plain.trail.moments).length) := by
  intro course counters
  have parsed : (run (Environment.ofText input registry options tracing) fuel first start).answer =
      .parsed result := by
    rcases parsed with parsed | ⟨published, found, parsed⟩
    · exact parsed
    · rwa [runNamed_eq found] at parsed
  have faithful := Environment.faithful_ofText input registry options tracing
  obtain ⟨name, after, chosen, done, -, rfl⟩ := exists_of_parsed parsed
  refine ⟨?_, totals_of_forgetful done, fun memoizing => ?_⟩
  · obtain ⟨totals, totals', totals''⟩ := after.totals_memo after.memo
    show after.totals.calls = after.totals.found + after.totals.notFound
    rw [totals, totals', totals'', (accounted_of_done done).1]
  · obtain ⟨memo, present, asked, hits_eq, misses_eq⟩ := totals_of_memoizing done memoizing
    refine ⟨name, after, memo, chosen, done, present, ?_, fun compile suits => ?_⟩
    · show Recorded _ after.totals.cacheMisses memo
      rw [misses_eq]
      exact recorded_of_asked asked
    · obtain ⟨returns, attempts_eq⟩ :=
        attempts_without_memo faithful (uniform_of_suits suits) done
      refine ⟨returns, ?_⟩
      have attempts_eq : tokenAttempts (course { options with memoizeTokens := false }
          name).trail.moments = tokenAttempts (course options name).trail.moments := attempts_eq
      show after.totals.cacheHits + after.totals.cacheMisses = _
      rw [hits_eq, misses_eq, attempts_eq, asked.asked_eq]
      exact Nat.zero_add _

/-- A choice between a pair and its first half. -/
def half : Grammar :=
  .ofCalls Workspace.compile "g" [.token "x" "x" false, .token "y" "y" false,
    .sequence "pair" [{ rule := "x" }, { rule := "y" }], .choice "c" ["pair", "x"] false,
    .startSymbol "c"]

/-- The first half of a pair is tried a second time once the second half has failed. -/
theorem counters_of_half_balance :
    let environment := Environment.ofText "x" {} { memoizeTokens := true } false
    let plain := begin (Environment.ofText "x" {} {} false) 4 "c" (State.initial half {})
    ∃ result, (run environment 4 half none).answer = .parsed result ∧
      result.statistics.calls = result.statistics.found + result.statistics.notFound ∧
      result.statistics.calls = 5 ∧
      ∃ after memo,
        (begin environment 4 "c" (State.initial half { memoizeTokens := true })).outcome =
          .done true after ∧ after.memo = some memo ∧
        result.statistics.cacheMisses = memo.entries.size ∧
        (∃ last, plain.outcome = .done true last) ∧
        result.statistics.cacheHits + result.statistics.cacheMisses =
          (tokenAttempts plain.trail.moments).length := by
  intro environment plain
  have built : half.Built Workspace.compile := Grammar.built_ofCalls _ _ _
  have suits : Registry.Suits Workspace.compile {} half :=
    ⟨.empty, .inr ⟨built, fun _ absurd => nomatch absurd⟩⟩
  have faithful := Environment.faithful_ofText "x" {} { memoizeTokens := true } false
  have same := same_run_of_uniform faithful (uniform_of_suits suits) 4 none
  obtain ⟨without, parsed, calls_eq⟩ : ∃ without,
      (run (Environment.ofText "x" {} {} false) 4 half none).answer = .parsed without ∧
        without.statistics.calls = 5 := ⟨_, rfl, rfl⟩
  have answered : (run (Environment.ofText "x" {} { memoizeTokens := true } false) 4 half
      none).answer.Same (.parsed without) := parsed ▸ same
  generalize parsed' : (run (Environment.ofText "x" {} { memoizeTokens := true } false) 4 half
    none).answer = answer at answered
  cases answered with
  | @parsed result _ _ _ _ calls_eq' _ _ =>
    obtain ⟨balance, -, remembers⟩ := counters_balance "x" {} { memoizeTokens := true } false 4
      half none result (.inl parsed')
    obtain ⟨name, after, memo, chosen, done, present, recorded, transparent⟩ := remembers rfl
    obtain rfl : "c" = name := Option.some.inj chosen
    obtain ⟨returns, sum⟩ := transparent Workspace.compile suits
    exact ⟨result, rfl, balance, calls_eq'.symm.trans calls_eq, after, memo, done, present,
      recorded.misses_eq, returns, sum⟩

end Parse

end Rulebook
