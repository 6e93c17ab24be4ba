/-
This file shows what keeps a parse from coming to an end although the stack of rules is limited
everywhere: an operator with an idle round, which is an operator and an operand that match one
after the other and take no input. Nothing else does; it does not matter what the operator and
the operand are, and either of them may match the empty text.

A list whose round takes no input ends the parse with a failure. The loop over operators and
operands has no such guard: an idle round leaves everything as it was, and the next one is idle
again. The stack of rules does not grow from round to round, so no limit is ever met.
-/

import Rulebook.Proofs.Parse.Termination

namespace Rulebook.Parse

open Match (Tree)

section

variable {environment : Environment} {first : Grammar} {state : State} {node : Nat}

/-! ### Idle rounds -/

/-- In a grammar, an operator and then an operand have matched at a node, and the node ends
where it ended before. -/
structure IdleRound (environment : Environment) (first grammar : Grammar) (rule : OperatorRule)
    (fuel node : Nat) (before between after : State) : Prop where
  ready : Ready environment first node before
  grammar_eq : before.grammar = grammar
  separated : (consume environment fuel node rule.operator before).outcome = .done true between
  joined : (consume environment fuel node rule.operand between).outcome = .done true after
  stop_eq : after.tree.stop node = before.tree.stop node

/-- The rounds of an operator may be idle. -/
def Idles (environment : Environment) (first grammar : Grammar) (rule : OperatorRule) : Prop :=
  ∃ fuel node before between after,
    IdleRound environment first grammar rule fuel node before between after

/-- Matching a rule never gives input back, so rounds that are not idle take some. -/
theorem busy_of_not_idles (faithful : environment.source.Faithful) {grammar : Grammar}
    {rule : OperatorRule} (notIdles : ¬Idles environment first grammar rule) (fuel : Nat) :
    Busy environment first (consume environment fuel) grammar rule := by
  intro node before between after ready same separated joined
  have reliable := reliable_consume faithful (excuses_always environment first) fuel
  have here := (reliable.working (.refl ready) rule.operator).returns true between separated
  have there := (reliable.working here rule.operand).returns true after joined
  refine Nat.lt_of_le_of_ne there.grown.stop_le fun stop_eq => notIdles ?_
  exact ⟨fuel, node, before, between, after, ready, same, separated, joined, stop_eq.symm⟩

/-! ### Without idle rounds -/

/-- Nothing idles in any grammar that a parse may come to. -/
def Diligent (environment : Environment) (first : Grammar) : Prop :=
  ∀ grammar rule operator, Active environment first grammar → rule ∈ grammar.rules →
    rule.kind = .operator operator → ¬Idles environment first grammar operator

/-- Where nothing idles, only too little work can keep the operation from coming to an end. -/
theorem reliable_of_diligent (faithful : environment.source.Faithful) {height : Nat}
    (limited : Limited environment first) (highest : Highest environment first height)
    (diligent : Diligent environment first) (fuel : Nat) :
    Reliable environment first (TooLittle height (environment.source.size + 2) fuel)
      (consume environment fuel) := by
  induction fuel with
  | zero =>
    refine fun _ _ state _ => meets_exhausted ?_
    unfold TooLittle
    omega
  | succ fuel inductionHypothesis =>
    have tries : ∀ grammar name rule parent, Active environment first grammar →
        grammar.rule? name = some rule → Tries environment first grammar
          (TooLittle height (environment.source.size + 2) fuel) rule parent
            (attemptWith rule parent
              (perform environment (consume environment fuel) fuel rule)) := by
      intro grammar name rule parent active found
      refine tries_perform faithful inductionHypothesis grammar fuel rule parent fun stack => ?_
      by_cases little : TooLittle height (environment.source.size + 2) fuel stack
      · exact .inl little
      · refine .inr ⟨?_, fun operator kind => busy_of_not_idles faithful
          (diligent grammar rule operator active (List.mem_of_find?_eq_some found) kind) fuel⟩
        unfold TooLittle at little
        omega
    refine reliable_succ faithful tries fun stack state active within height_eq little => ?_
    have le := le_of_within limited highest active within
    unfold TooLittle at little ⊢
    omega

/-- An answer is given as soon as the start rule is done with. -/
theorem conclude_ne_exhausted {outcome : Outcome Bool} (finished : outcome ≠ .exhausted) :
    (conclude environment outcome).answer ≠ .exhausted := by
  cases outcome with
  | exhausted => exact absurd rfl finished
  | aborted error state =>
    intro absurd
    cases absurd
  | done matched state =>
    cases matched with
    | false =>
      intro absurd
      cases absurd
    | true =>
      rw [conclude]
      dsimp only
      split <;> (intro absurd; cases absurd)

/-- Without idle rounds, a certain amount of work is enough. -/
theorem run_ne_exhausted_of_diligent (faithful : environment.source.Faithful)
    (limited : Limited environment first) (diligent : Diligent environment first)
    (start : Option String) : ∃ fuel, (run environment fuel first start).answer ≠ .exhausted := by
  obtain ⟨height, highest⟩ := exists_highest environment first
  refine ⟨height + (environment.source.size + 2), ?_⟩
  rw [run]
  cases start <|> first.startSymbol with
  | none =>
    intro absurd
    cases absurd
  | some name =>
    refine conclude_ne_exhausted fun exhausted => ?_
    have reliable := reliable_of_diligent faithful limited highest diligent
      (height + (environment.source.size + 2))
    have little := (meets_begin_of_reliable faithful reliable name
      (ready_initial environment first)).exhausts exhausted
    have empty : (State.initial first environment.options).stack.length = 0 := rfl
    rw [empty, TooLittle] at little
    omega

/-- With limits everywhere, a parse comes to an end, or else there is an operator among the
rules it may come to whose rounds may be idle. -/
theorem ends_or_idles (input : String) (registry : Registry) (options : ParseOptions)
    (tracing : Bool) (first : Grammar) (start : Option String)
    (limited : Limited (Environment.ofText input registry options tracing) first) :
    let environment := Environment.ofText input registry options tracing
    (∃ enough report, report.answer ≠ .exhausted ∧
      ∀ fuel, enough ≤ fuel → run environment fuel first start = report) ∨
    ∃ grammar rule operator, Active environment first grammar ∧ rule ∈ grammar.rules ∧
      rule.kind = .operator operator ∧ Idles environment first grammar operator := by
  intro environment
  have faithful := Environment.faithful_ofText input registry options tracing
  by_cases diligent : Diligent environment first
  · obtain ⟨enough, answered⟩ := run_ne_exhausted_of_diligent faithful limited diligent start
    exact .inl ⟨enough, _, answered, fun fuel more => run_eq_of_le faithful more answered⟩
  · simp only [Diligent, not_forall, not_not] at diligent
    obtain ⟨grammar, rule, operator, active, member, kind, idles⟩ := diligent
    exact .inr ⟨grammar, rule, operator, active, member, kind, idles⟩

/-! ### Idle rounds without end -/

/-- Without a memo, a token that matches the empty text at the end of a node is found there. -/
theorem goes_emptyToken (faithful : environment.source.Faithful)
    (quiet : environment.tracing = false) (forgetful : environment.options.memoizeTokens = false)
    {rule : Rule} {token : TokenRule} {name : String} {fuel : Nat}
    (ready : Ready environment first node state)
    (found : state.grammar.rule? name = some rule) (isToken : rule.token? = some token)
    (blank : state.grammar.whitespace = [])
    (within : exceededLimit? environment
      { state with stack := { rule := name } :: state.stack } = none)
    (empty : token.matchAt? environment.source (state.tree.stop node) = some 0) :
    Goes (fun _ => True) (consume environment fuel node name state).outcome := by
  cases fuel with
  | zero => exact .inl rfl
  | succ fuel =>
    let recalled : Option Memo → Prop := fun _ => True
    show Goes (fun next => recalled next.memo) _
    refine goes_consume faithful quiet ready found blank within
      fun entered ready same tree_eq _ _ => ?_
    have unknown : entered.memo.isSome = false := ready.memoizing.trans forgetful
    have tries := tries_perform faithful
      (reliable_consume faithful (excuses_always environment first) fuel) entered.grammar fuel
      rule node fun _ => .inl trivial
    rw [outcome_attemptMemoized, unknown, Bool.false_and, if_neg Bool.false_ne_true,
      tries.outcome_eq token isToken entered ready.tree.rising ready.isOpen.inside, tokenOutcome,
      tree_eq, empty]
    exact .inr ⟨_, rfl, trivial⟩

end

namespace Idling

/-- Between operands stands a token that matches the empty text. -/
def grammar (operand : String) : Grammar :=
  .ofCalls Workspace.compile "g" [.token "op" "" false, .token "x" "x" false,
    .operator "expr" .left "op" operand, .startSymbol "expr"]

/-- The empty text is parsed, with a limit on the stack. -/
def environment : Environment :=
  .ofText "" {} { maxDepth := some 9 } false

def opRule : Rule :=
  ⟨"op", "g", 0, .token ⟨"", ⟨#[.accept, .require .textStart 0], 1, true⟩, false, none⟩⟩

def wordRule : Rule :=
  ⟨"x", "g", 0, .token ⟨"x", ⟨#[.accept, .take (.range 'x' 'x') 0, .require .textStart 1], 2,
    true⟩, false, none⟩⟩

def chainRule (operand : String) : Rule :=
  ⟨"expr", "g", 0, .operator ⟨.left, "op", operand⟩⟩

theorem grammar_eq (operand : String) : grammar operand =
    { name := "g"
      edition := 0
      rules := [opRule, wordRule, chainRule operand]
      tokenPatterns := [("x", "x"), ("", "op")]
      startSymbol := some "expr" } := by
  rfl

theorem active {operand : String} {other : Grammar}
    (active : Active environment (grammar operand) other) : other = grammar operand := by
  rcases active with rfl | ⟨name, found⟩
  · rfl
  · cases found

theorem limited (operand : String) : Limited environment (grammar operand) := by
  intro other found
  rw [active found, grammar_eq]
  rfl

theorem within (operand : String) {state : State}
    (found : Active environment (grammar operand) state.grammar)
    (low : state.stack.length ≤ 9) : exceededLimit? environment state = none := by
  have limit_eq : (state.grammar.depthLimit <|> environment.options.maxDepth) = some 9 := by
    rw [active found, grammar_eq]
    rfl
  rw [exceededLimit?, limit_eq]
  exact if_neg (Nat.not_lt.mpr low)

/-- A state between the rounds of the loop. -/
structure Caught (node : Nat) (state : State) : Prop extends
    Ready environment (grammar "op") node state where
  low : state.stack.length = 1

/-- The token is found wherever it is asked for. -/
theorem Caught.again {node fuel : Nat} {state : State} (caught : Caught node state) :
    Goes (Caught node) (consume environment fuel node "op" state).outcome := by
  have ready := caught.toReady
  have faithful : environment.source.Faithful := Source.faithful_ofString ""
  have nothing : state.tree.stop node = 0 := Nat.le_zero.mp (ready.stop_le faithful)
  have same := active ready.grammar
  have found : state.grammar.rule? "op" = some opRule := by
    rw [same, grammar_eq]
    rfl
  have blank : state.grammar.whitespace = [] := by rw [same, grammar_eq]
  have low : state.stack.length + 1 ≤ 9 := by simp [caught.low]
  have goes : Goes (fun _ => True) (consume environment fuel node "op" state).outcome :=
    goes_emptyToken faithful rfl rfl ready found rfl blank (within "op" ready.grammar low)
      (by rw [nothing]; rfl)
  have reliable := reliable_consume faithful (excuses_always environment (grammar "op")) fuel
  refine (goes.and_meets (reliable.working (.refl ready) "op")).imp fun next ⟨_, working⟩ => ?_
  exact ⟨working.ready, working.height_eq.trans caught.low⟩

theorem begin_exhausted (fuel : Nat) :
    (begin environment fuel "expr" (State.initial (grammar "op") environment.options)).outcome =
      .exhausted := by
  have faithful : environment.source.Faithful := Source.faithful_ofString ""
  have ready := ready_initial environment (grammar "op")
  have blank : (State.initial (grammar "op") environment.options).grammar.whitespace = [] := by
    show (grammar "op").whitespace = []
    rw [grammar_eq]
  have found : (State.initial (grammar "op") environment.options).grammar.rule? "expr" =
      some (chainRule "op") := by
    show (grammar "op").rule? "expr" = _
    rw [grammar_eq]
    rfl
  rw [begin, (Step.bind_of_done _ (skipWhitespace_of_blank blank)).1]
  suffices stuck : Goes (fun _ => False) (consume environment fuel Tree.root "expr"
      (State.initial (grammar "op") environment.options)).outcome by
    rcases stuck with exhausted | ⟨_, -, absurd⟩
    · exact exhausted
    · cases absurd
  cases fuel with
  | zero => exact .inl rfl
  | succ fuel =>
    let recalled : Option Memo → Prop := fun _ => False
    show Goes (fun next => recalled next.memo) _
    refine goes_consume faithful rfl ready found blank (within "op" ready.grammar (by decide))
      fun entered ready same tree_eq _ height_eq => ?_
    have attached := ready_attach ready (.rule (chainRule "op"))
    have fresh : isRepeating (entered.tree.attach Tree.root (.rule (chainRule "op")))
        (chainRule "op") ((entered.tree.attach Tree.root (.rule (chainRule "op"))).lineage
          entered.tree.size).tail = false := by
      rw [tree_eq]
      rfl
    rw [outcome_attemptMemoized_of_not_isToken rfl]
    refine goes_attemptWith (.inl ?_)
    exact exhausted_performOperator fresh (Caught.again ⟨attached, height_eq⟩)
      (fun _ => Caught.again) (fun _ => Caught.again) fuel

/-- With limits everywhere, a parse need not come to an end: an operator and an operand that
match the empty text match again and again. -/
theorem idle_rounds_never_end : Limited environment (grammar "op") ∧
    ¬ ∃ fuel, (run environment fuel (grammar "op") none).answer ≠ .exhausted := by
  refine ⟨limited "op", fun ⟨fuel, answered⟩ => answered ?_⟩
  have chosen : (none <|> (grammar "op").startSymbol) = some "expr" := by
    rw [grammar_eq]
    rfl
  rw [run, chosen]
  dsimp only
  rw [begin_exhausted]
  rfl

/-- Operands that take input keep the rounds from being idle. -/
theorem not_idles {operator : OperatorRule} (operand_eq : operator.operand = "x") :
    ¬Idles environment (grammar "x") (grammar "x") operator := by
  rintro ⟨fuel, node, before, between, after, round⟩
  have faithful : environment.source.Faithful := Source.faithful_ofString ""
  have reliable := reliable_consume faithful (excuses_always environment (grammar "x")) fuel
  have here := (reliable.working (.refl round.ready) operator.operator).returns true between
    round.separated
  have joined := round.joined
  rw [operand_eq] at joined
  have answered := (reliable node "x" between here.ready).returns true after joined
  have advances : Advances environment (grammar "x") between.grammar "x" := by
    rw [here.grammar_eq, round.grammar_eq, grammar_eq]
    refine ⟨wordRule, rfl, rfl, fun other token offset standsIn isToken => ?_⟩
    rcases standsIn with rfl | ⟨memoizing, -⟩
    · obtain rfl := Option.some.inj isToken
      exact TokenRule.takesInput_of_closed (fun _ => rfl) environment.source offset
    · cases memoizing
  have taken := answered.toInvoked.further advances
  have le := here.grown.stop_le
  have stop_eq := round.stop_eq
  omega

/-- An operator may match the empty text if the operands take input. -/
theorem taking_operands_end : ∃ enough report, report.answer ≠ .exhausted ∧
    ∀ fuel, enough ≤ fuel → run environment fuel (grammar "x") none = report := by
  refine (ends_or_idles "" {} { maxDepth := some 9 } false (grammar "x") none
    (limited "x")).resolve_right ?_
  rintro ⟨other, rule, operator, found, member, kind, idles⟩
  rw [active found] at idles member
  refine not_idles ?_ idles
  rw [grammar_eq] at member
  simp only [List.mem_cons, List.not_mem_nil, or_false] at member
  rcases member with rfl | rfl | rfl
  · cases kind
  · cases kind
  · cases kind
    rfl

end Idling

end Rulebook.Parse
