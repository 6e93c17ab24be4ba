/-
This file shows that a parse comes to an end if the stack of rules is limited everywhere and
the tokens between operands take input. Nothing else is asked of the grammars: rules may lead
back to themselves, items and separators may match the empty text, and grammars may import
one another in circles.

What cannot go on for ever is counted in two ways. The stack has a limit, so only so many
rules are tried inside one another; and every loop at a node either takes input or breaks
off, so it has only so many rounds. The work that is allowed serves for both, and some of it
is always left when a loop begins.

With the memo a token may answer for another of the same grammar name and rule name. A token
that matches the empty text may thereby stand between operands, and then the loop over them
has no end.
-/

import Rulebook.Proofs.Parse.Patience
import Rulebook.Proofs.Parse.Request
import Rulebook.Proofs.Parse.Transparency
import Rulebook.Proofs.Pattern.Progress

namespace Rulebook.Parse

open Match (Tree)

section

variable {environment : Environment} {first : Grammar}

/-! ### Limits -/

/-- While any grammar is being matched there is a limit on the stack of rules. -/
def Limited (environment : Environment) (first : Grammar) : Prop :=
  ∀ grammar, Active environment first grammar →
    (grammar.depthLimit <|> environment.options.maxDepth).isSome = true

/-- Between operands, in whatever grammar, stand tokens that match the empty text nowhere. -/
def Separated (environment : Environment) (first : Grammar) : Prop :=
  ∀ grammar rule operator, Active environment first grammar → rule ∈ grammar.rules →
    rule.kind = .operator operator → ∃ separator token,
      grammar.rule? operator.operator = some separator ∧ separator.token? = some token ∧
        token.TakesInput

/-- Between operands stand tokens that do not match the empty text in the text at hand, and the
memo answers for them with no token that does. -/
def Steady (environment : Environment) (first : Grammar) : Prop :=
  ∀ grammar rule operator, Active environment first grammar → rule ∈ grammar.rules →
    rule.kind = .operator operator → Advances environment first grammar operator.operator

/-- Without a memo, or if the memo cannot confuse tokens, every token answers for itself. -/
theorem Separated.steady (separated : Separated environment first)
    (plain : environment.options.memoizeTokens = false ∨ Uniform environment first) :
    Steady environment first := by
  intro grammar rule operator active member isOperator
  obtain ⟨separator, token, found, isToken, takesInput⟩ :=
    separated grammar rule operator active member isOperator
  refine ⟨separator, found, Option.isSome_of_eq_some isToken, ?_⟩
  intro other token' offset standsIn isToken'
  rcases standsIn with rfl | ⟨memoizing, known, grammar_eq, name_eq⟩
  · obtain rfl := Option.some.inj (isToken.symm.trans isToken')
    exact takesInput environment.source offset
  · rcases plain with off | uniform
    · rw [off] at memoizing
      cases memoizing
    · rw [uniform other separator token' token known ⟨grammar, _, active, found⟩ isToken' isToken
        grammar_eq name_eq]
      exact takesInput environment.source offset

/-- No limit lies beyond this height of the stack. -/
def Highest (environment : Environment) (first : Grammar) (height : Nat) : Prop :=
  ∀ grammar limit, Active environment first grammar →
    (grammar.depthLimit <|> environment.options.maxDepth) = some limit → limit ≤ height

/-- There are finitely many grammars, so there is a highest limit. -/
theorem exists_highest (environment : Environment) (first : Grammar) :
    ∃ height, Highest environment first height := by
  let limitOf (grammar : Grammar) : Nat :=
    (grammar.depthLimit <|> environment.options.maxDepth).getD 0
  let limits := (first :: environment.registry.grammars.map (·.2)).map limitOf
  refine ⟨limits.max (List.cons_ne_nil _ _), fun grammar limit active limited => ?_⟩
  have member : grammar ∈ first :: environment.registry.grammars.map (·.2) := by
    rcases active with rfl | ⟨name, found⟩
    · exact List.mem_cons_self
    · rw [Registry.lookup?, List.lookup_eq_some_iff] at found
      obtain ⟨before, after, split, -⟩ := found
      rw [split]
      simp
  have limit_eq : limitOf grammar = limit := by
    show (grammar.depthLimit <|> environment.options.maxDepth).getD 0 = limit
    rw [limited]
    rfl
  rw [← limit_eq]
  exact List.le_max_of_mem (List.mem_map_of_mem member)

/-- A rule is tried at a height below the highest limit only. -/
theorem le_of_within {height : Nat} (limited : Limited environment first)
    (highest : Highest environment first height) {state : State}
    (active : Active environment first state.grammar)
    (within : exceededLimit? environment state = none) : state.stack.length ≤ height := by
  obtain ⟨limit, found⟩ := Option.isSome_iff_exists.mp (limited _ active)
  have le := highest _ limit active found
  rw [exceededLimit?, found] at within
  dsimp only at within
  split at within
  · cases within
  · omega

/-! ### Work that is enough -/

/-- Too little work is allowed at some height of the stack, given the number of rounds that a
loop may need. Beyond the highest limit no rule is tried, and nothing is too little. -/
def TooLittle (height rounds fuel stack : Nat) : Prop :=
  height < stack ∨ fuel + stack < height + rounds

/-- If a loop has as many rounds as there are bytes, and two more, then a parse can be excused
only for being allowed too little work at first. -/
theorem excuses_tooLittle {height : Nat} (limited : Limited environment first)
    (steady : Steady environment first) (highest : Highest environment first height) :
    Excuses environment first (TooLittle height (environment.source.size + 2)) where
  nothing stack := by
    unfold TooLittle
    omega
  deeper fuel stack state active within height_eq excused := by
    have le := le_of_within limited highest active within
    unfold TooLittle at *
    omega
  rounds fuel stack grammar name rule active found := by
    by_cases little : TooLittle height (environment.source.size + 2) fuel stack
    · exact .inl little
    · refine .inr ⟨?_, fun operator isOperator =>
        steady grammar rule operator active (List.mem_of_find?_eq_some found) isOperator⟩
      unfold TooLittle at little
      omega

/-- With limits everywhere, and with tokens that take input between operands, a parse comes to
an end: there is so much work that allowing more makes no difference. -/
theorem begin_ne_exhausted (faithful : environment.source.Faithful)
    (limited : Limited environment first) (steady : Steady environment first)
    {height : Nat} (highest : Highest environment first height) (start : String) {fuel : Nat}
    (enough : height + (environment.source.size + 2) ≤ fuel) :
    (begin environment fuel start (State.initial first environment.options)).outcome ≠
      .exhausted := by
  intro exhausted
  have little := (meets_begin faithful (excuses_tooLittle limited steady highest) fuel start
    (ready_initial environment first)).exhausts exhausted
  have empty : (State.initial first environment.options).stack.length = 0 := rfl
  rw [empty, TooLittle] at little
  omega

theorem run_ne_exhausted (faithful : environment.source.Faithful)
    (limited : Limited environment first) (steady : Steady environment first)
    {height : Nat} (highest : Highest environment first height) (start : Option String)
    {fuel : Nat} (enough : height + (environment.source.size + 2) ≤ fuel) :
    (run environment fuel first start).answer ≠ .exhausted := by
  intro exhausted
  rw [run] at exhausted
  cases chosen : start <|> first.startSymbol with
  | none =>
    rw [chosen] at exhausted
    cases exhausted
  | some name =>
    rw [chosen] at exhausted
    dsimp only at exhausted
    have finished := begin_ne_exhausted faithful limited steady highest name enough
    cases ended : (begin environment fuel name
        (State.initial first environment.options)).outcome with
    | exhausted => exact finished ended
    | aborted error state =>
      rw [ended] at exhausted
      cases exhausted
    | done matched state =>
      rw [ended] at exhausted
      cases matched with
      | false => cases exhausted
      | true =>
        rw [conclude] at exhausted
        dsimp only at exhausted
        split at exhausted <;> cases exhausted

/-- A parse that comes to an end has one report, however much more work is allowed. -/
theorem exists_report (faithful : environment.source.Faithful)
    (limited : Limited environment first) (steady : Steady environment first)
    (start : Option String) :
    ∃ enough report, report.answer ≠ .exhausted ∧ ∀ fuel, enough ≤ fuel →
      run environment fuel first start = report := by
  obtain ⟨height, highest⟩ := exists_highest environment first
  have answered := run_ne_exhausted faithful limited steady highest start (Nat.le_refl _)
  exact ⟨_, _, answered, fun fuel enough => run_eq_of_le faithful enough answered⟩

/-- A parse comes to an end if there are limits everywhere and if tokens that take input stand
between operands, those included that answer for them from the memo. -/
theorem parse_terminates (input : String) (registry : Registry) (options : ParseOptions)
    (tracing : Bool) (first : Grammar) (start : Option String)
    (limited : Limited (Environment.ofText input registry options tracing) first)
    (steady : Steady (Environment.ofText input registry options tracing) first) :
    ∃ enough report, report.answer ≠ .exhausted ∧ ∀ fuel, enough ≤ fuel →
      run (Environment.ofText input registry options tracing) fuel first start = report :=
  exists_report (Environment.faithful_ofText input registry options tracing) limited steady start

/-! ### A loop without end -/

variable {caught between : State → Prop} {consume : Consume} {state : State} {node parent : Nat}
  {rule : Rule} {token : TokenRule}

/-- A step is not over for all the work allowed, or it has matched and left a state of some
kind. -/
def Goes (caught : State → Prop) (outcome : Outcome Bool) : Prop :=
  outcome = .exhausted ∨ ∃ next, outcome = .done true next ∧ caught next

theorem Goes.bind {step : Step Bool} {second : Bool → Step Bool}
    (goes : Goes between (step state).outcome)
    (rest : ∀ next, between next → Goes caught (second true next).outcome) :
    Goes caught ((step >>= second) state).outcome := by
  rcases goes with exhausted | ⟨next, done, holds⟩
  · exact .inl (Step.bind_of_exhausted second exhausted).1
  · rw [(Step.bind_of_done second done).1]
    exact rest next holds

theorem Goes.mapState {outcome : Outcome Bool} (goes : Goes caught outcome)
    {update : State → State} (keeps : ∀ next, caught next → caught (update next)) :
    Goes caught (outcome.mapState update) := by
  rcases goes with rfl | ⟨next, rfl, holds⟩
  · exact .inl rfl
  · exact .inr ⟨_, rfl, keeps next holds⟩

theorem Goes.imp {outcome : Outcome Bool} (goes : Goes between outcome)
    (weaken : ∀ next, between next → caught next) : Goes caught outcome :=
  goes.imp_right fun ⟨next, done, holds⟩ => ⟨next, done, weaken next holds⟩

/-- What is known of a step that is done holds where it goes. -/
theorem Goes.and_meets {run : Run Bool} {always : Moment → Prop} {ensures : Bool → State → Prop}
    (goes : Goes caught run.outcome) (meets : run.Meets always True ensures) :
    Goes (fun next => caught next ∧ ensures true next) run.outcome := by
  rcases goes with exhausted | ⟨next, done, holds⟩
  · exact .inl exhausted
  · exact .inr ⟨next, done, holds, meets.returns true next done⟩

/-- If the operator and the operand always match again, the loop over them has no end. -/
theorem exhausted_operatorRounds {operator : OperatorRule}
    (again : ∀ state, caught state → Goes caught (consume node operator.operator state).outcome)
    (more : ∀ state, caught state → Goes caught (consume node operator.operand state).outcome)
    (holds : caught state) (budget : Nat) :
    (operatorRounds consume operator node budget state).outcome = .exhausted := by
  induction budget generalizing state with
  | zero => rfl
  | succ budget inductionHypothesis =>
    rw [operatorRounds]
    rcases again state holds with exhausted | ⟨next, done, holds⟩
    · exact (Step.bind_of_exhausted _ exhausted).1
    · rw [(Step.bind_of_done _ done).1]
      rcases more next holds with exhausted | ⟨last, done, holds⟩
      · exact (Step.bind_of_exhausted _ exhausted).1
      · rw [if_pos rfl, (Step.bind_of_done _ done).1]
        exact inductionHypothesis holds

theorem exhausted_performOperator {operator : OperatorRule}
    (fresh : isRepeating state.tree rule (state.tree.lineage node).tail = false)
    (begins : Goes caught (consume node operator.operand state).outcome)
    (again : ∀ state, caught state → Goes caught (consume node operator.operator state).outcome)
    (more : ∀ state, caught state → Goes caught (consume node operator.operand state).outcome)
    (budget : Nat) :
    (performOperator consume budget rule operator node state).outcome = .exhausted := by
  rw [performOperator, Step.outcome_read_bind, fresh]
  rcases begins with exhausted | ⟨next, done, holds⟩
  · exact (Step.bind_of_exhausted _ exhausted).1
  · exact (Step.bind_of_done _ done).1.trans (exhausted_operatorRounds again more holds budget)

theorem goes_attemptWith {perform : Nat → Step Bool}
    (goes : Goes caught (perform state.tree.size
      { state with tree := state.tree.attach parent (.rule rule) }).outcome) :
    Goes caught (attemptWith rule parent perform state).outcome := by
  rw [attemptWith, Step.outcome_read_bind, Step.changeTree, Step.outcome_change_bind]
  exact goes.bind fun next holds => .inr ⟨next, rfl, holds⟩

theorem skipWhitespace_of_blank (blank : state.grammar.whitespace = []) :
    (skipWhitespace environment parent state).outcome = .done () state := by
  have none : state.grammar.whitespaceTokens = [] := by rw [Grammar.whitespaceTokens, blank]; rfl
  rw [skipWhitespace, Step.outcome_read_bind, none]
  cases state.grammar.whitespaceDisabled with
  | true => rfl
  | false => rfl

theorem outcome_attemptMemoized_of_not_isToken (other : rule.isToken = false)
    (attempt : Step Bool) : (attemptMemoized rule parent attempt state).outcome =
      (attempt state).outcome := by
  rw [outcome_attemptMemoized, other, Bool.and_false]
  rfl

/-- What is remembered under a key is a match of the empty text. -/
def RecallsEmpty (key : MemoKey) (memo : Option Memo) : Prop :=
  ∃ entries, memo = some entries ∧ entries.entries[key]? = some (some 0)

/-- A token matches the empty text if the memo says so, or if it does and the memo says
nothing. -/
theorem goes_token (ready : Ready environment first parent state) {attempt : Step Bool}
    (tries : Tries environment first state.grammar (fun _ => True) rule parent attempt)
    (isToken : rule.token? = some token) {memo : Memo} (present : state.memo = some memo)
    {key : MemoKey} (key_eq : key = ⟨rule.grammar, state.tree.stop parent, rule.name⟩)
    (empty : memo.entries[key]? = some (some 0) ∨
      memo.entries[key]? = none ∧ token.matchAt? environment.source key.offset = some 0) :
    Goes (fun next => RecallsEmpty key next.memo)
      (attemptMemoized rule parent attempt state).outcome := by
  have memoizing : (state.memo.isSome && rule.isToken) = true := by
    rw [present, Rule.isToken, isToken]
    rfl
  rw [outcome_attemptMemoized, if_pos memoizing,
    outcome_attemptRemembering present rule parent attempt key_eq, Memo.lookup_fst]
  rcases empty with known | ⟨unknown, answer⟩
  · rw [known]
    exact .inr ⟨_, rfl, _, rfl, by rw [Memo.lookup_entries, known]⟩
  · rw [unknown]
    have told : (consult key state).Meets (Proper environment first) True _ :=
      meets_consult ready.toSound key
    have asked := (told.returns _ _ (outcome_consult present key)).1.ready ready
    obtain ⟨tree, done⟩ : ∃ tree, tokenOutcome environment rule token parent
        { state with memo := some (memo.lookup key).2 } =
          .done true { state with memo := some (memo.lookup key).2, tree } := by
      rw [key_eq] at answer
      rw [tokenOutcome, answer]
      exact ⟨_, rfl⟩
    have consumed := consumed_tokenOutcome asked done
    rw [if_pos rfl, ← show key.offset = state.tree.stop parent by rw [key_eq], answer] at consumed
    rw [← tries.outcome_eq token isToken _ asked.tree.rising asked.isOpen.inside] at done
    have remembered : RecallsEmpty key (some ((memo.lookup key).2.store key (some 0))) :=
      ⟨_, rfl, Std.HashMap.getElem?_insert_self⟩
    dsimp only
    rw [(Step.bind_of_done _ done).1, Step.outcome_read_bind]
    dsimp only
    rw [if_pos rfl, consumed]
    exact .inr ⟨_, rfl, remembered⟩

theorem traceAttempt_of_quiet (quiet : environment.tracing = false) (offset : Nat)
    (event : Position → Nat → Log.Event) :
    (traceAttempt environment offset event state).outcome = .done () state := by
  rw [traceAttempt, quiet]
  rfl

/-- A rule that is asked for goes where trying it goes, if there is no whitespace. -/
theorem goes_consume (faithful : environment.source.Faithful)
    (quiet : environment.tracing = false) {name : String} {fuel : Nat}
    (ready : Ready environment first parent state)
    (found : state.grammar.rule? name = some rule) (blank : state.grammar.whitespace = [])
    (within : exceededLimit? environment
      { state with stack := { rule := name } :: state.stack } = none)
    {recalled : Option Memo → Prop}
    (goes : ∀ entered, Ready environment first parent entered →
      entered.grammar = state.grammar → entered.tree = state.tree → entered.memo = state.memo →
        entered.stack.length = state.stack.length + 1 →
          Goes (fun next => recalled next.memo) (attemptMemoized rule parent
            (attemptWith rule parent (perform environment (Parse.consume environment fuel) fuel
              rule)) entered).outcome) :
    Goes (fun next => recalled next.memo)
      (Parse.consume environment (fuel + 1) parent name state).outcome := by
  have entered := ready.entered name rule
  have unlimited : exceededLimit? environment (state.entered parent name rule) = none := by
    rw [← within]
    exact exceededLimit?_congr environment rfl rfl
  rw [(consume_succ environment fuel parent name state).1,
    (invoke_of_found environment _ parent found).1]
  refine Goes.mapState ?_ fun _ holds => holds
  rw [pursue, Step.outcome_read_bind, unlimited]
  dsimp only
  rw [(Step.bind_of_done _ (traceAttempt_of_quiet quiet _ _)).1]
  have known : Known environment first rule := ⟨state.grammar, name, ready.grammar, found⟩
  have tries := tries_perform faithful
    (reliable_consume faithful (excuses_always environment first) fuel) state.grammar fuel
    rule parent fun _ => .inl trivial
  have met := meets_attemptMemoized faithful entered known tries
  refine ((goes _ entered rfl rfl rfl rfl).and_meets met).bind ?_
  rintro next ⟨holds, tried⟩
  have next_blank : next.grammar.whitespace = [] := by
    rw [tried.grammar_eq]
    exact blank
  rw [if_pos rfl, (Step.bind_of_done _ (skipWhitespace_of_blank next_blank)).1, Step.count,
    Step.outcome_change_bind, (Step.bind_of_done _ (traceAttempt_of_quiet quiet _ _)).1]
  exact .inr ⟨_, rfl, holds⟩

/-- If there is no whitespace, an import comes to what is imported. -/
theorem outcome_performImport {target : ImportRule} {grammar : Grammar}
    (found : environment.registry.lookup? target.grammar = some grammar)
    (blank : grammar.whitespace = []) :
    (performImport environment consume target node state).outcome =
      (consume node target.rule { state with grammar }).outcome.mapState fun next =>
        { next with grammar := state.grammar } := by
  have skipped : (skipWhitespace environment node { state with grammar }).outcome =
      .done () { state with grammar } := skipWhitespace_of_blank blank
  rw [performImport, found]
  exact congrArg (Outcome.mapState fun next => { next with grammar := state.grammar })
    (Step.bind_of_done _ skipped).1

/-- A rule of another grammar goes where the rule itself goes, if there is no whitespace. -/
theorem goes_performImport {target : ImportRule} {grammar : Grammar}
    (found : environment.registry.lookup? target.grammar = some grammar)
    (blank : grammar.whitespace = []) {recalled : Option Memo → Prop}
    (goes : Goes (fun next => recalled next.memo)
      (consume node target.rule { state with grammar }).outcome) :
    Goes (fun next => recalled next.memo)
      (performImport environment consume target node state).outcome := by
  rw [outcome_performImport found blank]
  exact goes.mapState fun _ holds => holds

end

namespace Circling

/-- A published grammar with a token that matches the empty text. -/
def namesake : Grammar :=
  .ofCalls Workspace.compile "g" [.token "op" "" false]

/-- A grammar of the same name, with operators that take input between operands that do not:
they are tokens of the published grammar. -/
def grammar : Grammar :=
  .ofCalls Workspace.compile "g" [.token "op" "x" false, .imported "operand" "g" "op" false,
    .operator "expr" .left "op" "operand", .startSymbol "expr"]

def registry : Registry :=
  (Registry.register {} namesake).1

/-- The empty text is parsed, with a memo and a limit on the stack. -/
def environment : Environment :=
  .ofText "" registry { memoizeTokens := true, maxDepth := some 9 } false

def operandRule : Rule :=
  ⟨"operand", "g", 0, .imported ⟨"g", "op", false⟩⟩

def chainRule : Rule :=
  ⟨"expr", "g", 0, .operator ⟨.left, "op", "operand"⟩⟩

/-- The token of either grammar is remembered under this key. -/
def key : MemoKey :=
  ⟨"g", 0, "op"⟩

theorem namesake_eq : namesake =
    { name := "g"
      edition := 0
      rules := [⟨"op", "g", 0, .token ⟨"", ⟨#[.accept, .require .textStart 0], 1, true⟩, false,
        none⟩⟩]
      tokenPatterns := [("", "op")] } := by
  rfl

theorem grammar_eq : grammar =
    { name := "g"
      edition := 0
      rules := [
        ⟨"op", "g", 0, .token ⟨"x", ⟨#[.accept, .take (.range 'x' 'x') 0, .require .textStart 1],
          2, true⟩, false, none⟩⟩,
        operandRule, chainRule]
      tokenPatterns := [("x", "op")]
      startSymbol := some "expr" } := by
  rfl

theorem lookup_eq (name : String) : environment.registry.lookup? name =
    match name == "g" with
    | true => some namesake
    | false => none := by
  have only : environment.registry.grammars = [("g", namesake)] := by
    rw [namesake_eq]
    rfl
  rw [Registry.lookup?, only, List.lookup_cons]
  rfl

theorem published : environment.registry.lookup? "g" = some namesake := by
  rw [lookup_eq]
  rfl

theorem active {other : Grammar} (active : Active environment grammar other) :
    other = grammar ∨ other = namesake := by
  refine active.imp_right fun ⟨name, found⟩ => ?_
  rw [lookup_eq] at found
  split at found
  · exact (Option.some.inj found).symm
  · cases found

theorem limit_eq {other : Grammar} (active : Active environment grammar other) :
    (other.depthLimit <|> environment.options.maxDepth) = some 9 := by
  rcases Circling.active active with rfl | rfl
  · rw [grammar_eq]
    rfl
  · rw [namesake_eq]
    rfl

theorem within {state : State} (active : Active environment grammar state.grammar)
    (low : state.stack.length ≤ 9) : exceededLimit? environment state = none := by
  rw [exceededLimit?, limit_eq active]
  exact if_neg (Nat.not_lt.mpr low)

theorem blank {other : Grammar} (active : Active environment grammar other) :
    other.whitespace = [] := by
  rcases Circling.active active with rfl | rfl
  · rw [grammar_eq]
  · rw [namesake_eq]

theorem stop_eq {parent : Nat} {state : State} (ready : Ready environment grammar parent state) :
    state.tree.stop parent = 0 :=
  Nat.le_zero.mp (ready.stop_le (Source.faithful_ofString ""))

/-- Asking for a rule goes where trying it goes. -/
theorem goes {parent fuel : Nat} {name : String} {state : State} {rule : Rule}
    (ready : Ready environment grammar parent state) (low : state.stack.length < 9)
    (found : state.grammar.rule? name = some rule) (recalled : Option Memo → Prop)
    (goes : ∀ fuel entered, Ready environment grammar parent entered →
      entered.grammar = state.grammar → entered.tree = state.tree → entered.memo = state.memo →
        entered.stack.length = state.stack.length + 1 →
          Goes (fun next => recalled next.memo) (attemptMemoized rule parent
            (attemptWith rule parent (perform environment (consume environment fuel) fuel
              rule)) entered).outcome) :
    Goes (fun next => recalled next.memo) (consume environment fuel parent name state).outcome := by
  cases fuel with
  | zero => exact .inl rfl
  | succ fuel =>
    exact goes_consume (Source.faithful_ofString "") rfl ready found (blank ready.grammar)
      (within ready.grammar low) (goes fuel)

/-- A token of either grammar matches the empty text if the memo says so, or if it does and
the memo says nothing. -/
theorem goes_op {parent fuel : Nat} {state : State} {rule : Rule} {token : TokenRule}
    (ready : Ready environment grammar parent state) (low : state.stack.length < 9)
    (found : state.grammar.rule? "op" = some rule) (isToken : rule.token? = some token)
    (key_eq : key = ⟨rule.grammar, 0, rule.name⟩) {memo : Memo} (present : state.memo = some memo)
    (empty : memo.entries[key]? = some (some 0) ∨
      memo.entries[key]? = none ∧ token.matchAt? environment.source 0 = some 0) :
    Goes (fun next => RecallsEmpty key next.memo)
      (consume environment fuel parent "op" state).outcome := by
  refine goes ready low found _ fun fuel entered ready _ _ memo_eq _ => ?_
  have tries := tries_perform (Source.faithful_ofString "")
    (reliable_consume (Source.faithful_ofString "") (excuses_always environment grammar) fuel)
    entered.grammar fuel rule parent fun _ => .inl trivial
  rw [← memo_eq] at present
  rw [← stop_eq ready] at key_eq
  exact goes_token ready tries isToken present key_eq empty

/-- The operand is found again and again. -/
theorem goes_operand {parent fuel : Nat} {state : State}
    (ready : Ready environment grammar parent state) (low : state.stack.length < 8)
    (same : state.grammar = grammar) {memo : Memo} (present : state.memo = some memo)
    (empty : memo.entries[key]? = some (some 0) ∨ memo.entries[key]? = none) :
    Goes (fun next => RecallsEmpty key next.memo)
      (consume environment fuel parent "operand" state).outcome := by
  have found : state.grammar.rule? "operand" = some operandRule := by
    rw [same, grammar_eq]
    rfl
  refine goes ready (Nat.lt_succ_of_lt low) found _
    fun fuel entered ready _ _ memo_eq height_eq => ?_
  have attached := ready_attach ready (.rule operandRule)
  have imported : Ready environment grammar entered.tree.size { entered with
      tree := entered.tree.attach parent (.rule operandRule), grammar := namesake } :=
    ⟨⟨attached.tree, .inr ⟨"g", published⟩, attached.memoizing, attached.memo⟩, attached.isOpen⟩
  rw [outcome_attemptMemoized_of_not_isToken rfl]
  refine goes_attemptWith (goes_performImport published (blank (.inr ⟨"g", published⟩)) ?_)
  refine goes_op imported (by dsimp only; omega) (by rw [namesake_eq]; rfl) rfl rfl
    (memo_eq.trans present) (empty.imp_right fun unknown => ⟨unknown, rfl⟩)

/-- A state between the rounds of the loop. -/
structure Caught (node : Nat) (state : State) : Prop extends
    Ready environment Circling.grammar node state where
  grammar_eq : state.grammar = Circling.grammar
  low : state.stack.length = 1
  recalls : RecallsEmpty key state.memo

/-- What matches again leads from one round to the next. -/
theorem caught_of_goes {node fuel : Nat} {name : String} {state : State}
    (ready : Ready environment grammar node state) (same : state.grammar = grammar)
    (low : state.stack.length = 1)
    (goes : Goes (fun next => RecallsEmpty key next.memo)
      (consume environment fuel node name state).outcome) :
    Goes (Caught node) (consume environment fuel node name state).outcome := by
  have reliable := reliable_consume (Source.faithful_ofString "")
    (excuses_always environment grammar) fuel
  refine (goes.and_meets (reliable.working (.refl ready) name)).imp ?_
  exact fun next ⟨recalls, working⟩ => ⟨working.ready, working.grammar_eq.trans same,
    working.height_eq.trans low, recalls⟩

theorem caught_operand {node fuel : Nat} {state : State}
    (ready : Ready environment grammar node state) (same : state.grammar = grammar)
    (low : state.stack.length = 1) {memo : Memo} (present : state.memo = some memo)
    (empty : memo.entries[key]? = some (some 0) ∨ memo.entries[key]? = none) :
    Goes (Caught node) (consume environment fuel node "operand" state).outcome :=
  caught_of_goes ready same low (goes_operand ready (by omega) same present empty)

theorem Caught.again {node fuel : Nat} {state : State} (caught : Caught node state) :
    Goes (Caught node) (consume environment fuel node "op" state).outcome := by
  obtain ⟨memo, present, recalled⟩ := caught.recalls
  have low := caught.low
  have found : ∃ rule token, state.grammar.rule? "op" = some rule ∧ rule.token? = some token ∧
      key = ⟨rule.grammar, 0, rule.name⟩ := by
    rw [caught.grammar_eq, Circling.grammar_eq]
    exact ⟨_, _, rfl, rfl, rfl⟩
  obtain ⟨rule, token, found, isToken, key_eq⟩ := found
  exact caught_of_goes caught.toReady caught.grammar_eq low
    (goes_op caught.toReady (by omega) found isToken key_eq present (.inl recalled))

theorem Caught.more {node fuel : Nat} {state : State} (caught : Caught node state) :
    Goes (Caught node) (consume environment fuel node "operand" state).outcome := by
  obtain ⟨memo, present, recalled⟩ := caught.recalls
  exact caught_operand caught.toReady caught.grammar_eq caught.low present (.inl recalled)

theorem begin_exhausted (fuel : Nat) :
    (begin environment fuel "expr" (State.initial grammar environment.options)).outcome =
      .exhausted := by
  have ready := ready_initial environment grammar
  have nothing : (State.initial grammar environment.options).grammar.whitespace = [] :=
    blank ready.grammar
  have found : (State.initial grammar environment.options).grammar.rule? "expr" =
      some chainRule := by
    show grammar.rule? "expr" = _
    rw [grammar_eq]
    rfl
  rw [begin, (Step.bind_of_done _ (skipWhitespace_of_blank nothing)).1]
  suffices stuck : Goes (fun _ => False) (consume environment fuel Tree.root "expr"
      (State.initial grammar environment.options)).outcome by
    rcases stuck with exhausted | ⟨_, -, absurd⟩
    · exact exhausted
    · cases absurd
  refine goes ready (by decide) found (fun _ => False)
    fun fuel entered ready same tree_eq memo_eq height_eq => ?_
  have attached := ready_attach ready (.rule chainRule)
  have fresh : isRepeating (entered.tree.attach Tree.root (.rule chainRule)) chainRule
      ((entered.tree.attach Tree.root (.rule chainRule)).lineage entered.tree.size).tail =
        false := by
    rw [tree_eq]
    rfl
  rw [outcome_attemptMemoized_of_not_isToken rfl]
  refine goes_attemptWith (.inl ?_)
  exact exhausted_performOperator fresh
    (caught_operand attached same height_eq memo_eq (.inr Std.HashMap.getElem?_empty))
    (fun _ => Caught.again) (fun _ => Caught.more) fuel

theorem limited : Limited environment grammar :=
  fun _ active => by rw [limit_eq active]; rfl

theorem separated : Separated environment grammar := by
  intro other rule operator active member isOperator
  rcases Circling.active active with rfl | rfl
  · rw [grammar_eq] at member ⊢
    simp only [List.mem_cons, List.not_mem_nil, or_false] at member
    rcases member with rfl | rfl | rfl
    · cases isOperator
    · cases isOperator
    · cases isOperator
      exact ⟨_, _, rfl, rfl, TokenRule.takesInput_of_closed fun _ => rfl⟩
  · rw [namesake_eq] at member
    rw [List.mem_singleton.mp member] at isOperator
    cases isOperator

/-- With limits everywhere, and with tokens that take input between operands, a parse need not
come to an end. -/
theorem never_terminates : Limited environment grammar ∧ Separated environment grammar ∧
    ¬ ∃ fuel, (run environment fuel grammar none).answer ≠ .exhausted := by
  refine ⟨limited, separated, fun ⟨fuel, answered⟩ => answered ?_⟩
  have chosen : (none <|> grammar.startSymbol) = some "expr" := by
    rw [grammar_eq]
    rfl
  rw [run, chosen]
  dsimp only
  rw [begin_exhausted]
  rfl

theorem terminates_without_memo : ∃ enough report, report.answer ≠ .exhausted ∧
    ∀ fuel, enough ≤ fuel →
      run (Environment.ofText "" registry { maxDepth := some 9 } false) fuel grammar none =
        report :=
  parse_terminates "" registry { maxDepth := some 9 } false grammar none limited
    (Separated.steady separated (.inl rfl))

end Circling

end Rulebook.Parse
