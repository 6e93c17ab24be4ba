/-
This file says what becomes of a request for a rule, as long as enough work is allowed: either it
matches, ends at an offset and makes a syntax tree, or it does not match. What becomes of it
depends on the rules above and on the offset, and it is put together from what becomes of the
requests that the rule makes: a choice chooses the first alternative that matches, a sequence runs
through its items, and an operator goes from round to round, unless it finds itself above.

No bound on the work is given. All statements hold for all large bounds, so that two of them can
be used together.
-/

import Mathlib.Order.Filter.AtTopBot.Basic
import Rulebook.Proofs.Derivation.Placement

namespace Rulebook.Parse

open Filter (atTop)
open Match (Origin Tree)
open Recognition (afterBlanks)

variable {environment : Environment} {grammar : Grammar} {chain above : Grammar.Chain}
  {offset stop middle node parent : Nat} {state after : State} {rule : Rule} {name : String}
  {ast : Ast.Node} {parts : List (String × Ast.Node)}

/-- A statement about all large bounds may be used for the bound that is left of one. -/
theorem eventually_succ {property : Nat → Prop}
    (holds : ∀ᶠ fuel in atTop, property (fuel + 1)) : ∀ᶠ fuel in atTop, property fuel := by
  rw [← Filter.map_add_atTop_eq_nat 1, Filter.eventually_map]
  exact holds

/-- Steps that end in the same way may begin a longer step. -/
theorem outcome_bind_congr {Value Result : Type} {first other : Step Value}
    (same : (first state).outcome = (other state).outcome) (second : Value → Step Result) :
    ((first >>= second) state).outcome = ((other >>= second) state).outcome := by
  cases ended : (first state).outcome with
  | done value next =>
    rw [(Step.bind_of_done second ended).1, (Step.bind_of_done second (same ▸ ended)).1]
  | aborted error next =>
    rw [(Step.bind_of_aborted second ended).1, (Step.bind_of_aborted second (same ▸ ended)).1]
  | exhausted =>
    rw [(Step.bind_of_exhausted second ended).1, (Step.bind_of_exhausted second (same ▸ ended)).1]

/-! ### Requests and rules -/

/-- A request for a rule matches. -/
def Yields (environment : Environment) (grammar : Grammar) (chain : Grammar.Chain)
    (offset : Nat) (name : String) (stop : Nat) (ast : Ast.Node) : Prop :=
  ∀ᶠ fuel in atTop, ∀ node state, Placed environment grammar chain offset node state →
    ∃ after, (consume environment fuel node name state).outcome = .done true after ∧
      after.tree.stop node = stop ∧ after.tree.Builds environment.source state.tree.size ast

/-- A request for a rule does not match. -/
def Refuses (environment : Environment) (grammar : Grammar) (chain : Grammar.Chain)
    (offset : Nat) (name : String) : Prop :=
  ∀ᶠ fuel in atTop, ∀ node state, Placed environment grammar chain offset node state →
    ∃ after, (consume environment fuel node name state).outcome = .done false after

/-- A rule matches at a node that has been attached for it. -/
def Works (environment : Environment) (grammar : Grammar) (above : Grammar.Chain)
    (offset : Nat) (rule : Rule) (stop : Nat) (ast : Ast.Node) : Prop :=
  ∀ᶠ fuel in atTop, ∀ node state, Begun environment grammar above offset rule node state →
    ∃ after, (perform environment (consume environment fuel) fuel rule node state).outcome =
      .done true after ∧ after.tree.stop node = stop ∧
        after.tree.Builds environment.source node ast

/-- A rule does not match at a node that has been attached for it. -/
def Declines (environment : Environment) (grammar : Grammar) (above : Grammar.Chain)
    (offset : Nat) (rule : Rule) : Prop :=
  ∀ᶠ fuel in atTop, ∀ node state, Begun environment grammar above offset rule node state →
    ∃ after, (perform environment (consume environment fuel) fuel rule node state).outcome =
      .done false after

/-- What is done once a rule has been tried. -/
def settle (environment : Environment) (parent : Nat) (name : String) (offset : Nat)
    (matched : Bool) : Step Bool := do
  if matched then
    skipWhitespace environment parent
    Step.count fun statistics => { statistics with found := statistics.found + 1 }
    traceAttempt environment offset (.matched · · name)
    return true
  else
    Step.count fun statistics => { statistics with notFound := statistics.notFound + 1 }
    return false

section

variable (faithful : environment.source.Faithful) (forgetful : Forgetful environment)

include forgetful in
/-- A request that is within the limit comes down to an attempt of the rule. -/
theorem exists_entered (here : Placed environment grammar chain offset parent state)
    (found : grammar.rule? name = some rule) (room : Room environment grammar (chain.length + 1))
    (fuel : Nat) : ∃ entered, Located environment grammar chain offset parent entered ∧
      entered.stack.length ≤ chain.length + 1 ∧ entered.tree = state.tree ∧
      (consume environment (fuel + 1) parent name state).outcome =
        ((attemptWith rule parent (perform environment (consume environment fuel) fuel rule) >>=
          settle environment parent name offset) entered).outcome.mapState State.popped := by
  obtain ⟨located, low⟩ := here.entered name rule
  obtain ⟨entered, traced, -⟩ := located.toSituated.traceAttempt offset (.tried · · name)
  have meets : Run.Meets _ _ True _ := meets_traceAttempt located.toSound offset (.tried · · name)
  have still := meets.returns () entered traced
  have within : exceededLimit? environment (state.entered parent name rule) = none := by
    have limit_eq : (state.entered parent name rule).grammar.depthLimit = grammar.depthLimit :=
      congrArg Grammar.depthLimit here.grammar_eq
    rw [exceededLimit?, limit_eq]
    cases known : grammar.depthLimit <|> environment.options.maxDepth with
    | none => rfl
    | some limit => exact if_neg (Nat.not_lt_of_le (Nat.le_trans low (room limit known)))
  refine ⟨entered, located.still still, ?_, still.tree_eq, ?_⟩
  · rw [still.height_eq]
    exact low
  · rw [(consume_succ environment fuel parent name state).1, (invoke_of_found environment _ parent
      (by rw [here.grammar_eq]; exact found)).1, pursue, Step.outcome_read_bind, within,
      here.stop_eq]
    dsimp only
    rw [(Step.bind_of_done _ traced).1, outcome_bind_congr
      (outcome_attemptMemoized_of_forgetful forgetful (still.ready located.toReady) rule _)]
    rfl

include faithful forgetful

/-- After a match whitespace is skipped; what has matched is left alone. -/
theorem settle_matched (here : Situated environment grammar grammar parent stop state)
    (name : String) (offset : Nat) :
    ∃ after, (settle environment parent name offset true state).outcome = .done true after ∧
      after.tree.stop parent = afterBlanks environment.source grammar stop ∧
        Tree.Grown parent state.tree after.tree := by
  obtain ⟨skipped, blank, blanked⟩ := here.skipWhitespace faithful forgetful
  have skips : Run.Meets _ _ True _ := meets_skipWhitespace faithful here.toReady
  have grown := (skips.returns () skipped blank).grown
  obtain ⟨counted, count, there⟩ := blanked.count
    fun statistics => { statistics with found := statistics.found + 1 }
  have counted_eq : counted.tree = skipped.tree := by
    cases count
    rfl
  obtain ⟨after, traced, ended⟩ := there.traceAttempt offset (.matched · · name)
  have meets : Run.Meets _ _ True _ := meets_traceAttempt there.toSound offset (.matched · · name)
  have still := meets.returns () after traced
  refine ⟨after, ?_, ended.stop_eq, ?_⟩
  · rw [settle, if_pos rfl, (Step.bind_of_done _ blank).1, (Step.bind_of_done _ count).1,
      (Step.bind_of_done _ traced).1]
    rfl
  · rw [still.tree_eq, counted_eq]
    exact grown

/-- A rule that matches is found, with the whitespace after it. -/
theorem Works.yields (works : Works environment grammar chain offset rule stop ast)
    (found : grammar.rule? name = some rule)
    (room : Room environment grammar (chain.length + 1)) :
    Yields environment grammar chain offset name
      (afterBlanks environment.source grammar stop) ast := by
  refine eventually_succ (works.mono fun fuel works parent state here => ?_)
  obtain ⟨entered, located, low, tree_eq, outcome_eq⟩ :=
    exists_entered forgetful here found room fuel
  have begun := located.begun low rule
  obtain ⟨middle, performed, stop_eq, builds⟩ := works _ _ begun
  have tried : (attemptWith rule parent (perform environment (consume environment fuel) fuel rule)
      entered).outcome = .done true middle := by
    rw [attemptWith, Step.outcome_read_bind, Step.changeTree, Step.outcome_change_bind]
    exact (Step.bind_of_done _ performed).1
  have meets := meets_perform faithful
    (reliable_consume faithful (excuses_always environment grammar) fuel) fuel begun.toReady
    begun.childless begun.isRule (.inl trivial)
  have attempted := (meets_attemptWith located.toReady meets).returns true middle tried
  have parent_stop : middle.tree.stop parent = stop :=
    ((attempted.grown rfl).stop_parent located.tree.rising located.isOpen.inside).trans stop_eq
  obtain ⟨after, settled, after_stop, grown⟩ := settle_matched faithful forgetful
    (located.toSituated.working (attempted.working located.toReady).1 parent_stop) name offset
  rw [tree_eq] at builds
  refine ⟨after.popped, ?_, after_stop, builds.grown grown here.isOpen.inside⟩
  rw [outcome_eq, (Step.bind_of_done _ tried).1, settled]
  rfl

omit faithful in
/-- A rule that does not match is not found. -/
theorem Declines.refuses (declines : Declines environment grammar chain offset rule)
    (found : grammar.rule? name = some rule)
    (room : Room environment grammar (chain.length + 1)) :
    Refuses environment grammar chain offset name := by
  refine eventually_succ (declines.mono fun fuel declines parent state here => ?_)
  obtain ⟨entered, located, low, -, outcome_eq⟩ :=
    exists_entered forgetful here found room fuel
  obtain ⟨middle, performed⟩ := declines _ _ (located.begun low rule)
  have tried : (attemptWith rule parent (perform environment (consume environment fuel) fuel rule)
      entered).outcome = .done false { middle with tree := middle.tree.discardLast parent } := by
    rw [attemptWith, Step.outcome_read_bind, Step.changeTree, Step.outcome_change_bind]
    exact (Step.bind_of_done _ performed).1
  rw [outcome_eq, (Step.bind_of_done _ tried).1]
  exact ⟨_, rfl⟩

end

/-! ### Requests one after another -/

/-- Work goes on at a node that has some parts. -/
structure Stands (environment : Environment) (active : Grammar) (chain : Grammar.Chain)
    (offset node : Nat) (parts : List (String × Ast.Node)) (state : State) : Prop
    extends Placed environment active chain offset node state where
  holds : state.tree.Holds environment.source active node parts

theorem Begun.stands (here : Begun environment grammar above offset rule node state) :
    Stands environment grammar ((rule, offset) :: above) offset node [] state where
  toPlaced := here.toPlaced
  holds := by
    rw [Tree.Holds, here.partless]
    exact .nil

theorem Stands.still (here : Stands environment grammar chain offset node parts state)
    (still : Still environment grammar state after) :
    Stands environment grammar chain offset node parts after where
  toPlaced := here.toPlaced.still still
  holds := by
    rw [still.tree_eq]
    exact here.holds

/-- Noting the part that is tried makes no difference. -/
theorem Stands.setAlternative
    (here : Stands environment grammar chain offset node parts state) (index : Nat) :
    ∃ next, (Step.setAlternative index state).outcome = .done () next ∧
      Stands environment grammar chain offset node parts next := by
  obtain ⟨update, equal, still, -⟩ := bookkeeping_setAlternative here.toSound index
  rw [equal]
  exact ⟨update state, rfl, here.still still⟩

section

variable (faithful : environment.source.Faithful)
include faithful

/-- What is found is one more part. -/
theorem Yields.stands (yields : Yields environment grammar chain offset name stop ast) :
    ∀ᶠ fuel in atTop, ∀ node state parts,
      Stands environment grammar chain offset node parts state →
        ∃ after, (consume environment fuel node name state).outcome = .done true after ∧
          Stands environment grammar chain stop node (parts ++ [(name, ast)]) after := by
  refine yields.mono fun fuel yields node state parts here => ?_
  obtain ⟨after, done, stop_eq, builds⟩ := yields node state here.toPlaced
  have answered := (reliable_consume faithful (excuses_always environment grammar) fuel node name
    state here.toReady).returns true after done
  have added := answered.added rfl
  rw [here.grammar_eq] at added
  exact ⟨after, done, here.toPlaced.working ((Working.refl here.toReady).answered answered) stop_eq,
    here.holds.added added builds⟩

/-- What is not found leaves everything in its place. -/
theorem Refuses.stands (refuses : Refuses environment grammar chain offset name) :
    ∀ᶠ fuel in atTop, ∀ node state parts,
      Stands environment grammar chain offset node parts state →
        ∃ after, (consume environment fuel node name state).outcome = .done false after ∧
          Stands environment grammar chain offset node parts after := by
  refine refuses.mono fun fuel refuses node state parts here => ?_
  obtain ⟨after, done⟩ := refuses node state here.toPlaced
  have answered := (reliable_consume faithful (excuses_always environment grammar) fuel node name
    state here.toReady).returns false after done
  exact ⟨after, done, here.still ⟨answered.toKept, answered.restored rfl⟩⟩

end

/-! ### Choices -/

/-- One of some alternatives is picked. -/
def Chooses (environment : Environment) (grammar : Grammar) (chain : Grammar.Chain)
    (offset : Nat) (alternatives : List String) (name : String) (stop : Nat) (ast : Ast.Node) :
    Prop :=
  ∀ᶠ fuel in atTop, ∀ index node state, Stands environment grammar chain offset node [] state →
    ∃ after, (performChoice (consume environment fuel) node index alternatives state).outcome =
      .done true after ∧ Stands environment grammar chain stop node [(name, ast)] after

/-- None of some alternatives is picked. -/
def Misses (environment : Environment) (grammar : Grammar) (chain : Grammar.Chain)
    (offset : Nat) (alternatives : List String) : Prop :=
  ∀ᶠ fuel in atTop, ∀ index node state, Stands environment grammar chain offset node [] state →
    ∃ after, (performChoice (consume environment fuel) node index alternatives state).outcome =
      .done false after

theorem misses_nil : Misses environment grammar chain offset [] :=
  .of_forall fun _ _ _ state _ => ⟨state, rfl⟩

section

variable (faithful : environment.source.Faithful)
include faithful

/-- The first alternative is picked if it matches. -/
theorem Yields.chooses (yields : Yields environment grammar chain offset name stop ast)
    (rest : List String) :
    Chooses environment grammar chain offset (name :: rest) name stop ast := by
  filter_upwards [yields.stands faithful] with fuel yields index node state here
  obtain ⟨noted, done, there⟩ := here.setAlternative index
  obtain ⟨after, matched, ended⟩ := yields node noted [] there
  refine ⟨after, ?_, ended⟩
  rw [performChoice, (Step.bind_of_done _ done).1, (Step.bind_of_done _ matched).1]
  rfl

/-- Alternatives that do not match are left out. -/
theorem Refuses.chooses {other : String} {rest : List String}
    (refuses : Refuses environment grammar chain offset other)
    (chooses : Chooses environment grammar chain offset rest name stop ast) :
    Chooses environment grammar chain offset (other :: rest) name stop ast := by
  filter_upwards [refuses.stands faithful, chooses] with fuel refuses chooses index node state here
  obtain ⟨noted, done, there⟩ := here.setAlternative index
  obtain ⟨next, failed, unmoved⟩ := refuses node noted [] there
  rw [performChoice, (Step.bind_of_done _ done).1, (Step.bind_of_done _ failed).1]
  exact chooses (index + 1) node next unmoved

theorem Refuses.misses {rest : List String}
    (refuses : Refuses environment grammar chain offset name)
    (misses : Misses environment grammar chain offset rest) :
    Misses environment grammar chain offset (name :: rest) := by
  filter_upwards [refuses.stands faithful, misses] with fuel refuses misses index node state here
  obtain ⟨noted, done, there⟩ := here.setAlternative index
  obtain ⟨next, failed, unmoved⟩ := refuses node noted [] there
  rw [performChoice, (Step.bind_of_done _ done).1, (Step.bind_of_done _ failed).1]
  exact misses (index + 1) node next unmoved

/-- The node that has been attached for a rule stays the node of the rule. -/
theorem Begun.origin_eq {fuel : Nat} {matched : Bool}
    (here : Begun environment grammar above offset rule node state)
    (performed : (perform environment (consume environment fuel) fuel rule node state).outcome =
      .done matched after) : (after.tree.node node).origin = .rule rule := by
  have meets := meets_perform faithful
    (reliable_consume faithful (excuses_always environment grammar) fuel) fuel here.toReady
    here.childless here.isRule (.inl trivial)
  have grown := (meets.returns matched after performed).grown
  rw [(grown.start_eq here.isOpen.inside).2.1, here.isRule]

/-- A choice that makes no node of its own stands for the alternative that is picked. -/
theorem Chooses.works {choice : ChoiceRule} (kind : rule.kind = .choice choice)
    (plain : choice.wrap = false)
    (chooses : Chooses environment grammar ((rule, offset) :: above) offset choice.alternatives name
      stop ast) : Works environment grammar above offset rule stop ast := by
  filter_upwards [chooses] with fuel chooses node state here
  obtain ⟨after, done, ended⟩ := chooses 0 node state here.stands
  have performed : (perform environment (consume environment fuel) fuel rule node state).outcome =
      .done true after := by
    rw [perform, kind]
    exact done
  exact ⟨after, performed, ended.stop_eq, Tree.builds_choice ended.isOpen.inside
    (here.origin_eq faithful performed) kind plain ended.holds⟩

omit faithful in
theorem Misses.declines {choice : ChoiceRule} (kind : rule.kind = .choice choice)
    (misses : Misses environment grammar ((rule, offset) :: above) offset choice.alternatives) :
    Declines environment grammar above offset rule := by
  filter_upwards [misses] with fuel misses node state here
  rw [perform, kind]
  exact misses 0 node state here.stands

end

/-! ### Tokens -/

/-- A token that matches makes a syntax tree of its text. -/
theorem works_token (faithful : environment.source.Faithful) {token : TokenRule}
    (kind : rule.kind = .token token) {chars rest : List Char}
    (reads : environment.source.rest? offset = some (chars ++ rest))
    (matched : token.matchAt? environment.source offset = some (byteCount chars)) :
    Works environment grammar above offset rule (offset + byteCount chars)
      (.leaf environment.source rule.name offset chars) := by
  refine .of_forall fun fuel node state here => ?_
  have isToken : rule.token? = some token := by rw [Rule.token?, kind]
  have performed := outcome_performToken environment token node state
  rw [here.stop_eq, matched] at performed
  have inside := here.isOpen.inside
  have stop_eq : (state.tree.matchToken node (byteCount chars)).stop node =
      offset + byteCount chars := by
    rw [Tree.stop_matchToken here.tree.rising inside, if_pos (Tree.mem_lineage_self _ _),
      here.stop_eq]
  have grown := Tree.grown_matchToken here.tree.rising inside (byteCount chars)
  have kept := grown.start_eq inside
  obtain ⟨before, cut, rfl⟩ := faithful.rest?_eq_some.mp reads
  rw [← List.append_assoc] at cut
  rw [perform_of_token? isToken]
  refine ⟨_, performed, stop_eq, Tree.builds_token ?_ ?_ kind ?_ ?_⟩
  · rw [Tree.size_matchToken]
    exact inside
  · rw [kept.2.1, here.isRule]
  · rw [kept.1, here.start_eq]
  · rw [stop_eq, faithful.slice_eq cut]

theorem declines_token {token : TokenRule} (kind : rule.kind = .token token)
    (unmatched : token.matchAt? environment.source offset = none) :
    Declines environment grammar above offset rule := by
  refine .of_forall fun fuel node state here => ?_
  have isToken : rule.token? = some token := by rw [Rule.token?, kind]
  have performed := outcome_performToken environment token node state
  rw [here.stop_eq, unmatched] at performed
  rw [perform_of_token? isToken]
  exact ⟨state, performed⟩

/-! ### Operators -/

/-- Rounds of an operator come to an end, with operators and further operands. -/
def Rounds (environment : Environment) (grammar : Grammar) (chain : Grammar.Chain)
    (operator : OperatorRule) (offset : Nat) (links : List (Ast.Node × Ast.Node)) (stop : Nat) :
    Prop :=
  ∀ᶠ fuel in atTop, ∀ budget, links.length < budget → ∀ node state parts,
    Stands environment grammar chain offset node parts state →
      ∃ after, (operatorRounds (consume environment fuel) operator node budget state).outcome =
        .done true after ∧
          Stands environment grammar chain stop node (parts ++ operator.linked links) after

/-- Rounds of an operator break off, after a number of full rounds, at an operand. -/
def Breaks (environment : Environment) (grammar : Grammar) (chain : Grammar.Chain)
    (operator : OperatorRule) (offset rounds : Nat) : Prop :=
  ∀ᶠ fuel in atTop, ∀ budget, rounds < budget → ∀ node state parts,
    Stands environment grammar chain offset node parts state →
      ∃ after, (operatorRounds (consume environment fuel) operator node budget state).outcome =
        .done false after

section

variable {operator : OperatorRule} {links : List (Ast.Node × Ast.Node)} {sign operand : Ast.Node}
  (faithful : environment.source.Faithful)
include faithful

/-- There are no rounds without an operator. -/
theorem Refuses.rounds (refuses : Refuses environment grammar chain offset operator.operator) :
    Rounds environment grammar chain operator offset [] offset := by
  filter_upwards [refuses.stands faithful] with fuel refuses budget more node state parts here
  obtain ⟨budget, rfl⟩ := Nat.exists_eq_succ_of_ne_zero (Nat.ne_zero_of_lt more)
  obtain ⟨after, failed, ended⟩ := refuses node state parts here
  refine ⟨after, ?_, ?_⟩
  · rw [operatorRounds, (Step.bind_of_done _ failed).1]
    rfl
  · rw [OperatorRule.linked, List.flatMap_nil, List.append_nil]
    exact ended

/-- An operator and an operand come before the rounds after them. -/
theorem Rounds.more
    (begins : Yields environment grammar chain offset operator.operator middle sign)
    {further : Nat}
    (goesOn : Yields environment grammar chain middle operator.operand further operand)
    (rounds : Rounds environment grammar chain operator further links stop) :
    Rounds environment grammar chain operator offset ((sign, operand) :: links) stop := by
  filter_upwards [begins.stands faithful, goesOn.stands faithful, rounds]
    with fuel begins goesOn rounds budget more node state parts here
  obtain ⟨budget, rfl⟩ := Nat.exists_eq_succ_of_ne_zero (Nat.ne_zero_of_lt more)
  obtain ⟨next, found, there⟩ := begins node state parts here
  obtain ⟨last, matched, further⟩ := goesOn node next _ there
  obtain ⟨after, done, ended⟩ := rounds budget (Nat.lt_of_succ_lt_succ more) node last _ further
  refine ⟨after, ?_, ?_⟩
  · rw [operatorRounds, (Step.bind_of_done _ found).1, if_pos rfl,
      (Step.bind_of_done _ matched).1]
    exact done
  · have parts_eq : parts ++ operator.linked ((sign, operand) :: links) =
        parts ++ [(operator.operator, sign)] ++ [(operator.operand, operand)] ++
          operator.linked links := by simp [OperatorRule.linked]
    rw [parts_eq]
    exact ended

/-- An operator without an operand breaks the rounds off. -/
theorem breaks_of_refuses
    (begins : Yields environment grammar chain offset operator.operator middle sign)
    (refuses : Refuses environment grammar chain middle operator.operand) :
    Breaks environment grammar chain operator offset 0 := by
  filter_upwards [begins.stands faithful, refuses.stands faithful]
    with fuel begins refuses budget more node state parts here
  obtain ⟨budget, rfl⟩ := Nat.exists_eq_succ_of_ne_zero (Nat.ne_zero_of_lt more)
  obtain ⟨next, found, there⟩ := begins node state parts here
  obtain ⟨after, failed, -⟩ := refuses node next _ there
  refine ⟨after, ?_⟩
  rw [operatorRounds, (Step.bind_of_done _ found).1, if_pos rfl, (Step.bind_of_done _ failed).1]
  rfl

theorem Breaks.more
    (begins : Yields environment grammar chain offset operator.operator middle sign)
    {further rounds : Nat}
    (goesOn : Yields environment grammar chain middle operator.operand further operand)
    (breaks : Breaks environment grammar chain operator further rounds) :
    Breaks environment grammar chain operator offset (rounds + 1) := by
  filter_upwards [begins.stands faithful, goesOn.stands faithful, breaks]
    with fuel begins goesOn breaks budget more node state parts here
  obtain ⟨budget, rfl⟩ := Nat.exists_eq_succ_of_ne_zero (Nat.ne_zero_of_lt more)
  obtain ⟨next, found, there⟩ := begins node state parts here
  obtain ⟨last, matched, further⟩ := goesOn node next _ there
  obtain ⟨after, done⟩ := breaks budget (by omega) node last _ further
  refine ⟨after, ?_⟩
  rw [operatorRounds, (Step.bind_of_done _ found).1, if_pos rfl, (Step.bind_of_done _ matched).1]
  exact done

/-- A first operand and rounds after it make up an operator, folded to its side. -/
theorem Rounds.works (kind : rule.kind = .operator operator)
    (free : above.repeats rule offset = false)
    (begins : Yields environment grammar ((rule, offset) :: above) offset operator.operand middle
      operand)
    (rounds : Rounds environment grammar ((rule, offset) :: above) operator middle links stop) :
    Works environment grammar above offset rule stop
      (.folded operator.associativity rule.name operand links) := by
  filter_upwards [begins.stands faithful, rounds, Filter.eventually_gt_atTop links.length]
    with fuel begins rounds enough node state here
  obtain ⟨next, found, there⟩ := begins node state [] here.stands
  obtain ⟨after, done, ended⟩ := rounds fuel enough node next _ there
  have performed : (perform environment (consume environment fuel) fuel rule node state).outcome =
      .done true after := by
    rw [perform, kind]
    dsimp only
    rw [performOperator, Step.outcome_read_bind, here.repeating_eq, free]
    exact (Step.bind_of_done _ found).1.trans done
  exact ⟨after, performed, ended.stop_eq, Tree.builds_operator ended.isOpen.inside
    (here.origin_eq faithful performed) kind ended.holds⟩

theorem Refuses.declines (kind : rule.kind = .operator operator)
    (refuses : Refuses environment grammar ((rule, offset) :: above) offset operator.operand) :
    Declines environment grammar above offset rule := by
  filter_upwards [refuses.stands faithful] with fuel refuses node state here
  obtain ⟨next, failed, -⟩ := refuses node state [] here.stands
  rw [perform, kind]
  dsimp only
  rw [performOperator, Step.outcome_read_bind, here.repeating_eq]
  cases above.repeats rule offset with
  | true => exact ⟨state, rfl⟩
  | false => exact ⟨next, (Step.bind_of_done _ failed).1⟩

theorem Breaks.declines (kind : rule.kind = .operator operator)
    (begins : Yields environment grammar ((rule, offset) :: above) offset operator.operand middle
      operand)
    {rounds : Nat}
    (breaks : Breaks environment grammar ((rule, offset) :: above) operator middle rounds) :
    Declines environment grammar above offset rule := by
  filter_upwards [begins.stands faithful, breaks, Filter.eventually_gt_atTop rounds]
    with fuel begins breaks enough node state here
  obtain ⟨next, found, there⟩ := begins node state [] here.stands
  obtain ⟨after, done⟩ := breaks fuel enough node next _ there
  rw [perform, kind]
  dsimp only
  rw [performOperator, Step.outcome_read_bind, here.repeating_eq]
  cases above.repeats rule offset with
  | true => exact ⟨state, rfl⟩
  | false => exact ⟨after, (Step.bind_of_done _ found).1.trans done⟩

end

/-- An operator that finds itself above does not match. -/
theorem declines_of_repeats {operator : OperatorRule} (kind : rule.kind = .operator operator)
    (repeating : above.repeats rule offset = true) :
    Declines environment grammar above offset rule := by
  refine .of_forall fun fuel node state here => ?_
  rw [perform, kind]
  dsimp only
  rw [performOperator, Step.outcome_read_bind, here.repeating_eq, repeating]
  exact ⟨state, rfl⟩

/-! ### Sequences -/

/-- Items of a sequence match one after another. -/
def RunsThrough (environment : Environment) (grammar : Grammar) (chain : Grammar.Chain)
    (offset : Nat) (items : List SequenceItem) (later : List (String × Ast.Node)) (stop : Nat) :
    Prop :=
  ∀ᶠ fuel in atTop, ∀ index node state parts,
    Stands environment grammar chain offset node parts state →
      ∃ after, (performSequence environment (consume environment fuel) node index items
        state).outcome = .done true after ∧
          Stands environment grammar chain stop node (parts ++ later) after

theorem runsThrough_nil : RunsThrough environment grammar chain offset [] [] offset :=
  .of_forall fun _ _ _ state _ here => ⟨state, rfl, by rwa [List.append_nil]⟩

section

variable {items : List SequenceItem} (faithful : environment.source.Faithful)
include faithful

theorem RunsThrough.before {item : SequenceItem} {first : Ast.Node}
    (yields : Yields environment grammar chain offset item.rule middle first)
    (runs : RunsThrough environment grammar chain middle items parts stop) :
    RunsThrough environment grammar chain offset (item :: items) ((item.rule, first) :: parts)
      stop := by
  filter_upwards [yields.stands faithful, runs] with fuel yields runs index node state earlier here
  obtain ⟨noted, done, there⟩ := here.setAlternative index
  obtain ⟨next, matched, further⟩ := yields node noted earlier there
  obtain ⟨after, finished, ended⟩ := runs (index + 1) node next _ further
  refine ⟨after, ?_, ?_⟩
  · rw [performSequence, (Step.bind_of_done _ done).1, (Step.bind_of_done _ matched).1, if_pos rfl]
    exact finished
  · rwa [List.append_assoc, List.singleton_append] at ended

/-- A sequence whose items are all required, and have no names, shows its parts in order. -/
theorem RunsThrough.works (kind : rule.kind = .sequence items)
    (required : ∀ item ∈ items, item.required = true ∧ item.accessor = none)
    (length_eq : items.length = parts.length)
    (runs : RunsThrough environment grammar ((rule, offset) :: above) offset items parts stop) :
    Works environment grammar above offset rule stop
      (.ofChildren rule.name (Tree.shown grammar parts)) := by
  filter_upwards [runs] with fuel runs node state here
  obtain ⟨after, done, ended⟩ := runs 0 node state [] here.stands
  have performed : (perform environment (consume environment fuel) fuel rule node state).outcome =
      .done true after := by
    rw [perform, kind]
    exact done
  exact ⟨after, performed, ended.stop_eq, Tree.builds_sequence ended.isOpen.inside
    (here.origin_eq faithful performed) kind required ended.holds length_eq⟩

end

end Rulebook.Parse
