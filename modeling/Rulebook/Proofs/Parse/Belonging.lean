/-
This file says to which grammar a match belongs. The rule of a match is looked up in the grammar
that is at work when it is asked for, and unless the rule is an import, so are the rules of the
matches below it. So a match belongs to a grammar that has its rule and the rules of all its parts.
-/

import Rulebook.Proofs.Parse.Assembly
import Rulebook.Proofs.Parse.Keeping

namespace Rulebook.Parse

open Match (Origin Tree)

variable {environment : Environment} {first grammar : Grammar} {before middle after state : State}
  {node parent id child : Nat} {rule : Rule} {name : String} {matched : Bool}

/-! ### Where rules come from -/

/-- A node is a match of the rule that a name stands for in a grammar. -/
def IsMatch (grammar : Grammar) (name : String) (tree : Tree) (id : Nat) : Prop :=
  ∃ rule, grammar.rule? name = some rule ∧ (tree.node id).origin = .rule rule

/-- The parts of a node that are matches have their rules from a grammar. -/
def PartsFrom (grammar : Grammar) (tree : Tree) (id : Nat) : Prop :=
  ∀ child ∈ (tree.node id).semantic, ∀ rule, (tree.node child).origin = .rule rule →
    grammar.rule? rule.name = some rule

/-- A node that is a match of a rule, neither a token nor an import, has this rule and those of its
parts from one grammar. -/
def Belongs (environment : Environment) (first : Grammar) (tree : Tree) (id : Nat) : Prop :=
  ∀ rule, (tree.node id).origin = .rule rule → rule.isToken = false → rule.isImport = false →
    ∃ grammar, Active environment first grammar ∧ grammar.rule? rule.name = some rule ∧
      PartsFrom grammar tree id

theorem belongs_of_terminal {chars : List Char} {tree : Tree} (intact : tree.Intact chars)
    (terminal : (tree.node id).terminal = true) : Belongs environment first tree id := by
  intro rule isRule notToken
  obtain ⟨-, self, isSelf, isToken⟩ := intact.terminal id terminal
  rw [isRule] at isSelf
  rw [← Origin.rule.inj isSelf, notToken] at isToken
  cases isToken

theorem belongs_of_size_le {tree : Tree} (outside : tree.size ≤ id) :
    Belongs environment first tree id := by
  intro rule isRule
  exact absurd (Tree.inside_of_rule isRule) (Nat.not_lt_of_le outside)

theorem inside_of_mem_semantic {tree : Tree} {chars : List Char} (intact : tree.Intact chars)
    (listed : child ∈ (tree.node id).semantic) : child < tree.size := by
  rw [← Array.mem_toList_iff, intact.semantic_eq] at listed
  exact (intact.ordered id child (Array.mem_toList_iff.mp (List.mem_filter.mp listed).1)).1

section

variable {tree later : Tree} {chars : List Char}

/-- Nodes do not change what they are matches of. -/
theorem PartsFrom.grown (parts : PartsFrom grammar tree id) (intact : tree.Intact chars)
    (growth : Tree.Grown node tree later)
    (kept : (later.node id).semantic = (tree.node id).semantic) : PartsFrom grammar later id := by
  intro child listed rule isRule
  rw [kept] at listed
  rw [(growth.start_eq (inside_of_mem_semantic intact listed)).2.1] at isRule
  exact parts child listed rule isRule

/-- One more part has its rule from the grammar, or it is no match. -/
theorem PartsFrom.push (parts : PartsFrom grammar tree node) (intact : tree.Intact chars)
    (growth : Tree.Grown node tree later)
    (semantic_eq : (later.node node).semantic = (tree.node node).semantic.push tree.size)
    (latest : ∀ rule, (later.node tree.size).origin = .rule rule →
      grammar.rule? rule.name = some rule) : PartsFrom grammar later node := by
  intro child listed rule isRule
  rw [semantic_eq] at listed
  rcases Array.mem_push.mp listed with old | rfl
  · rw [(growth.start_eq (inside_of_mem_semantic intact old)).2.1] at isRule
    exact parts child old rule isRule
  · exact latest rule isRule

theorem Belongs.grown (belongs : Belongs environment first tree id) (intact : tree.Intact chars)
    (growth : Tree.Grown node tree later) (above : node < id) (inside : id < tree.size) :
    Belongs environment first later id := by
  have same := growth.node_after above inside
  intro rule isRule notToken notImport
  rw [same] at isRule
  obtain ⟨grammar, active, found, parts⟩ := belongs rule isRule notToken notImport
  exact ⟨grammar, active, found, parts.grown intact growth (by rw [same])⟩

end

/-! ### Work at a node -/

/-- All nodes after a node belong to a grammar, those that are new included, if they did before. -/
def BelongAfter (environment : Environment) (first : Grammar) (node : Nat)
    (before after : State) : Prop :=
  ∀ id, node < id → Belongs environment first before.tree id →
    Belongs environment first after.tree id

theorem BelongAfter.trans (left : BelongAfter environment first node before middle)
    (right : BelongAfter environment first node middle after) :
    BelongAfter environment first node before after :=
  fun id above belongs => right id above (left id above belongs)

theorem BelongAfter.of_eq (tree_eq : after.tree = before.tree) :
    BelongAfter environment first node before after := by
  intro id _ belongs
  rwa [tree_eq]

/-- New nodes that are tokens do no harm. -/
theorem BelongAfter.of_terminal (intact : before.tree.Intact environment.source.chars)
    (intact' : after.tree.Intact environment.source.chars)
    (growth : Tree.Grown node before.tree after.tree)
    (terminal : ∀ id, before.tree.size ≤ id → id < after.tree.size →
      (after.tree.node id).terminal = true) : BelongAfter environment first node before after := by
  intro id above belongs
  by_cases old : id < before.tree.size
  · exact belongs.grown intact growth above old
  · by_cases inside : id < after.tree.size
    · exact belongs_of_terminal intact' (terminal id (Nat.le_of_not_lt old) inside)
    · exact belongs_of_size_le (Nat.le_of_not_lt inside)

theorem belongAfter_skipWhitespace (faithful : environment.source.Faithful)
    (ready : Ready environment first node state)
    (done : (skipWhitespace environment node state).outcome = .done () after) :
    BelongAfter environment first node state after := by
  have skipped := skipped_of_done faithful ready done
  exact .of_terminal ready.tree skipped.sound.tree skipped.grown
    fun _ => skipped.trailed.terminal_of_new ready.tree skipped.grown skipped.sound.tree

/-- The mark of a missing item is no match. -/
theorem belongAfter_leaveOut (ready : Ready environment first node state)
    (done : (leaveOut environment node name state).outcome = .done () after) :
    BelongAfter environment first node state after := by
  have inside := ready.isOpen.inside
  have growth : Tree.Grown node state.tree (state.tree.attach node (.lambda name)) :=
    Tree.grown_attach ready.tree.rising inside
  have marked : BelongAfter environment first node state
      { state with tree := state.tree.attach node (.lambda name) } := by
    intro id above belongs
    by_cases old : id < state.tree.size
    · exact belongs.grown ready.tree growth above old
    · rcases Nat.eq_or_lt_of_le (Nat.le_of_not_lt old) with rfl | less
      · intro rule isRule
        dsimp only at isRule
        rw [Tree.node_attach_new inside] at isRule
        cases isRule
      · exact belongs_of_size_le (by rw [Tree.size_attach]; exact less)
  exact marked.trans (.of_eq (sameBut_of_leaveOut done).tree_eq)

/-- A way of matching rules after which every new match belongs to a grammar. -/
def Assigns (environment : Environment) (first : Grammar) (consume : Consume) : Prop :=
  ∀ node name state matched after, Ready environment first node state →
    (consume node name state).outcome = .done matched after →
      BelongAfter environment first node state after

/-- Rules are asked for at a node in a grammar. Its parts are from the grammar, and what is below
it belongs to some grammar. -/
structure Belonging (environment : Environment) (first grammar : Grammar) (node : Nat)
    (before after : State) : Prop extends Working environment first node before after where
  asked_eq : after.grammar = grammar
  parts : PartsFrom grammar after.tree node
  below : BelongAfter environment first node before after

/-- The match of a rule that was asked for is a match of a rule of the grammar. -/
theorem PartsFrom.answered (parts : PartsFrom grammar before.tree node)
    (ready : Ready environment first node before) (grammar_eq : before.grammar = grammar)
    (answered : Answered environment first node name before matched after) :
    PartsFrom grammar after.tree node := by
  cases matched with
  | false => rwa [answered.restored rfl]
  | true =>
    have added := answered.added rfl
    obtain ⟨own, found, isOwn⟩ := added.origin_eq
    refine parts.push ready.tree added.grown added.semantic_eq fun rule isRule => ?_
    rw [isRule] at isOwn
    rw [Origin.rule.inj isOwn, Grammar.rule?_name found, ← grammar_eq]
    exact found

/-- The mark of a missing item is no match of a rule. -/
theorem PartsFrom.leftOut (parts : PartsFrom grammar before.tree node)
    (ready : Ready environment first node before)
    (done : (leaveOut environment node name before).outcome = .done () after) :
    PartsFrom grammar after.tree node := by
  have inside := ready.isOpen.inside
  rw [(sameBut_of_leaveOut done).tree_eq]
  refine parts.push ready.tree (Tree.grown_attach ready.tree.rising inside) ?_ fun rule isRule => ?_
  · rw [Tree.node_attach_parent inside]
    rfl
  · rw [Tree.node_attach_new inside] at isRule
    cases isRule

section

variable {consume : Consume} (reliable : Reliable environment first (fun _ => True) consume)
  (assigns : Assigns environment first consume)
include reliable assigns

/-- All that a rule asks for at its node is looked up in the same grammar. -/
theorem keptAt_belonging :
    KeptAt environment consume node (Belonging environment first grammar node before) where
  asking name := by
    intro state matched after belonging done
    have ready := belonging.ready
    have answered := (reliable node name state ready).returns _ _ done
    exact ⟨belonging.toWorking.answered answered, answered.grammar_eq.trans belonging.asked_eq,
      belonging.parts.answered ready belonging.asked_eq answered,
      belonging.below.trans (assigns node name state matched after ready done)⟩
  noting index := by
    intro state _ after belonging done
    have same := sameBut_of_setAlternative done
    have working := (meets_setAlternative belonging.toWorking index : Run.Meets _ _ True _).returns
      _ _ done
    refine ⟨working, same.grammar_eq.trans belonging.asked_eq, ?_,
      belonging.below.trans (.of_eq same.tree_eq)⟩
    rw [same.tree_eq]
    exact belonging.parts
  leaving name := by
    intro state _ after belonging done
    have ready := belonging.ready
    exact ⟨(meets_leaveOut belonging.toWorking name : Run.Meets _ _ True _).returns _ _ done,
      (sameBut_of_leaveOut done).grammar_eq.trans belonging.asked_eq,
      belonging.parts.leftOut ready done,
      belonging.below.trans (belongAfter_leaveOut ready done)⟩

/-- The match of a rule belongs to the grammar in which the rule was looked up, unless the rule is
an import; and so does all that is below it belong to a grammar. -/
theorem belongs_perform (faithful : environment.source.Faithful) {budget : Nat}
    (notToken : rule.isToken = false) (ready : Ready environment first node state)
    (bare : (state.tree.node node).semantic = #[])
    (done : (perform environment consume budget rule node state).outcome = .done matched after) :
    BelongAfter environment first node state after ∧
      (rule.isImport = false → PartsFrom state.grammar after.tree node) := by
  cases isImport : rule.isImport with
  | false =>
    have begun : Belonging environment first state.grammar node state state := by
      refine ⟨.refl ready, rfl, fun child listed => ?_, .of_eq rfl⟩
      rw [bare] at listed
      exact absurd listed (Array.not_mem_empty child)
    have belonging := (keptAt_belonging reliable assigns).perform budget notToken isImport
      state matched after begun done
    exact ⟨belonging.below, fun _ => belonging.parts⟩
  | true =>
    obtain ⟨other, inner, skipped, last, entered, skipping, asking, rfl⟩ :=
      import_of_done isImport ready done
    have blanks := skipped_of_done faithful entered skipping
    have behind := belongAfter_skipWhitespace faithful entered skipping
    have below := assigns node inner skipped matched last blanks.ready asking
    exact ⟨fun id above belongs => below id above (behind id above belongs),
      fun absurd => by cases absurd⟩

end

/-! ### The operation itself -/

/-- The match of a rule that is no token and no import has its parts from the grammar in which the
rule was looked up. -/
theorem belongs_attempt (faithful : environment.source.Faithful) {consume : Consume}
    (reliable : Reliable environment first (fun _ => True) consume)
    (assigns : Assigns environment first consume) {budget : Nat}
    (ready : Ready environment first node before)
    (tried : Tried environment first rule node before true after)
    (done : (attemptMemoized rule node (attemptWith rule node
      (perform environment consume budget rule)) before).outcome = .done true after)
    (found : before.grammar.rule? name = some rule) :
    BelongAfter environment first node before after ∧
      (rule.isToken = false → rule.isImport = false →
        PartsFrom before.grammar after.tree before.tree.size) := by
  have growth := (tried.working ready).1.grown
  have inside := ready.isOpen.inside
  cases isToken : rule.isToken with
  | true =>
    refine ⟨.of_terminal ready.tree tried.sound.tree growth
      fun _ => terminal_of_token ready isToken tried, fun absurd => by cases absurd⟩
  | false =>
    obtain ⟨next, performed, -, -, same⟩ := attempt_of_done isToken done
    obtain rfl := same rfl
    have new := Tree.node_attach_new inside (.rule rule)
    obtain ⟨below, parts⟩ := belongs_perform reliable assigns faithful isToken
      (ready_attach ready (.rule rule)) (by rw [new]) performed
    refine ⟨fun id above belongs => ?_, fun _ => parts⟩
    by_cases old : id < before.tree.size
    · exact belongs.grown ready.tree growth above old
    · rcases Nat.eq_or_lt_of_le (Nat.le_of_not_lt old) with rfl | less
      · intro own isOwn notToken notImport
        rw [((tried.grown rfl).start_eq (by rw [Tree.size_attach]; exact Nat.lt_succ_self _)).2.1,
          new] at isOwn
        obtain rfl := Origin.rule.inj isOwn
        refine ⟨before.grammar, ready.grammar, ?_, parts notImport⟩
        rw [Grammar.rule?_name found]
        exact found
      · exact below id less (belongs_of_size_le (by rw [Tree.size_attach]; exact less))

/-- A request for a rule leaves matches that belong to a grammar. Its own match has its parts from
the grammar at work. -/
theorem belongs_request (faithful : environment.source.Faithful) {fuel : Nat}
    (assigns : Assigns environment first (Parse.consume environment fuel))
    (ready : Ready environment first node state)
    (done : (Parse.consume environment (fuel + 1) node name state).outcome =
      .done matched after) :
    BelongAfter environment first node state after ∧ (matched = true →
      ∃ rule, state.grammar.rule? name = some rule ∧
        (after.tree.node state.tree.size).origin = .rule rule ∧
        (rule.isToken = false → rule.isImport = false →
          PartsFrom state.grammar after.tree state.tree.size)) := by
  have reliable : Reliable environment first (fun _ => True) (Parse.consume environment fuel) :=
    reliable_consume faithful (excuses_always environment first) fuel
  obtain ⟨rule, entered, middle, stages⟩ := exists_stages faithful ready done
  have noted := stages.noted
  have there := stages.ready
  have tried := stages.tried
  cases matched with
  | false =>
    have tree_eq := (stages.failed rfl).tree_eq.trans ((tried.restored rfl).trans noted.tree_eq)
    exact ⟨.of_eq tree_eq, fun absurd => by cases absurd⟩
  | true =>
    obtain ⟨skipped, skipping, settled⟩ := stages.succeeded rfl
    have here := (tried.working there).1
    have blanks := skipped_of_done faithful here.ready skipping
    have attached : entered.tree.size < (entered.tree.attach node (.rule rule)).size := by
      rw [Tree.size_attach]
      exact Nat.lt_succ_self _
    have child := Nat.lt_of_lt_of_le attached (tried.grown rfl).size_le
    have began : BelongAfter environment first node state entered := .of_eq noted.tree_eq
    obtain ⟨below, parts⟩ := belongs_attempt faithful reliable assigns there tried
      stages.attempted (by rw [noted.grammar_eq]; exact stages.found)
    refine ⟨(began.trans below).trans ((belongAfter_skipWhitespace faithful here.ready
      skipping).trans (.of_eq settled.tree_eq)), fun _ => ⟨rule, stages.found, ?_, ?_⟩⟩
    · rw [settled.tree_eq, ← noted.tree_eq, (blanks.grown.start_eq child).2.1,
        ((tried.grown rfl).start_eq attached).2.1, Tree.node_attach_new there.isOpen.inside]
    · intro notToken notImport
      rw [settled.tree_eq, ← noted.tree_eq, ← noted.grammar_eq]
      exact (parts notToken notImport).grown here.sound.tree blanks.grown
        (by rw [blanks.grown.node_after there.isOpen.inside child])

theorem assigns_consume (faithful : environment.source.Faithful) (fuel : Nat) :
    Assigns environment first (Parse.consume environment fuel) := by
  induction fuel with
  | zero => exact fun _ _ _ _ _ _ done => by cases done
  | succ fuel inductionHypothesis =>
    exact fun _ _ _ _ _ ready done => (belongs_request faithful inductionHypothesis ready done).1

/-- The match of a rule that is no token and no import has its parts from the grammar at work. -/
theorem parts_of_request (faithful : environment.source.Faithful) {fuel : Nat}
    (ready : Ready environment first node state)
    (done : (Parse.consume environment fuel node name state).outcome = .done true after) :
    ∃ rule, state.grammar.rule? name = some rule ∧
      (after.tree.node state.tree.size).origin = .rule rule ∧
      (rule.isToken = false → rule.isImport = false →
        PartsFrom state.grammar after.tree state.tree.size) := by
  cases fuel with
  | zero => cases done
  | succ fuel => exact (belongs_request faithful (assigns_consume faithful fuel) ready done).2 rfl

/-- All matches in a finished tree belong to a grammar. -/
theorem belongs_of_done (faithful : environment.source.Faithful) {fuel : Nat}
    (done : (begin environment fuel name (State.initial first environment.options)).outcome =
      .done matched after) (id : Nat) (notRoot : id ≠ Tree.root) :
    Belongs environment first after.tree id := by
  have ready := ready_initial environment first
  obtain ⟨_, middle, skipping, asking⟩ := Step.done_of_bind done
  have skipped := skipped_of_done faithful ready skipping
  have above : Tree.root < id := Nat.pos_of_ne_zero notRoot
  have empty : Belongs environment first (State.initial first environment.options).tree id :=
    belongs_of_size_le above
  exact assigns_consume faithful fuel _ name middle matched after skipped.ready asking id above
    (belongAfter_skipWhitespace faithful ready skipping id above empty)

end Rulebook.Parse
