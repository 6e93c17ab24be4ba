/-
This file bounds the stack of rules without any limit on it. While a rule is matched, the rules
on the stack are the rules on the way from its node up to the root, and each of them is asked
for by the one above it. If every cycle of references goes through an operator, then such a
chain can only become longer as it gets further on in the input, since operators run in no
circles.
-/

import Rulebook.Proofs.Parse.Recursion

namespace Rulebook

namespace Match.Tree

/-- The rules on the way from a node up to the root, each with the offset at which it
started. -/
def chain (tree : Tree) (node : Nat) : Grammar.Chain :=
  (tree.lineage node).filterMap fun id =>
    (tree.node id).rule?.map fun rule => (rule, (tree.node id).start)

variable {tree before after : Tree} {node id : Nat} {step : Rule × Nat}

theorem mem_chain : step ∈ tree.chain node ↔ ∃ id ∈ tree.lineage node,
    (tree.node id).rule? = some step.1 ∧ (tree.node id).start = step.2 := by
  rw [chain, List.mem_filterMap]
  refine exists_congr fun id => and_congr_right fun _ => ?_
  rw [Option.map_eq_some_iff]
  constructor
  · rintro ⟨rule, found, rfl⟩
    exact ⟨found, rfl⟩
  · rintro ⟨found, start_eq⟩
    exact ⟨step.1, found, by rw [start_eq]⟩

/-- The chain of a node is part of the outline. -/
theorem SameOutline.chain_eq {size : Nat} (same : SameOutline size before after)
    (rising : before.Rising) (inside : node < size) : after.chain node = before.chain node := by
  rw [chain, chain, same.lineage_eq rising inside]
  refine List.filterMap_congr fun id member => ?_
  have bound := lt_of_mem_lineage rising inside member
  rw [same.rule?_eq bound, same.start_eq id bound]

/-- The first rule of a chain is the rule of the node. -/
theorem rule?_of_head_chain (rooted : tree.Rooted node)
    (head : step ∈ (tree.chain node).head?) : (tree.node node).rule? = some step.1 := by
  obtain ⟨rest, lineage_eq⟩ : ∃ rest, tree.lineage node = node :: rest := ⟨_, rfl⟩
  cases found : (tree.node node).rule? with
  | none =>
    have top := rooted node (mem_lineage_self tree node) found
    rw [chain, lineage_of_no_parent top, List.filterMap_cons, found] at head
    cases head
  | some rule =>
    rw [chain, lineage_eq, List.filterMap_cons, found] at head
    rw [← Option.some.inj head]

end Match.Tree

namespace Parse

open Match (Origin Tree)

variable {environment : Environment} {first : Grammar} {state before after last : State}
  {node : Nat} {rule : Rule} {called : Option Rule}

/-- The stack is as high as the chain of the node, and one higher if a rule has been called
there. -/
structure Ascends (first : Grammar) (size : Nat) (called : Option Rule) (node : Nat)
    (state : State) : Prop where
  grammar_eq : state.grammar = first
  rooted : state.tree.Rooted node
  climbs : first.Climbs size (state.tree.chain node)
  height_le : state.stack.length ≤ (state.tree.chain node).length + called.toList.length
  listed : ∀ rule ∈ called, rule ∈ first.rules
  leads : ∀ rule ∈ called, ∀ above, (state.tree.node node).rule? = some above →
    first.Leads above rule

/-- The stack is never higher than the bound. -/
theorem Ascends.height_le_bound {size : Nat} (unlooped : first.Unlooped)
    (ascends : Ascends first size called node state) :
    state.stack.length ≤ first.stackBound size := by
  have height_le := ascends.height_le
  have length_lt := ascends.climbs.length_lt unlooped
  have one : called.toList.length ≤ 1 := by cases called <;> simp
  omega

theorem Ascends.continues {size : Nat} (ready : Ready environment first node before)
    (here : Continues environment first node before after)
    (ascends : Ascends first size called node before) :
    Ascends first size called node after := by
  have chain_eq := here.outline.chain_eq ready.tree.rising (Nat.lt_succ_self node)
  have rule_eq := here.outline.rule?_eq (Nat.lt_succ_self node)
  refine ⟨here.grammar_eq.trans ascends.grammar_eq, here.rooted ready ascends.rooted, ?_, ?_,
    ascends.listed, ?_⟩
  · rw [chain_eq]
    exact ascends.climbs
  · rw [chain_eq, here.height_eq]
    exact ascends.height_le
  · rw [rule_eq]
    exact ascends.leads

theorem chain_attached (ready : Ready environment first node state) (rule : Rule) :
    (state.attached node rule).tree.chain state.tree.size =
      (rule, state.tree.stop node) :: state.tree.chain node := by
  have sprouted := sprouted_attached ready rule
  have above : (state.attached node rule).tree.chain node = state.tree.chain node :=
    sprouted.chain_eq ready.tree.rising ready.isOpen.inside
  rw [← above, Match.Tree.chain, Match.Tree.chain, lineage_attached ready, List.filterMap_cons,
    rule?_attached ready, sprouted.new_start,
    sprouted.lineage_eq ready.tree.rising ready.isOpen.inside]
  rfl

/-- When a node is attached for the rule that has been called, the rule joins the chain. -/
theorem Ascends.attached (faithful : environment.source.Faithful)
    (ready : Ready environment first node state)
    (notRepeating : rule.isOperator = true → isRepeating (state.attached node rule).tree rule
      ((state.attached node rule).tree.lineage state.tree.size).tail = false)
    (ascends : Ascends first environment.source.size (some rule) node state) :
    Ascends first environment.source.size none state.tree.size (state.attached node rule) := by
  have sprouted := sprouted_attached ready rule
  have guarded := guarded_attached ready ascends.rooted notRepeating
  have climbs := ascends.climbs
  refine ⟨ascends.grammar_eq, rooted_attached ready ascends.rooted rule, ?_, ?_,
    fun _ absurd => (nomatch absurd), fun _ absurd => (nomatch absurd)⟩
  · rw [chain_attached ready]
    refine ⟨List.forall_mem_cons.mpr ⟨ascends.listed rule rfl, climbs.found⟩,
      List.forall_mem_cons.mpr ⟨ready.stop_le faithful, climbs.inside⟩,
      List.isChain_cons.mpr ⟨fun above head => ?_, climbs.leads⟩,
      List.pairwise_cons.mpr ⟨fun above member isOperator same => ?_, climbs.further⟩⟩
    · exact ascends.leads rule rfl above.1 (Tree.rule?_of_head_chain ascends.rooted head)
    · obtain ⟨id, inLineage, found, start_eq⟩ := Tree.mem_chain.mp member
      have inside := Tree.lt_of_mem_lineage ready.tree.rising ready.isOpen.inside inLineage
      have less := guarded rule (rule?_attached ready rule) isOperator id
        (by rw [lineage_attached ready]; exact inLineage) above.1
        (by rw [sprouted.rule?_eq inside]; exact found) same
      rw [sprouted.start_eq id inside, sprouted.new_start, start_eq] at less
      exact less
  · rw [chain_attached ready]
    exact ascends.height_le

/-- When a rule of the grammar is called, its name joins the stack. -/
theorem Ascends.entered {size : Nat} {name : String} (ascends : Ascends first size none node state)
    (mentions : Mentions state.tree node name) (found : state.grammar.rule? name = some rule) :
    Ascends first size (some rule) node (state.entered node name rule) := by
  rw [ascends.grammar_eq] at found
  refine ⟨ascends.grammar_eq, ascends.rooted, ascends.climbs, ?_, ?_, ?_⟩
  · exact Nat.succ_le_succ ascends.height_le
  · intro other same
    rw [← Option.some.inj same]
    exact Grammar.mem_rules_of_rule? found
  · intro other same upper isUpper
    rw [← Option.some.inj same]
    exact ⟨name, mentions upper isUpper, found⟩

/-- The stack is within the bound. -/
def Low (environment : Environment) (first : Grammar) (state : State) : Prop :=
  state.stack.length ≤ first.stackBound environment.source.size

/-- The stack stays within the bound. -/
def heightLaw (environment : Environment) (first : Grammar) : Law :=
  fun called node state moments ending =>
    Ascends first environment.source.size called node state →
      Safe (fun moment => Low environment first moment.state) (Low environment first) moments
        ending

theorem lawful_height (faithful : environment.source.Faithful)
    (importFree : ∀ rule ∈ first.rules, rule.isImport = false) (unlooped : first.Unlooped) :
    Lawful environment first (heightLaw environment first) where
  silent ready unchanged ascends := by
    refine ⟨List.forall_mem_nil _, fun last ended => ?_⟩
    rw [unchanged last ended]
    exact ascends.height_le_bound unlooped
  join ready here left right ascends :=
    (left ascends).append fun _ => right (ascends.continues ready here)
  slight ready slight notAsked ascends := by
    have after := (ascends.continues ready slight.toContinues).height_le_bound unlooped
    exact .single after after
  sprout ready sprouting ascends := by
    have after := (ascends.continues ready sprouting.toContinues).height_le_bound unlooped
    exact .single after after
  child ready notToken notRepeating inner ascends := by
    have here := ascends.height_le_bound unlooped
    exact .cons here (inner (ascends.attached faithful ready notRepeating))
  refuse ready isOperator repeating ascends := by
    have here := ascends.height_le_bound unlooped
    exact .cons here (.single here here)
  switch ready isRule kind found inner ascends := by
    rename_i node state self target grammar moments ending
    -- The rule of the node is one of the grammar, which has no imports.
    have inChain : (self, (state.tree.node node).start) ∈ state.tree.chain node :=
      Tree.mem_chain.mpr ⟨node, Tree.mem_lineage_self _ _, by rw [Match.Node.rule?, isRule], rfl⟩
    have notImport := importFree self (ascends.climbs.found _ inChain)
    rw [Rule.isImport, kind] at notImport
    cases notImport
  call ready mentions called ascends := by
    rename_i node name state moments ending
    have above : state.stack.length < first.stackBound environment.source.size :=
      Nat.lt_of_le_of_lt ascends.height_le (ascends.climbs.length_lt unlooped)
    refine called.safe (fun _ _ low => low) (ascends.height_le_bound unlooped) above above
      (fun _ => above) (fun state low => ?_) fun rule _ _ found inner =>
        inner (ascends.entered mentions found)
    exact Nat.le_trans (by simp [State.popped]) low

/-- In the initial state nothing is on the stack, and nothing on the way to the root. -/
theorem ascends_initial (environment : Environment) (first : Grammar) (size : Nat) :
    Ascends first size none Tree.root (State.initial first environment.options) := by
  have lineage_eq : (State.initial first environment.options).tree.lineage Tree.root =
      [Tree.root] := Tree.lineage_of_no_parent rfl
  refine ⟨rfl, fun id member _ => ?_, ?_, Nat.zero_le _, fun _ absurd => (nomatch absurd),
    fun _ absurd => (nomatch absurd)⟩
  · rw [lineage_eq, List.mem_singleton] at member
    rw [member]
    rfl
  · exact ⟨fun _ absurd => (nomatch absurd), fun _ absurd => (nomatch absurd), .nil, .nil⟩

/-- Operators run in no circles. In the tree of a successful parse, and at every moment of a
parse for all operators that have not found themselves above, an operator starts further on
than all its occurrences above it. Therefore, if a grammar has no imports and all its cycles
of references go through operators, its stack of rules has a bound. -/
theorem operators_run_in_no_circles (input : String) (registry : Registry)
    (options : ParseOptions) (tracing : Bool) (first : Grammar) :
    let environment := Environment.ofText input registry options tracing
    (∀ fuel start result, (run environment fuel first start).answer = .parsed result →
      result.tree.Ordered) ∧
    (∀ start moment, Passes environment first start moment → moment.Orderly) ∧
    ((∀ rule ∈ first.rules, rule.isImport = false) → first.Unlooped →
      ∀ start state, Reachable environment first start state → state.stack.length ≤
        (first.operators.length * (byteCount input.toList + 1) + 1) *
          (first.plainRules.length + 1)) := by
  intro environment
  have faithful := Environment.faithful_ofText input registry options tracing
  have ordered : (State.initial first environment.options).tree.Ordered := by
    intro id inside rule found
    obtain rfl : id = 0 := Nat.lt_one_iff.mp inside
    cases found
  have orderly := fun fuel start =>
    (lawful_order environment first).begin faithful fuel start ordered
      (ascends_initial environment first 0).rooted
  refine ⟨fun fuel start result parsed => ?_, fun start moment passes => ?_,
    fun importFree unlooped start state reached => ?_⟩
  · obtain ⟨name, after, -, done, -, rfl⟩ := exists_of_parsed parsed
    exact (orderly fuel name).ends after (by rw [done]; rfl)
  · obtain ⟨fuel, member⟩ := passes
    exact (orderly fuel start).passes moment member
  · rcases reached with rfl | ⟨happening, fuel, member⟩
    · exact Nat.zero_le _
    · exact ((lawful_height faithful importFree unlooped).begin faithful fuel start
        (ascends_initial environment first _)).passes _ member

/-- Sums whose operands may be sums again. -/
def sums : Grammar :=
  .ofCalls Workspace.compile "g" [.token "number" "1" false, .token "plus" "p" false,
    .operator "sum" .left "plus" "expr", .choice "expr" ["sum", "number"] false]

theorem unlooped_sums : sums.Unlooped := by
  refine Grammar.unlooped_of_rank (fun rule => rule.kind.references.length) ?_
  have falls : ∀ above ∈ sums.rules, ∀ name ∈ above.kind.references,
      ∀ below ∈ sums.rule? name, above.isOperator = false → below.isOperator = false →
        below.kind.references.length < above.kind.references.length := by
    decide
  rintro above listed below ⟨⟨name, mentioned, found⟩, aboveplain, belowplain⟩
  exact falls above listed name mentioned below found aboveplain belowplain

/-- A sum of sums is parsed, and while it is parsed the stack is never higher than twenty. -/
theorem sums_run_in_no_circles :
    (∃ result, (run (Environment.ofText "1p1" {} {} false) 8 sums (some "expr")).answer =
      .parsed result ∧ result.matchString = "(expr: (sum: (expr: '1') 'p' (expr: '1')))" ∧
        result.tree.Ordered) ∧
    ∀ state, Reachable (Environment.ofText "1p1" {} {} false) sums "expr" state →
      state.stack.length ≤ 20 := by
  have general := operators_run_in_no_circles "1p1" {} {} false sums
  have matched : (match (run (Environment.ofText "1p1" {} {} false) 8 sums
      (some "expr")).answer with
    | .parsed result => result.matchString == "(expr: (sum: (expr: '1') 'p' (expr: '1')))"
    | _ => false) = true := by decide +kernel
  have bound : (sums.operators.length * (byteCount "1p1".toList + 1) + 1) *
      (sums.plainRules.length + 1) = 20 := by decide +kernel
  constructor
  · split at matched
    · rename_i result parsed
      exact ⟨result, parsed, eq_of_beq matched, general.1 8 _ result parsed⟩
    · cases matched
  · intro state reached
    have low := general.2.2 (by decide) unlooped_sums "expr" state reached
    rwa [bound] at low

end Parse

end Rulebook
