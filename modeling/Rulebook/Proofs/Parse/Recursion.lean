/-
This file shows that an operator runs in no circles. Before an operator looks for operands it
looks for itself above, as far as no input has been taken since; if it finds itself there, it
fails. So an operator that goes on starts further on in the input than all its occurrences
above it, whatever rules are in between.

The search stops at nodes that have taken input, but not at operators and choices. That is
safe because all nodes at the right edge of a tree end at the same place, and none of them
starts before the nodes above it: beyond a node that has taken input, nothing starts where
the search began.
-/

import Rulebook.Proofs.Parse.Coverage
import Rulebook.Proofs.Parse.Lawfulness

namespace Rulebook.Parse

open Match (Origin Tree)

variable {chars : List Char} {tree : Tree} {node id : Nat} {rule : Rule}

/-! ### The search for an operator -/

/-- A search that finds nothing has come to the root, has come to a node that took input, or
goes on above a node of another rule and finds nothing there. -/
theorem isRepeating_cons {rest : List Nat} (free : isRepeating tree rule (id :: rest) = false) :
    (tree.node id).rule? = none ∨ (tree.node id).start < tree.stop id ∨
      ∃ other, (tree.node id).rule? = some other ∧ other.same rule = false ∧
        isRepeating tree rule rest = false := by
  rw [isRepeating] at free
  cases found : (tree.node id).rule? with
  | none => exact .inl rfl
  | some other =>
    rw [found] at free
    dsimp only at free
    by_cases taken : (!isTransparent other.kind && decide (0 < (tree.node id).consumed)) = true
    · have consumed : 0 < (tree.node id).consumed :=
        of_decide_eq_true (Bool.and_eq_true_iff.mp taken).2
      exact .inr (.inl (Nat.lt_of_sub_pos consumed))
    · rw [if_neg taken] at free
      by_cases same : other.same rule = true
      · rw [if_pos same] at free
        cases free
      · rw [if_neg same] at free
        exact .inr (.inr ⟨other, rfl, Bool.eq_false_iff.mpr same, free⟩)

/-- If the search finds nothing, then wherever the operator is being matched above, it started
before the place where the search begins. -/
theorem start_lt_of_isRepeating (intact : tree.Intact chars) (isOpen : tree.Open node)
    (rooted : tree.Rooted node) (member : id ∈ tree.lineage node)
    (free : isRepeating tree rule (tree.lineage id) = false) :
    ∀ above ∈ tree.lineage id, ∀ other, (tree.node above).rule? = some other →
      other.same rule = true → (tree.node above).start < tree.stop node := by
  have ends : ∀ id ∈ tree.lineage node, tree.stop id = tree.stop node :=
    fun id member => intact.stop_of_mem_lineage isOpen member
  induction id using Tree.lineage_induction intact.rising with
  | top id found =>
    rw [Tree.lineage_of_no_parent found] at free ⊢
    intro above isAbove other foundAbove same
    rw [List.mem_singleton.mp isAbove] at foundAbove ⊢
    rcases isRepeating_cons free with none | further | ⟨another, foundHere, different, -⟩
    · rw [none] at foundAbove
      cases foundAbove
    · rw [← ends id member]
      exact further
    · rw [foundHere] at foundAbove
      rw [Option.some.inj foundAbove, same] at different
      cases different
  | below id parent found inductionHypothesis =>
    have lineage_eq := Tree.lineage_of_parent intact.rising found
    intro above isAbove other foundAbove same
    rw [lineage_eq] at free
    rcases isRepeating_cons free with none | further | ⟨another, foundHere, different, freeAbove⟩
    · rw [rooted id member none] at found
      cases found
    · have le := intact.start_le_of_mem_lineage isOpen member isAbove
      rw [← ends id member]
      exact Nat.lt_of_le_of_lt le further
    · rw [lineage_eq] at isAbove
      rcases List.mem_cons.mp isAbove with here | higher
      · rw [here, foundHere] at foundAbove
        rw [Option.some.inj foundAbove, same] at different
        cases different
      · exact inductionHypothesis (Tree.parent_mem_lineage intact.rising member found) freeAbove
          above higher other foundAbove same

/-- A node that has taken nothing yet is guarded if the search above it finds nothing. -/
theorem guarded_of_isRepeating (intact : tree.Intact chars) (isOpen : tree.Open node)
    (rooted : tree.Rooted node) (empty : tree.stop node = (tree.node node).start)
    (free : ∀ rule, (tree.node node).rule? = some rule → rule.isOperator = true →
      isRepeating tree rule (tree.lineage node).tail = false) : tree.Guarded node := by
  intro rule found isOperator
  have searched := free rule found isOperator
  cases isParent : (tree.node node).parent with
  | none =>
    rw [Tree.lineage_of_no_parent isParent]
    exact fun above absurd => nomatch absurd
  | some parent =>
    rw [Tree.lineage_of_parent intact.rising isParent] at searched ⊢
    rw [← empty]
    exact start_lt_of_isRepeating intact isOpen rooted
      (Tree.parent_mem_lineage intact.rising (Tree.mem_lineage_self tree node) isParent) searched

/-! ### Order along a parse -/

variable {environment : Environment} {first : Grammar} {state before after last : State}

/-- Ancestors stay ancestors while there is work at a node. -/
theorem Continues.rooted (ready : Ready environment first node before)
    (here : Continues environment first node before after) (rooted : before.tree.Rooted node) :
    after.tree.Rooted node :=
  here.outline.rooted ready.tree.rising (Nat.lt_succ_self node) rooted

/-- The tree to which a node has been attached for a rule. -/
theorem sprouted_attached (ready : Ready environment first node state) (rule : Rule) :
    Tree.Sprouted node (.rule rule) state.tree (state.attached node rule).tree :=
  Tree.sprouted_attach ready.tree.rising ready.isOpen.inside (.rule rule)

theorem lineage_attached (ready : Ready environment first node state) (rule : Rule) :
    (state.attached node rule).tree.lineage state.tree.size =
      state.tree.size :: state.tree.lineage node :=
  Tree.lineage_attach_new ready.tree.rising ready.isOpen.inside (.rule rule)

theorem rule?_attached (ready : Ready environment first node state) (rule : Rule) :
    ((state.attached node rule).tree.node state.tree.size).rule? = some rule := by
  rw [Match.Node.rule?, (sprouted_attached ready rule).new_origin]

/-- A node attached for a rule below the root has a lineage of rules up to the root. -/
theorem rooted_attached (ready : Ready environment first node state)
    (rooted : state.tree.Rooted node) (rule : Rule) :
    (state.attached node rule).tree.Rooted state.tree.size := by
  have sprouted := sprouted_attached ready rule
  intro id member none
  rw [lineage_attached ready] at member
  rcases List.mem_cons.mp member with new | above
  · rw [new, rule?_attached ready] at none
    cases none
  · have inside := Tree.lt_of_mem_lineage ready.tree.rising ready.isOpen.inside above
    rw [sprouted.rule?_eq inside] at none
    rw [sprouted.parent_eq id inside]
    exact rooted id above none

/-- A rule that is not being matched already, if it is an operator, is guarded when a node is
attached for it. -/
theorem guarded_attached (ready : Ready environment first node state)
    (rooted : state.tree.Rooted node)
    (notRepeating : rule.isOperator = true → isRepeating (state.attached node rule).tree rule
      ((state.attached node rule).tree.lineage state.tree.size).tail = false) :
    (state.attached node rule).tree.Guarded state.tree.size := by
  have attached := ready_attach ready (.rule rule)
  have sprouted := sprouted_attached ready rule
  refine guarded_of_isRepeating attached.tree attached.isOpen (rooted_attached ready rooted rule)
    ?_ fun other found isOperator => ?_
  · rw [sprouted.new_start]
    exact Tree.stop_attach_new ready.isOpen.inside
  · rw [rule?_attached ready] at found
    rw [← Option.some.inj found] at isOperator ⊢
    exact notRepeating isOperator

/-- All nodes other than the one attached are guarded as they were. -/
theorem ordered_of_sprouted {tree grown : Tree} {origin : Origin} (rising : tree.Rising)
    (sprouted : Tree.Sprouted node origin tree grown) (ordered : tree.Ordered)
    (guarded : grown.Guarded tree.size) : grown.Ordered := by
  intro id inside
  rw [sprouted.size_eq] at inside
  by_cases new : id = tree.size
  · rw [new]
    exact guarded
  · have old : id < tree.size := by omega
    exact sprouted.guarded rising old (ordered id old)

theorem ordered_of_pruned {tree pruned : Tree} (rising : tree.Rising)
    (less : Tree.Pruned tree pruned) (ordered : tree.Ordered) : pruned.Ordered := by
  intro id inside
  exact less.guarded rising inside (ordered id (Nat.lt_of_lt_of_le inside less.size_le))

/-- No operator is attached together with children, so what has no children is guarded. -/
theorem Childless.guarded {tree : Tree} (childless : Childless (tree.node id).origin) :
    tree.Guarded id := by
  intro rule found isOperator
  rw [Match.Node.rule?] at found
  generalize (tree.node id).origin = origin at childless found
  cases childless with
  | lambda name => cases found
  | token isToken =>
    rw [← Option.some.inj found, Rule.isOperator_of_isToken isToken] at isOperator
    cases isOperator

/-- At a moment of a parse every node is guarded, except an operator that has just been
attached and will be detached because it has found itself above. -/
def Moment.Orderly (moment : Moment) : Prop :=
  ∀ id < moment.state.tree.size, moment.state.tree.Guarded id ∨
    moment.happening = .changed ∧ id + 1 = moment.state.tree.size ∧
      ∃ rule, (moment.state.tree.node id).rule? = some rule ∧ rule.isOperator = true ∧
        isRepeating moment.state.tree rule (moment.state.tree.lineage id).tail = true

theorem orderly_of_ordered {moment : Moment} (ordered : moment.state.tree.Ordered) :
    moment.Orderly :=
  fun id inside => .inl (ordered id inside)

/-- If the tree is ordered, it stays so. -/
def orderLaw : Law := fun _ node state moments ending =>
  state.tree.Ordered → state.tree.Rooted node →
    Safe Moment.Orderly (·.tree.Ordered) moments ending

theorem lawful_order (environment : Environment) (first : Grammar) :
    Lawful environment first orderLaw where
  silent ready unchanged ordered rooted := by
    refine ⟨List.forall_mem_nil _, fun last ended => ?_⟩
    rw [unchanged last ended]
    exact ordered
  join ready here left right ordered rooted :=
    (left ordered rooted).append fun between => right between (here.rooted ready rooted)
  slight ready slight notAsked ordered rooted := by
    have after := ordered_of_pruned ready.tree.rising slight.pruned ordered
    exact .single (orderly_of_ordered after) after
  sprout ready sprouting ordered rooted := by
    obtain ⟨origin, childless, sprouted⟩ := sprouting.sprouted
    rw [← sprouted.new_origin] at childless
    have after := ordered_of_sprouted ready.tree.rising sprouted ordered childless.guarded
    exact .single (orderly_of_ordered after) after
  child ready notToken notRepeating inner ordered rooted := by
    have attached := ordered_of_sprouted ready.tree.rising (sprouted_attached ready _) ordered
      (guarded_attached ready rooted notRepeating)
    exact .cons (orderly_of_ordered attached) (inner attached (rooted_attached ready rooted _))
  refuse ready isOperator repeating ordered rooted := by
    rename_i node state rule
    have sprouted := sprouted_attached ready rule
    refine .cons (fun id inside => ?_) (.single (orderly_of_ordered ordered) ordered)
    by_cases new : id = state.tree.size
    · rw [new]
      exact .inr ⟨rfl, sprouted.size_eq.symm, rule, rule?_attached ready rule, isOperator,
        repeating⟩
    · rw [sprouted.size_eq] at inside
      have old : id < state.tree.size := by omega
      exact .inl (sprouted.guarded ready.tree.rising old (ordered id old))
  switch ready isRule kind found inner ordered rooted :=
    .cons (orderly_of_ordered ordered) ((inner ordered rooted).mapState
      (fun _ ordered => orderly_of_ordered ordered) fun _ ordered => ordered)
  call ready mentions called ordered rooted :=
    called.safe (fun _ _ ordered => orderly_of_ordered ordered) ordered ordered ordered
      (fun _ => ordered) (fun _ ordered => ordered) fun _ _ _ _ inner => inner ordered rooted

end Rulebook.Parse
