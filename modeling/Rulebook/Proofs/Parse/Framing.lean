/-
This file says what a request for a rule may change. However it ends, and whatever happened
inside it, the stack of rules and the grammar are afterwards what they were before. If the
rule matched, its node has become the next semantic child of the node at which it was asked
for, nothing but skipped tokens follows it there, and that node and its ancestors have grown
by the same amount. Nothing else has changed in what was there before.
-/

import Rulebook.Proofs.Parse.Lawfulness
import Rulebook.Proofs.Parse.Restoration

namespace Rulebook.Parse

open Match (Origin Tree)

variable {environment : Environment} {first : Grammar} {parent : Nat} {name : String}
  {state last : State}

/-! ### The stack and the grammar -/

/-- The grammar and the outer frames of the stack are what they were. -/
def frameLaw : Law := fun _ _ state _ ending =>
  ∀ last, ending.last? = some last →
    last.grammar = state.grammar ∧ last.stack.tail = state.stack.tail

/-- A request for a rule takes exactly its own frame off the stack. -/
theorem Called.frame {moments : List Moment} {ending : Outcome Unit}
    (called : Called frameLaw parent name state moments ending)
    (ended : ending.last? = some last) :
    last.grammar = state.grammar ∧ last.stack = state.stack := by
  cases called with
  | unworked => cases ended
  | unresolved absent error =>
    cases ended
    exact ⟨rfl, rfl⟩
  | resolved found inner =>
    rw [Outcome.last?_mapState] at ended
    obtain ⟨next, reached, rfl⟩ := Option.map_eq_some_iff.mp ended
    exact inner next reached

theorem lawful_frame (environment : Environment) (first : Grammar) :
    Lawful environment first frameLaw where
  silent ready unchanged last ended := by
    rw [unchanged last ended]
    exact ⟨rfl, rfl⟩
  join ready here left right last ended := by
    obtain ⟨grammar_eq, tail_eq⟩ := left _ rfl
    obtain ⟨grammar_eq', tail_eq'⟩ := right last ended
    exact ⟨grammar_eq'.trans grammar_eq, tail_eq'.trans tail_eq⟩
  slight ready slight notAsked last ended := by
    cases ended
    exact ⟨slight.grammar_eq, slight.tail_eq⟩
  sprout ready sprouting last ended := by
    cases ended
    exact ⟨sprouting.grammar_eq, sprouting.tail_eq⟩
  child ready notToken notRepeating inner := inner
  refuse ready isOperator repeating last ended := by
    cases ended
    exact ⟨rfl, rfl⟩
  switch ready isRule kind found inner last ended := by
    rw [Outcome.last?_mapState] at ended
    obtain ⟨next, reached, rfl⟩ := Option.map_eq_some_iff.mp ended
    exact ⟨rfl, (inner next reached).2⟩
  call ready mentions called last ended := by
    obtain ⟨grammar_eq, stack_eq⟩ := called.frame ended
    exact ⟨grammar_eq, congrArg List.tail stack_eq⟩

/-! ### The tree -/

/-- A rule has become the next semantic child of a node, followed by skipped tokens, and the
node and its ancestors have taken some input. Nothing else has changed. -/
structure Adopted (rule : Rule) (amount : Nat) (blanks : Array Nat) (parent : Nat)
    (before after : Tree) : Prop where
  inside : before.size < after.size
  origin_eq : (after.node before.size).origin = .rule rule
  parent_eq : (after.node before.size).parent = some parent
  start_eq : (after.node before.size).start = before.stop parent
  blank : ∀ id ∈ blanks, after.Blank id
  self : after.node parent =
    { before.node parent with
      stop := (before.node parent).stop + amount
      children := (before.node parent).children.push before.size ++ blanks
      semantic := (before.node parent).semantic.push before.size }
  other : ∀ id < before.size, id ≠ parent → after.node id =
    if id ∈ before.lineage parent then (before.node id).lengthen amount else before.node id

/-- A rule that has been added has been adopted. -/
theorem Added.adopted {grammar : Grammar} {before after : Tree} (isOpen : before.Open parent)
    (intact : after.Intact environment.source.chars)
    (added : Added grammar parent name before after) :
    ∃ rule amount blanks, grammar.rule? name = some rule ∧
      Adopted rule amount blanks parent before after := by
  obtain ⟨rule, found, origin_eq⟩ := added.origin_eq
  obtain ⟨blanks, children_eq, blank⟩ := added.children_eq
  have listed : before.size ∈ (after.node parent).children := by
    rw [children_eq]
    exact Array.mem_append_left _ Array.mem_push_self
  obtain ⟨inside, parent_eq⟩ := intact.ordered parent before.size listed
  refine ⟨rule, after.stop parent - before.stop parent, blanks, found, inside, origin_eq,
    parent_eq, added.start_eq, blank, ?_, added.grown.other⟩
  obtain ⟨children, semantic, terminal, equal⟩ := added.grown.self
  have stop_le := added.grown.stop_le
  have taken : (before.node parent).stop + (after.stop parent - before.stop parent) =
      after.stop parent := Nat.add_sub_cancel' stop_le
  have unmatched := added.isOpen.unmatched
  have semantic_eq := added.semantic_eq
  rw [equal] at children_eq semantic_eq unmatched ⊢
  dsimp only at children_eq semantic_eq unmatched
  rw [children_eq, semantic_eq, unmatched, taken, ← isOpen.unmatched]

/-- In every state that a parse reaches, a request for a rule at an open node leaves the stack
and the grammar as they were, however it ends. If the rule matches, it has been adopted by the
node. -/
theorem consume_keeps_its_frame (input : String) (registry : Registry)
    (options : ParseOptions) (tracing : Bool) (first : Grammar) (start : String) :
    let environment := Environment.ofText input registry options tracing
    ∀ state parent, Reachable environment first start state → state.tree.Open parent →
      ∀ fuel name,
        let outcome := (consume environment fuel parent name state).outcome
        (∀ last, outcome.last? = some last →
          last.stack = state.stack ∧ last.grammar = state.grammar) ∧
        ∀ after, outcome = .done true after →
          ∃ rule amount blanks, state.grammar.rule? name = some rule ∧
            Adopted rule amount blanks parent state.tree after.tree := by
  intro environment state parent reached isOpen fuel name
  have faithful := Environment.faithful_ofText input registry options tracing
  have ready : Ready environment first parent state := ⟨reached.sound faithful, isOpen⟩
  refine ⟨fun last ended => ?_, fun after done => ?_⟩
  · have called := (lawful_frame environment first).called_consume faithful fuel ready name
    obtain ⟨grammar_eq, stack_eq⟩ := called.frame (by rw [Outcome.last?_ending]; exact ended)
    exact ⟨stack_eq, grammar_eq⟩
  · have answered := (reliable_consume faithful (excuses_always environment first) fuel parent
      name state ready).returns true after done
    exact (answered.added rfl).adopted isOpen answered.sound.tree

/-- The match of a pair is adopted by the root. -/
theorem pair_is_adopted :
    ∃ after rule amount blanks,
      (consume (Environment.ofText "xy" {} {} false) 3 Tree.root "pair"
        (State.initial pair {})).outcome = .done true after ∧
      after.stack = [] ∧ pair.rule? "pair" = some rule ∧
      Adopted rule amount blanks Tree.root Tree.new after.tree := by
  obtain ⟨after, matched⟩ : ∃ after, (consume (Environment.ofText "xy" {} {} false) 3 Tree.root
      "pair" (State.initial pair {})).outcome = .done true after := ⟨_, rfl⟩
  have general := consume_keeps_its_frame "xy" {} {} false pair "pair" _ _ (.inl rfl)
    Tree.open_new 3 "pair"
  have framed := general.1 after (congrArg Outcome.last? matched)
  obtain ⟨rule, amount, blanks, found, adopted⟩ := general.2 after matched
  exact ⟨after, rule, amount, blanks, matched, framed.1, found, adopted⟩

end Rulebook.Parse
