/-
This file says what is true of every state that a parse reaches, and what the parts of a
parse leave as it was. The tree is intact, the grammar is one that the parse may come to,
and what the memo remembers is what its tokens do.

The parts of a parse differ in what they do to the tree. Bookkeeping leaves it alone; an
attempt leaves it alone if it fails and works at a new child if it succeeds; the body of a
rule works at the node that was attached for it.
-/

import Rulebook.Parse.Engine
import Rulebook.Proofs.Parse.Contract
import Rulebook.Proofs.Tree.Upkeep

namespace Rulebook.Parse

open Match (Origin Tree)

/-! ### States -/

/-- A grammar that a parse may come to: the one it begins with, or a published one. -/
def Active (environment : Environment) (first grammar : Grammar) : Prop :=
  grammar = first ∨ ∃ name, environment.registry.lookup? name = some grammar

/-- A rule that a parse may come to. -/
def Known (environment : Environment) (first : Grammar) (rule : Rule) : Prop :=
  ∃ grammar name, Active environment first grammar ∧ grammar.rule? name = some rule

/-- What is remembered under a key is what a token does that goes by this key. -/
def Recalls (environment : Environment) (first : Grammar) (key : MemoKey)
    (outcome : Option Nat) : Prop :=
  ∃ rule token, Known environment first rule ∧ rule.token? = some token ∧
    key.grammar = rule.grammar ∧ key.rule = rule.name ∧
      token.matchAt? environment.source key.offset = outcome

/-- A rule answers for a token: the rule itself does, and if tokens are remembered, so does
every rule that goes by the same grammar and name. -/
def StandsIn (environment : Environment) (first : Grammar) (rule other : Rule) : Prop :=
  other = rule ∨ environment.options.memoizeTokens = true ∧ Known environment first other ∧
    other.grammar = rule.grammar ∧ other.name = rule.name

/-- If a rule is a token, then the input between two offsets is at least as long as a match of
a token that answers for it. -/
def Took (environment : Environment) (first : Grammar) (rule : Rule) (start stop : Nat) : Prop :=
  rule.isToken = true → ∃ other token length, StandsIn environment first rule other ∧
    other.token? = some token ∧ token.matchAt? environment.source start = some length ∧
      start + length ≤ stop

/-- What is true of every state that a parse reaches. -/
structure Sound (environment : Environment) (first : Grammar) (state : State) : Prop where
  tree : state.tree.Intact environment.source.chars
  grammar : Active environment first state.grammar
  memoizing : state.memo.isSome = environment.options.memoizeTokens
  memo : ∀ memo, state.memo = some memo → ∀ key outcome,
    memo.entries[key]? = some outcome → Recalls environment first key outcome

/-- A state in which something may be matched as the next child of a node. -/
structure Ready (environment : Environment) (first : Grammar) (parent : Nat)
    (state : State) : Prop extends Sound environment first state where
  isOpen : state.tree.Open parent

/-- What is true of every moment of a parse. -/
structure Proper (environment : Environment) (first : Grammar) (moment : Moment) : Prop where
  sound : Sound environment first moment.state
  isOpen : ∀ parent, moment.happening.parent? = some parent → moment.state.tree.Open parent
  known : ∀ parent rule, moment.happening = .tried parent rule → Known environment first rule

/-! ### What parts of a parse keep -/

/-- What every part of a parse keeps. Only the innermost frame of the stack may change. -/
structure Kept (environment : Environment) (first : Grammar) (before after : State) : Prop where
  sound : Sound environment first after
  grammar_eq : after.grammar = before.grammar
  tail_eq : after.stack.tail = before.stack.tail
  height_eq : after.stack.length = before.stack.length

/-- Bookkeeping leaves the tree alone. -/
structure Still (environment : Environment) (first : Grammar) (before after : State) : Prop
    extends Kept environment first before after where
  tree_eq : after.tree = before.tree

/-- Work was done at a node. -/
structure Worked (environment : Environment) (first : Grammar) (node : Nat)
    (before after : State) : Prop extends Kept environment first before after where
  grown : Tree.Grown node before.tree after.tree

/-- Work was done at a node, and more can be done there. -/
structure Working (environment : Environment) (first : Grammar) (node : Nat)
    (before after : State) : Prop extends Worked environment first node before after where
  isOpen : after.tree.Open node

/-- Whitespace was skipped at the end of a node. -/
structure Skipped (environment : Environment) (first : Grammar) (parent : Nat)
    (before after : State) : Prop extends Working environment first parent before after where
  semantic_eq : (after.tree.node parent).semantic = (before.tree.node parent).semantic
  trailed : Tree.Trailed parent before.tree after.tree

/-- Whitespace was skipped once, which takes input, or there was none. -/
structure SkippedOne (environment : Environment) (first : Grammar) (parent : Nat)
    (before : State) (skipped : Bool) (after : State) : Prop where
  rests : skipped = false → Still environment first before after
  skips : skipped = true → Skipped environment first parent before after ∧
    before.tree.stop parent < after.tree.stop parent

/-- A rule was tried as the next child of a node. Work was done at the child alone. -/
structure Attempted (environment : Environment) (first : Grammar) (rule : Rule) (parent : Nat)
    (before : State) (matched : Bool) (after : State) : Prop
    extends Kept environment first before after where
  restored : matched = false → after.tree = before.tree
  grown : matched = true →
    Tree.Grown before.tree.size (before.tree.attach parent (.rule rule)) after.tree

/-- A rule was tried, and the memo may have answered for it. -/
structure Tried (environment : Environment) (first : Grammar) (rule : Rule) (parent : Nat)
    (before : State) (matched : Bool) (after : State) : Prop
    extends Attempted environment first rule parent before matched after where
  took : matched = true → Took environment first rule
    (before.tree.stop parent) (after.tree.stop parent)
  terminal : matched = true → rule.isToken = true →
    (after.tree.node before.tree.size).terminal = true

/-- A whitespace token was tried. -/
structure BlankTried (environment : Environment) (first : Grammar) (rule : Rule) (parent : Nat)
    (before : State) (matched : Bool) (after : State) : Prop
    extends Attempted environment first rule parent before matched after where
  terminal : matched = true → (after.tree.node before.tree.size).terminal = true

/-- A rule of some name has become the next semantic child of a node, and nothing but skipped
tokens follows it. -/
structure Added (grammar : Grammar) (parent : Nat) (name : String) (before after : Tree) :
    Prop where
  grown : Tree.Grown parent before after
  isOpen : after.Open parent
  semantic_eq : (after.node parent).semantic = (before.node parent).semantic.push before.size
  children_eq : ∃ blanks, (after.node parent).children =
    (before.node parent).children.push before.size ++ blanks ∧ ∀ id ∈ blanks, after.Blank id
  start_eq : (after.node before.size).start = before.stop parent
  origin_eq : ∃ rule, grammar.rule? name = some rule ∧
    (after.node before.size).origin = .rule rule

/-- A rule that had been put on the stack was tried, and whitespace was skipped after it. -/
structure Invoked (environment : Environment) (first : Grammar) (parent : Nat) (name : String)
    (before : State) (matched : Bool) (after : State) : Prop
    extends Kept environment first before after where
  restored : matched = false → after.tree = before.tree
  added : matched = true → Added before.grammar parent name before.tree after.tree
  took : matched = true → ∀ rule, before.grammar.rule? name = some rule →
    Took environment first rule (before.tree.stop parent)
      (after.tree.stop parent)

/-- A rule was asked for as the next child of a node. The stack is what it was. -/
structure Answered (environment : Environment) (first : Grammar) (parent : Nat) (name : String)
    (before : State) (matched : Bool) (after : State) : Prop
    extends Invoked environment first parent name before matched after where
  stack_eq : after.stack = before.stack

variable {environment : Environment} {first : Grammar} {before middle after state : State}
  {node parent : Nat} {rule : Rule} {name : String} {matched : Bool}

theorem Sound.proper (sound : Sound environment first state) :
    Proper environment first ⟨.changed, state⟩ :=
  ⟨sound, fun _ none => (by cases none), fun _ _ tried => (by cases tried)⟩

theorem Ready.proper_asked (ready : Ready environment first parent state) (name : String) :
    Proper environment first ⟨.asked parent name, state⟩ where
  sound := ready.toSound
  isOpen _ same := Option.some.inj same ▸ ready.isOpen
  known _ _ tried := by cases tried

theorem Ready.proper_tried (ready : Ready environment first parent state)
    (known : Known environment first rule) :
    Proper environment first ⟨.tried parent rule, state⟩ where
  sound := ready.toSound
  isOpen _ same := Option.some.inj same ▸ ready.isOpen
  known _ _ same := by cases same; exact known

theorem Ready.stop_le (ready : Ready environment first parent state)
    (faithful : environment.source.Faithful) : state.tree.stop parent ≤ environment.source.size :=
  faithful.le_size (ready.tree.spans parent ready.isOpen.inside).2.1

namespace Kept

theorem refl (sound : Sound environment first state) : Kept environment first state state :=
  ⟨sound, rfl, rfl, rfl⟩

theorem trans (left : Kept environment first before middle)
    (right : Kept environment first middle after) : Kept environment first before after where
  sound := right.sound
  grammar_eq := right.grammar_eq.trans left.grammar_eq
  tail_eq := right.tail_eq.trans left.tail_eq
  height_eq := right.height_eq.trans left.height_eq

/-- A change of the tree alone. -/
theorem of_tree (sound : Sound environment first state) {tree : Tree}
    (intact : tree.Intact environment.source.chars) :
    Kept environment first state { state with tree } :=
  ⟨⟨intact, sound.grammar, sound.memoizing, sound.memo⟩, rfl, rfl, rfl⟩

end Kept

namespace Still

theorem refl (sound : Sound environment first state) : Still environment first state state :=
  ⟨.refl sound, rfl⟩

theorem trans (left : Still environment first before middle)
    (right : Still environment first middle after) : Still environment first before after :=
  ⟨left.toKept.trans right.toKept, right.tree_eq.trans left.tree_eq⟩

/-- A change of nothing that matters. -/
theorem of_eq (sound : Sound environment first before) (tree_eq : after.tree = before.tree)
    (grammar_eq : after.grammar = before.grammar) (tail_eq : after.stack.tail = before.stack.tail)
    (height_eq : after.stack.length = before.stack.length) (memo_eq : after.memo = before.memo) :
    Still environment first before after :=
  ⟨⟨⟨by rw [tree_eq]; exact sound.tree, by rw [grammar_eq]; exact sound.grammar,
    by rw [memo_eq]; exact sound.memoizing, by rw [memo_eq]; exact sound.memo⟩, grammar_eq,
    tail_eq, height_eq⟩, tree_eq⟩

theorem ready (still : Still environment first before after)
    (ready : Ready environment first parent before) : Ready environment first parent after :=
  ⟨still.sound, by rw [still.tree_eq]; exact ready.isOpen⟩

end Still

namespace Working

theorem refl (ready : Ready environment first node state) :
    Working environment first node state state :=
  ⟨⟨.refl ready.toSound, .refl ready.tree.rising ready.isOpen.inside⟩, ready.isOpen⟩

theorem ready (working : Working environment first node before after) :
    Ready environment first node after :=
  ⟨working.sound, working.isOpen⟩

theorem trans (left : Working environment first node before middle)
    (right : Working environment first node middle after) :
    Working environment first node before after :=
  ⟨⟨left.toKept.trans right.toKept, left.grown.trans right.grown⟩, right.isOpen⟩

theorem still (working : Working environment first node before middle)
    (still : Still environment first middle after) :
    Working environment first node before after :=
  ⟨⟨working.toKept.trans still.toKept, by rw [still.tree_eq]; exact working.grown⟩,
    by rw [still.tree_eq]; exact working.isOpen⟩

/-- Whether a rule matched or not, work can go on. -/
theorem answered (working : Working environment first node before middle)
    (answered : Answered environment first node name middle matched after) :
    Working environment first node before after := by
  cases matched with
  | true =>
    have added := answered.added rfl
    exact working.trans ⟨⟨answered.toKept, added.grown⟩, added.isOpen⟩
  | false => exact working.still ⟨answered.toKept, answered.restored rfl⟩

end Working

namespace Skipped

theorem refl (ready : Ready environment first parent state) :
    Skipped environment first parent state state :=
  ⟨.refl ready, rfl, Tree.trailed_refl _ _⟩

theorem trans (left : Skipped environment first parent before middle)
    (right : Skipped environment first parent middle after) :
    Skipped environment first parent before after :=
  ⟨left.toWorking.trans right.toWorking, right.semantic_eq.trans left.semantic_eq,
    left.trailed.trans right.trailed left.isOpen right.grown⟩

theorem of_still (ready : Ready environment first parent before)
    (still : Still environment first before after) :
    Skipped environment first parent before after :=
  ⟨(Working.refl ready).still still, by rw [still.tree_eq],
    by rw [still.tree_eq]; exact Tree.trailed_refl _ _⟩

theorem still (skipped : Skipped environment first parent before middle)
    (still : Still environment first middle after) :
    Skipped environment first parent before after :=
  ⟨skipped.toWorking.still still, by rw [still.tree_eq]; exact skipped.semantic_eq,
    by rw [still.tree_eq]; exact skipped.trailed⟩

end Skipped

namespace SkippedOne

theorem of_still (still : Still environment first before after) :
    SkippedOne environment first parent before false after where
  rests _ := still
  skips absurd := by cases absurd

theorem of_skipped (skipped : Skipped environment first parent before after)
    (further : before.tree.stop parent < after.tree.stop parent) :
    SkippedOne environment first parent before true after where
  rests absurd := by cases absurd
  skips _ := ⟨skipped, further⟩

/-- Tokens that did not match may have been tried before. -/
theorem after_still {skipped : Bool} (ready : Ready environment first parent before)
    (still : Still environment first before middle)
    (round : SkippedOne environment first parent middle skipped after) :
    SkippedOne environment first parent before skipped after where
  rests none := still.trans (round.rests none)
  skips some := by
    obtain ⟨skipped, further⟩ := round.skips some
    rw [still.tree_eq] at further
    exact ⟨(Skipped.of_still ready still).trans skipped, further⟩

theorem skipped {skipped : Bool} (ready : Ready environment first parent before)
    (round : SkippedOne environment first parent before skipped after) :
    Skipped environment first parent before after := by
  cases skipped with
  | true => exact (round.skips rfl).1
  | false => exact .of_still ready (round.rests rfl)

end SkippedOne

namespace Attempted

theorem failed (still : Still environment first before after) :
    Attempted environment first rule parent before false after where
  toKept := still.toKept
  restored _ := still.tree_eq
  grown absurd := by cases absurd

theorem succeeded (kept : Kept environment first before after)
    (grown : Tree.Grown before.tree.size (before.tree.attach parent (.rule rule)) after.tree) :
    Attempted environment first rule parent before true after where
  toKept := kept
  restored absurd := by cases absurd
  grown _ := grown

/-- Bookkeeping may come before an attempt. -/
theorem of_still (still : Still environment first before middle)
    (attempted : Attempted environment first rule parent middle matched after) :
    Attempted environment first rule parent before matched after where
  toKept := still.toKept.trans attempted.toKept
  restored failed := (attempted.restored failed).trans still.tree_eq
  grown success := by
    rw [← still.tree_eq]
    exact attempted.grown success

/-- And after it. -/
theorem still (attempted : Attempted environment first rule parent before matched middle)
    (still : Still environment first middle after) :
    Attempted environment first rule parent before matched after where
  toKept := attempted.toKept.trans still.toKept
  restored failed := still.tree_eq.trans (attempted.restored failed)
  grown success := by
    rw [still.tree_eq]
    exact attempted.grown success

/-- A rule that matched has become the next semantic child. -/
theorem working (ready : Ready environment first parent before)
    (attempted : Attempted environment first rule parent before true after) :
    Working environment first parent before after ∧
      (after.tree.node parent).semantic =
        (before.tree.node parent).semantic.push before.tree.size ∧
          (after.tree.node before.tree.size).origin = .rule rule := by
  have rising := ready.tree.rising
  have inside := ready.isOpen.inside
  have below := attempted.grown rfl
  have grown := below.of_child rising inside
  have owner := below.node_parent rising inside
  have unmatched : (after.tree.node parent).terminal = false := by
    rw [owner]
    exact ready.isOpen.unmatched
  refine ⟨⟨⟨attempted.toKept, grown⟩, ready.isOpen.of_grown grown unmatched⟩, ?_, ?_⟩
  · rw [owner]
    rfl
  · rw [(below.start_eq (by rw [Tree.size_attach]; omega)).2.1, Tree.node_attach_new inside]

/-- It has become the latest child as well, and starts where its parent ended. -/
theorem attached (ready : Ready environment first parent before)
    (attempted : Attempted environment first rule parent before true after) :
    (after.tree.node parent).children =
      (before.tree.node parent).children.push before.tree.size ∧
        (after.tree.node before.tree.size).start = before.tree.stop parent := by
  have inside := ready.isOpen.inside
  have below := attempted.grown rfl
  constructor
  · rw [below.node_parent ready.tree.rising inside]
    rfl
  · rw [(below.start_eq (by rw [Tree.size_attach]; omega)).1, Tree.node_attach_new inside]

end Attempted

namespace Tried

theorem failed (still : Still environment first before after) :
    Tried environment first rule parent before false after where
  toAttempted := .failed still
  took absurd := by cases absurd
  terminal absurd := by cases absurd

/-- Bookkeeping may come before an attempt. -/
theorem of_still (still : Still environment first before middle)
    (tried : Tried environment first rule parent middle matched after) :
    Tried environment first rule parent before matched after where
  toAttempted := .of_still still tried.toAttempted
  took success := by
    rw [← still.tree_eq]
    exact tried.took success
  terminal success := by
    rw [← still.tree_eq]
    exact tried.terminal success

/-- And after it. -/
theorem still (tried : Tried environment first rule parent before matched middle)
    (still : Still environment first middle after) :
    Tried environment first rule parent before matched after where
  toAttempted := tried.toAttempted.still still
  took success := by
    rw [still.tree_eq]
    exact tried.took success
  terminal success := by
    rw [still.tree_eq]
    exact tried.terminal success

end Tried

theorem Took.mono {start stop further : Nat} (took : Took environment first rule start stop)
    (le : stop ≤ further) : Took environment first rule start further := by
  intro isToken
  obtain ⟨other, token, length, standsIn, found, answer, bound⟩ := took isToken
  exact ⟨other, token, length, standsIn, found, answer, Nat.le_trans bound le⟩

namespace Invoked

theorem failed (still : Still environment first before after) :
    Invoked environment first parent name before false after where
  toKept := still.toKept
  restored _ := still.tree_eq
  added absurd := by cases absurd
  took absurd := by cases absurd

/-- A rule that matched, and the whitespace that was skipped after it. -/
theorem succeeded (found : before.grammar.rule? name = some rule)
    (ready : Ready environment first parent before)
    (tried : Tried environment first rule parent before true middle)
    (skipped : Skipped environment first parent middle after) :
    Invoked environment first parent name before true after := by
  obtain ⟨working, semantic_eq, origin_eq⟩ := tried.working ready
  have total := working.trans skipped.toWorking
  have inside : before.tree.size < middle.tree.size := by
    have le := (tried.grown rfl).size_le
    rw [Tree.size_attach] at le
    exact le
  have kept := skipped.grown.start_eq inside
  obtain ⟨children_eq, start_eq⟩ := tried.attached ready
  obtain ⟨blanks, trailing_eq, allBlank⟩ := skipped.trailed
  refine ⟨total.toKept, fun absurd => ?_, fun _ => ?_, fun _ other same => ?_⟩
  · cases absurd
  · exact ⟨total.grown, total.isOpen, skipped.semantic_eq.trans semantic_eq,
      ⟨blanks, by rw [trailing_eq, children_eq], allBlank⟩, kept.1.trans start_eq, rule, found,
      kept.2.1.trans origin_eq⟩
  · obtain rfl := Option.some.inj (found.symm.trans same)
    exact (tried.took rfl).mono skipped.grown.stop_le

end Invoked

end Rulebook.Parse
