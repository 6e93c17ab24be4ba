/-
This file says what a match is made up of. A rule of each kind asks for parts: items, and
separators and delimiters around them. The kinds differ in which parts they take in which order,
and in which rule stands for a part. A node of a match tree is well made if its semantic children
stand for parts that its rule may take, one by one.

Whether a node is well made depends on the node and on what its children stand for. So a node
stays well made while work goes on at a node above it.
-/

import Rulebook.Proofs.Tree.Outline

namespace Rulebook

/-! ### The parts of a rule -/

/-- Something that a rule asks for. The operators of an operator are its separators, and its
operands are its items. -/
inductive Part where
  | opening
  | separator
  | closing
  /-- An item, or an alternative, by its number. Where all items are alike, the number is
  nought. -/
  | item (index : Nat)
  deriving DecidableEq

namespace Part

/-- The part is an item. -/
def isItem : Part → Bool
  | .item _ => true
  | _ => false

/-- A part that is there if there is a rule for it. -/
def whenAsked (rule : Option String) (part : Part) : List Part :=
  if rule.isSome then [part] else []

/-- Some parts with separators between them, if there are separators. -/
def separated (separator : Option String) (parts : List Part) : List Part :=
  if separator.isSome then parts.intersperse .separator else parts

/-- Some parts with a separator after each of them, if there are separators. -/
def followed (separator : Option String) (parts : List Part) : List Part :=
  if parts = [] then [] else separated separator parts ++ whenAsked separator .separator

theorem followed_of_ne_nil (separator : Option String) {parts : List Part}
    (nonempty : parts ≠ []) :
    followed separator parts = separated separator parts ++ whenAsked separator .separator :=
  if_neg nonempty

/-- Without separators, or without parts, no separator stands last. -/
theorem followed_of_none {separator : Option String} {parts : List Part}
    (none : separator = none ∨ parts = []) :
    followed separator parts = separated separator parts := by
  rw [followed, separated, whenAsked]
  rcases none with rfl | rfl <;> simp

/-- One more part comes after the separators. -/
theorem separated_concat (separator : Option String) (parts : List Part) (part : Part) :
    separated separator (parts ++ [part]) = followed separator parts ++ [part] := by
  rw [followed, separated, separated, whenAsked]
  cases separator with
  | none => simp
  | some separator =>
    simp only [Option.isSome_some, if_true]
    induction parts with
    | nil => rfl
    | cons first rest inductionHypothesis =>
      cases rest with
      | nil => rfl
      | cons second rest =>
        simp only [List.cons_append, List.intersperse_cons_cons, reduceCtorEq, if_false]
          at inductionHypothesis ⊢
        rw [inductionHypothesis]

/-- One more of some like parts comes after a separator. -/
theorem separated_replicate (separator : Option String) (count : Nat) (part : Part) :
    separated separator (List.replicate (count + 1 + 1) part) =
      separated separator (List.replicate (count + 1) part) ++ whenAsked separator .separator ++
        [part] := by
  have concat : List.replicate (count + 1 + 1) part = List.replicate (count + 1) part ++ [part] :=
    List.replicate_succ'
  rw [concat, separated_concat, followed_of_ne_nil separator (by simp)]

end Part

open Rulebook.Part (whenAsked separated)

namespace RuleKind

/-- The name of the rule that is asked for as a part. -/
def partName? : RuleKind → Part → Option String
  | .sequence items, .item index => items[index]?.map (·.rule)
  | .choice rule, .item index => rule.alternatives[index]?
  | .list rule, .opening => rule.opening
  | .list rule, .separator => rule.separator
  | .list rule, .closing => rule.closing
  | .list rule, .item _ => some rule.item
  | .set rule, .opening => rule.opening
  | .set rule, .separator => rule.separator
  | .set rule, .closing => rule.closing
  | .set rule, .item index => rule.items[index]?
  | .operator rule, .separator => some rule.operator
  | .operator rule, .item _ => some rule.operand
  | .imported rule, .item _ => some rule.rule
  | _, _ => none

/-- A part that may have matched nothing: an optional item of a sequence. -/
def mayLack : RuleKind → Part → Bool
  | .sequence items, .item index => items[index]?.any (!·.required)
  | _, _ => false

/-- The parts that a rule may take, in their order. A sequence takes all of its items. A choice
takes one alternative, and an import the one rule that it names. An operator takes operands with
operators between them. A list takes items with separators between them, and perhaps one more
separator; a set takes some of its items, each at most once; and both stand between their
delimiters. -/
def Takes : RuleKind → List Part → Prop
  | .token _, parts => parts = []
  | .sequence items, parts => parts = (List.range items.length).map .item
  | .choice rule, parts => ∃ index < rule.alternatives.length, parts = [.item index]
  | .imported _, parts => parts = [.item 0]
  | .operator rule, parts =>
    ∃ count, parts = separated (some rule.operator) (List.replicate (count + 1) (.item 0))
  | .list rule, parts => ∃ count trailing,
    (count = 0 → rule.nullable = true ∧ trailing = []) ∧
    (trailing = [] ∨
      trailing = [.separator] ∧ rule.separator.isSome = true ∧ rule.allowTrailing = true) ∧
    parts = whenAsked rule.opening .opening ++
      (separated rule.separator (List.replicate count (.item 0)) ++ trailing) ++
        whenAsked rule.closing .closing
  | .set rule, parts => ∃ slots : List Nat,
    slots.Nodup ∧ (∀ slot ∈ slots, slot < rule.items.length) ∧
    parts = whenAsked rule.opening .opening ++ separated rule.separator (slots.map .item) ++
      whenAsked rule.closing .closing

end RuleKind

namespace Match.Tree

variable {tree before after : Tree} {node id child : Nat} {kind : RuleKind} {part : Part}
  {parts : List Part} {children : List Nat}

/-! ### Well-made nodes -/

/-- A node stands for a part of a rule: it is a match of the rule that is asked for, or the mark
of an item that matched nothing. -/
def StandsFor (tree : Tree) (kind : RuleKind) (part : Part) (child : Nat) : Prop :=
  ∃ name, kind.partName? part = some name ∧
    ((∃ rule, (tree.node child).origin = .rule rule ∧ rule.name = name) ∨
      kind.mayLack part = true ∧ (tree.node child).origin = .lambda name)

/-- Nothing was skipped in a node before its first semantic child. -/
def Prompt (tree : Tree) (node : Nat) : Prop :=
  (tree.node node).children[0]? = (tree.node node).semantic[0]?

/-- A node is well made: its semantic children are what its rule asks for, a token has matched
there if its rule is one or if it was skipped, and whitespace was skipped before the first semantic
child by an import only. The root has no more than one semantic child. -/
structure WellMade (tree : Tree) (id : Nat) : Prop where
  skipped : (tree.node id).whitespace = true → (tree.node id).terminal = true
  root : (tree.node id).origin = .root → (tree.node id).semantic.size ≤ 1
  lambda : ∀ name, (tree.node id).origin = .lambda name → (tree.node id).children = #[]
  terminal : ∀ rule, (tree.node id).origin = .rule rule → rule.isToken = true →
    (tree.node id).terminal = true
  parts : ∀ rule, (tree.node id).origin = .rule rule → ∃ parts, rule.kind.Takes parts ∧
    List.Forall₂ (tree.StandsFor rule.kind) parts (tree.node id).semantic.toList
  prompt : ∀ rule, (tree.node id).origin = .rule rule →
    (∀ target, rule.kind ≠ .imported target) → tree.Prompt id

/-- If one child is semantic, then whitespace was skipped before it, or nothing. -/
theorem Intact.skipped_before {chars : List Char} (intact : tree.Intact chars)
    (alone : (tree.node id).semantic.toList = [child]) :
    ∃ blanks later, (tree.node id).children.toList = blanks ++ child :: later ∧
      (∀ blank ∈ blanks, (tree.node blank).whitespace = true) ∧
      (tree.node child).whitespace = false ∧ (tree.Prompt id → blanks = []) := by
  have kept := alone
  rw [intact.semantic_eq id] at kept
  obtain ⟨blanks, later, split, flagged, unskipped, -⟩ := List.filter_eq_cons_iff.mp kept
  rw [Bool.not_eq_true'] at unskipped
  have skipped : ∀ blank ∈ blanks, (tree.node blank).whitespace = true := by
    intro blank member
    have flag := flagged blank member
    rwa [Bool.not_eq_true', Bool.not_eq_false] at flag
  refine ⟨blanks, later, split, skipped, unskipped, fun prompt => ?_⟩
  -- What was skipped first would be the semantic child.
  cases blanks with
  | nil => rfl
  | cons blank rest =>
    rw [Prompt, ← Array.getElem?_toList, ← Array.getElem?_toList, split, alone] at prompt
    have flag := skipped blank List.mem_cons_self
    rw [Option.some.inj prompt, unskipped] at flag
    cases flag

theorem StandsFor.of_origin (stands : before.StandsFor kind part child)
    (origin_eq : (after.node child).origin = (before.node child).origin) :
    after.StandsFor kind part child := by
  obtain ⟨name, asked, answer⟩ := stands
  exact ⟨name, asked, by rwa [origin_eq]⟩

theorem inside_of_rule {rule : Rule} (isRule : (tree.node id).origin = .rule rule) :
    id < tree.size := by
  by_contra outside
  rw [node_of_size_le (Nat.le_of_not_lt outside)] at isRule
  cases isRule

/-- What stands for a part is in the tree. -/
theorem StandsFor.inside (stands : tree.StandsFor kind part child) : child < tree.size := by
  by_contra outside
  obtain ⟨name, -, ⟨rule, isRule, -⟩ | ⟨-, isLambda⟩⟩ := stands
  · exact outside (inside_of_rule isRule)
  · rw [node_of_size_le (Nat.le_of_not_lt outside)] at isLambda
    cases isLambda

theorem StandsFor.grown (stands : before.StandsFor kind part child)
    (grown : Grown node before after) : after.StandsFor kind part child :=
  stands.of_origin (grown.start_eq stands.inside).2.1

/-- A token has no parts. -/
theorem wellMade_of_terminal {chars : List Char} (intact : tree.Intact chars)
    (terminal : (tree.node id).terminal = true) : tree.WellMade id := by
  obtain ⟨childless, self, isSelf, isToken⟩ := intact.terminal id terminal
  have empty : (tree.node id).semantic = #[] := by
    rw [← Array.toList_inj, intact.semantic_eq id, childless]
    rfl
  refine ⟨fun _ => terminal, fun _ => ?_, fun _ _ => childless, fun _ _ _ => terminal,
    fun rule isRule => ⟨[], ?_, ?_⟩, fun _ _ _ => ?_⟩
  · rw [empty]
    exact Nat.zero_le 1
  · obtain rfl : self = rule := by
      rw [isSelf] at isRule
      exact Origin.rule.inj isRule
    rw [Rule.isToken, Rule.token?] at isToken
    cases kind : self.kind with
    | token token => rfl
    | _ => simp [kind] at isToken
  · rw [empty]
    exact .nil
  · rw [Prompt, childless, empty]

/-- The mark of a missing item is well made. -/
theorem wellMade_of_lambda {name : String} (isLambda : (tree.node id).origin = .lambda name)
    (kept : (tree.node id).whitespace = false) (childless : (tree.node id).children = #[]) :
    tree.WellMade id where
  skipped absurd := by rw [kept] at absurd; cases absurd
  root absurd := by rw [isLambda] at absurd; cases absurd
  lambda _ _ := childless
  terminal _ absurd := by rw [isLambda] at absurd; cases absurd
  parts _ absurd := by rw [isLambda] at absurd; cases absurd
  prompt _ absurd := by rw [isLambda] at absurd; cases absurd

/-- The root is well made if it has no more than one semantic child. -/
theorem wellMade_of_root (isRoot : (tree.node id).origin = .root)
    (kept : (tree.node id).whitespace = false) (few : (tree.node id).semantic.size ≤ 1) :
    tree.WellMade id where
  skipped absurd := by rw [kept] at absurd; cases absurd
  root _ := few
  lambda _ absurd := by rw [isRoot] at absurd; cases absurd
  terminal _ absurd := by rw [isRoot] at absurd; cases absurd
  parts _ absurd := by rw [isRoot] at absurd; cases absurd
  prompt _ absurd := by rw [isRoot] at absurd; cases absurd

/-- There is nothing to say of what is not in the tree. -/
theorem wellMade_of_size_le (outside : tree.size ≤ id) : tree.WellMade id := by
  have node_eq := node_of_size_le outside
  refine wellMade_of_root ?_ ?_ ?_
  · rw [node_eq]
    rfl
  · rw [node_eq]
    rfl
  · rw [node_eq]
    exact Nat.zero_le 1

/-- A node stays well made while there is work at a node before it. -/
theorem WellMade.grown (made : before.WellMade id) (grown : Grown node before after)
    (above : node < id) (inside : id < before.size) : after.WellMade id := by
  have same := grown.node_after above inside
  refine ⟨?_, ?_, ?_, ?_, fun rule isRule => ?_, ?_⟩
  · rw [same]
    exact made.skipped
  · rw [same]
    exact made.root
  · rw [same]
    exact made.lambda
  · rw [same]
    exact made.terminal
  · rw [same] at isRule ⊢
    obtain ⟨parts, takes, stand⟩ := made.parts rule isRule
    exact ⟨parts, takes, stand.imp fun _ _ stands => stands.grown grown⟩
  · rw [Prompt, same]
    exact made.prompt

/-! ### New nodes -/

/-- All nodes from an index on are well made. -/
def Formed (size : Nat) (tree : Tree) : Prop :=
  ∀ id, size ≤ id → id < tree.size → tree.WellMade id

/-- Work at a node before the index adds to the nodes after it. -/
theorem Formed.grown {size : Nat} (formed : before.Formed size) (grown : Grown node before after)
    (above : node < size) (new : after.Formed before.size) : after.Formed size := by
  intro id le inside
  by_cases old : id < before.size
  · exact (formed id le old).grown grown (Nat.lt_of_lt_of_le above le) old
  · exact new id (Nat.le_of_not_lt old) inside

theorem listed_of_mem_descendantsWithin {depth top : Nat}
    (member : id ∈ tree.descendantsWithin depth top) :
    id = top ∨ ∃ parent, id ∈ (tree.node parent).children := by
  induction depth generalizing top with
  | zero => cases member
  | succ depth inductionHypothesis =>
    rw [descendantsWithin] at member
    rcases List.mem_cons.mp member with same | below
    · exact .inl same
    · obtain ⟨child, listed, member⟩ := List.mem_flatMap.mp below
      rcases inductionHypothesis member with rfl | deeper
      · exact .inr ⟨top, Array.mem_toList_iff.mp listed⟩
      · exact .inr deeper

/-- Every node but the root is listed by its parent. -/
theorem Intact.listed {chars : List Char} (intact : tree.Intact chars) (inside : id < tree.size)
    (notRoot : id ≠ root) : ∃ parent, id ∈ (tree.node parent).children := by
  have member : id ∈ tree.reachable := by
    rw [intact.listing]
    exact List.mem_range.mpr inside
  exact (listed_of_mem_descendantsWithin member).resolve_left notRoot

/-- If a node has been given tokens only, then all that is new are tokens: a token has no
children. -/
theorem Grown.terminal_of_new {chars : List Char} (grown : Grown node before after)
    (ordered : ∀ id, ∀ child ∈ (before.node id).children, child < before.size)
    (intact : after.Intact chars)
    (tokens : ∀ child ∈ (after.node node).children, before.size ≤ child →
      (after.node child).terminal = true) (new : before.size ≤ id) (inside : id < after.size) :
    (after.node id).terminal = true := by
  induction id using Nat.strongRecOn with
  | ind id inductionHypothesis =>
    obtain ⟨parent, listed⟩ := intact.listed inside (by
      have := grown.inside
      rw [root]
      omega)
    by_cases same : parent = node
    · rw [same] at listed
      exact tokens id listed new
    · by_cases old : parent < before.size
      · rw [(grown.children_eq old same).1] at listed
        exact absurd (ordered parent id listed) (Nat.not_lt_of_le new)
      · have less := intact.lt_of_child listed
        have matched := inductionHypothesis parent less (Nat.le_of_not_lt old)
          (Nat.lt_trans less inside)
        rw [(intact.terminal parent matched).1] at listed
        exact absurd listed (Array.not_mem_empty id)

/-- What is skipped at the end of a node are tokens. -/
theorem Trailed.terminal_of_new {chars : List Char} (trailed : Trailed node before after)
    (intact : before.Intact chars) (grown : Grown node before after)
    (intact' : after.Intact chars) (new : before.size ≤ id) (inside : id < after.size) :
    (after.node id).terminal = true := by
  obtain ⟨blanks, children_eq, blank⟩ := trailed
  refine grown.terminal_of_new (fun id child listed => (intact.ordered id child listed).1)
    intact' (fun child listed new => ?_) new inside
  rw [children_eq] at listed
  rcases Array.mem_append.mp listed with old | late
  · exact absurd (intact.ordered node child old).1 (Nat.not_lt_of_le new)
  · exact (blank child late).terminal

/-- What is skipped at the end of a node is well made. -/
theorem Trailed.formed {chars : List Char} (trailed : Trailed node before after)
    (intact : before.Intact chars) (grown : Grown node before after)
    (intact' : after.Intact chars) : after.Formed before.size :=
  fun _ new inside => wellMade_of_terminal intact'
    (trailed.terminal_of_new intact grown intact' new inside)

/-! ### A node in the making -/

/-- A node has been given semantic children that stand for some parts of a rule, and all nodes
from an index on are well made. -/
structure Stocked (tree : Tree) (kind : RuleKind) (node : Nat) (parts : List Part) (size : Nat) :
    Prop where
  stand : List.Forall₂ (tree.StandsFor kind) parts (tree.node node).semantic.toList
  prompt : (∀ target, kind ≠ .imported target) → tree.Prompt node
  formed : tree.Formed size

/-- A node that has just been attached has nothing yet. -/
theorem stocked_nil (childless : (tree.node node).children = #[])
    (bare : (tree.node node).semantic = #[]) : tree.Stocked kind node [] tree.size where
  stand := by
    rw [bare]
    exact .nil
  prompt _ := by rw [Prompt, childless, bare]
  formed _ new inside := absurd inside (Nat.not_lt_of_le new)

/-- One more child, and what is skipped after it, does not come first if something else did. -/
theorem Prompt.push {blanks : Array Nat} (prompt : before.Prompt node)
    (children_eq : (after.node node).children =
      (before.node node).children.push child ++ blanks)
    (semantic_eq : (after.node node).semantic = (before.node node).semantic.push child) :
    after.Prompt node := by
  rw [Prompt] at prompt ⊢
  rw [children_eq, semantic_eq, Array.getElem?_append_left (by simp), Array.getElem?_push,
    Array.getElem?_push, prompt]
  have empty : (before.node node).children.size = 0 ↔ (before.node node).semantic.size = 0 := by
    rw [← Nat.le_zero, ← Nat.le_zero, ← Array.getElem?_eq_none_iff,
      ← Array.getElem?_eq_none_iff, prompt]
  by_cases none : (before.node node).children.size = 0
  · rw [if_pos none.symm, if_pos (empty.mp none).symm]
  · rw [if_neg (Ne.symm none), if_neg (Ne.symm fun none' => none (empty.mpr none'))]

namespace Stocked

variable {size : Nat}

/-- One more semantic child stands for one more part. -/
theorem push (stocked : before.Stocked kind node parts size) (blanks : Array Nat)
    (grown : Grown node before after) (above : node < size)
    (children_eq : (after.node node).children =
      (before.node node).children.push child ++ blanks)
    (semantic_eq : (after.node node).semantic = (before.node node).semantic.push child)
    (stands : after.StandsFor kind part child) (formed : after.Formed before.size) :
    after.Stocked kind node (parts ++ [part]) size where
  stand := by
    rw [semantic_eq, Array.toList_push]
    exact List.rel_append (stocked.stand.imp fun _ _ stands => stands.grown grown)
      (.cons stands .nil)
  prompt plain := (stocked.prompt plain).push children_eq semantic_eq
  formed := stocked.formed.grown grown above formed

/-- The mark of an item that matched nothing stands for an item that may be missing. -/
theorem leftOut {name : String} (stocked : before.Stocked kind node parts size)
    (rising : before.Rising) (inside : node < before.size) (above : node < size)
    (asked : kind.partName? part = some name) (lacks : kind.mayLack part = true) :
    (before.attach node (.lambda name)).Stocked kind node (parts ++ [part]) size := by
  have new := node_attach_new inside (.lambda name)
  have origin_eq : ((before.attach node (.lambda name)).node before.size).origin =
      .lambda name := by rw [new]
  refine stocked.push #[] (grown_attach rising inside) above ?_ ?_
    ⟨name, asked, .inr ⟨lacks, origin_eq⟩⟩ fun id first bound => ?_
  · rw [node_attach_parent inside, Array.append_empty]
    rfl
  · rw [node_attach_parent inside]
    rfl
  · obtain rfl : id = before.size := by
      rw [size_attach] at bound
      omega
    exact wellMade_of_lambda origin_eq (by rw [new]) (by rw [new])

/-- Only an import skips whitespace before it has a semantic child. -/
theorem trailed {chars : List Char} {target : ImportRule}
    (stocked : before.Stocked (.imported target) node parts size)
    (trailed : Trailed node before after)
    (semantic_eq : (after.node node).semantic = (before.node node).semantic)
    (intact : before.Intact chars) (grown : Grown node before after) (intact' : after.Intact chars)
    (above : node < size) : after.Stocked (.imported target) node parts size where
  stand := by
    rw [semantic_eq]
    exact stocked.stand.imp fun _ _ stands => stands.grown grown
  prompt plain := absurd rfl (plain target)
  formed := stocked.formed.grown grown above (trailed.formed intact grown intact')

/-- A node whose parts its rule may take is well made. -/
theorem wellMade {rule : Rule} (stocked : tree.Stocked rule.kind node parts size)
    (isRule : (tree.node node).origin = .rule rule) (notToken : rule.isToken = false)
    (kept : (tree.node node).whitespace = false) (takes : rule.kind.Takes parts) :
    tree.WellMade node := by
  have self : ∀ other, (tree.node node).origin = .rule other → rule = other := by
    intro other isOther
    rw [isRule] at isOther
    exact Origin.rule.inj isOther
  refine ⟨fun absurd => ?_, fun absurd => ?_, fun name absurd => ?_,
    fun other isOther isToken => ?_, fun other isOther => ?_, fun other isOther => ?_⟩
  · rw [kept] at absurd
    cases absurd
  · rw [isRule] at absurd
    cases absurd
  · rw [isRule] at absurd
    cases absurd
  · obtain rfl := self other isOther
    rw [notToken] at isToken
    cases isToken
  · obtain rfl := self other isOther
    exact ⟨parts, takes, stocked.stand⟩
  · obtain rfl := self other isOther
    exact stocked.prompt

end Stocked

end Match.Tree

end Rulebook
