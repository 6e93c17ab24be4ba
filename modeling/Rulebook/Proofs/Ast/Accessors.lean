/-
This file says how the node of a sequence is put together. A match of a sequence has one semantic
child for each item, in the order of the items: a match of the rule of the item, or the mark that
an optional item matched nothing. The node leaves out some of the children, and names those of the
others that have been matched and whose items have an accessor. A name is an index among the
children of the node; if several items have the same accessor, it is that of the last of them that
has been matched.
-/

import Mathlib.Data.String.Basic
import Rulebook.Proofs.Ast.Composition
import Rulebook.Proofs.Ast.Depth
import Rulebook.Proofs.Parse.Matches

namespace Rulebook

open Match (Origin Tree)

/-! ### Sorted tables -/

namespace Sorted

variable {Value : Type} {key : String} {value : Value} {entry : String × Value}
  {table : List (String × Value)}

theorem mem_of_mem_put (member : entry ∈ put key value table) :
    entry = (key, value) ∨ entry ∈ table := by
  induction table with
  | nil => exact .inl (List.mem_singleton.mp member)
  | cons first rest inductionHypothesis =>
    rw [put] at member
    split at member
    · exact List.mem_cons.mp member
    · split at member
      · rcases List.mem_cons.mp member with same | later
        · exact .inl same
        · exact .inr (List.mem_cons_of_mem _ later)
      · rcases List.mem_cons.mp member with same | later
        · exact .inr (List.mem_cons.mpr (.inl same))
        · exact (inductionHypothesis later).imp_right (List.mem_cons_of_mem _)

/-- Putting a value under a key keeps a table sorted and free of repetition. -/
theorem pairwise_put (sorted : table.Pairwise fun entry other => entry.1 < other.1) (key : String)
    (value : Value) : (put key value table).Pairwise fun entry other => entry.1 < other.1 := by
  induction table with
  | nil => exact List.pairwise_singleton _ _
  | cons first rest inductionHypothesis =>
    obtain ⟨least, sortedRest⟩ := List.pairwise_cons.mp sorted
    rw [put]
    split
    · rename_i before
      refine List.pairwise_cons.mpr ⟨fun other member => ?_, sorted⟩
      rcases List.mem_cons.mp member with rfl | later
      · exact before
      · exact before.trans (least other later)
    · rename_i notBefore
      split
      · rename_i same
        exact List.pairwise_cons.mpr ⟨fun other member => same ▸ least other member, sortedRest⟩
      · rename_i distinct
        have after : first.1 < key := lt_of_le_of_ne (not_lt.mp notBefore) (Ne.symm distinct)
        refine List.pairwise_cons.mpr ⟨fun other member => ?_, inductionHypothesis sortedRest⟩
        rcases mem_of_mem_put member with rfl | later
        · exact after
        · exact least other later

end Sorted

/-! ### The last of some elements -/

/-- An index is that of the last element that passes a test. -/
structure IsLast {Element : Type} (test : Element → Bool) (elements : List Element)
    (index : Nat) : Prop where
  passes : ∃ element, elements[index]? = some element ∧ test element = true
  last : ∀ later element, index < later → elements[later]? = some element → test element = false

section

variable {Element : Type} {test : Element → Bool} {first : Element} {elements : List Element}
  {index : Nat}

theorem IsLast.lt_length (isLast : IsLast test elements index) : index < elements.length := by
  obtain ⟨element, found, -⟩ := isLast.passes
  exact (List.getElem?_eq_some_iff.mp found).1

/-- An element in front changes the index of the last one, or it is the last one itself. -/
theorem isLast_cons : IsLast test (first :: elements) index ↔
    (∃ place, index = place + 1 ∧ IsLast test elements place) ∨
      index = 0 ∧ test first = true ∧ ∀ element ∈ elements, test element = false := by
  constructor
  · rintro ⟨⟨element, found, passes⟩, last⟩
    cases index with
    | zero =>
      obtain rfl := Option.some.inj found
      refine .inr ⟨rfl, passes, fun element member => ?_⟩
      obtain ⟨place, found⟩ := List.getElem?_of_mem member
      exact last (place + 1) element (Nat.succ_pos place) found
    | succ place =>
      exact .inl ⟨place, rfl, ⟨element, found, passes⟩, fun later element less =>
        last (later + 1) element (Nat.succ_lt_succ less)⟩
  · rintro (⟨place, rfl, ⟨passes, last⟩⟩ | ⟨rfl, passes, none⟩)
    · refine ⟨passes, fun later element less found => ?_⟩
      cases later with
      | zero => cases less
      | succ later => exact last later element (Nat.lt_of_succ_lt_succ less) found
    · refine ⟨⟨first, rfl, passes⟩, fun later element less found => ?_⟩
      cases later with
      | zero => cases less
      | succ later => exact none element (List.mem_of_getElem? found)

theorem IsLast.exists_mem (isLast : IsLast test elements index) :
    ∃ element ∈ elements, test element = true := by
  obtain ⟨element, found, passes⟩ := isLast.passes
  exact ⟨element, List.mem_of_getElem? found, passes⟩

/-- If any element passes the test, then there is a last one. -/
theorem exists_isLast (some : ∃ element ∈ elements, test element = true) :
    ∃ index, IsLast test elements index := by
  induction elements with
  | nil =>
    obtain ⟨element, absurd, -⟩ := some
    cases absurd
  | cons first rest inductionHypothesis =>
    by_cases later : ∃ element ∈ rest, test element = true
    · obtain ⟨place, isLast⟩ := inductionHypothesis later
      exact ⟨place + 1, isLast_cons.mpr (.inl ⟨place, rfl, isLast⟩)⟩
    · have none : ∀ element ∈ rest, test element = false := fun element member =>
        Bool.eq_false_iff.mpr fun passes => later ⟨element, member, passes⟩
      obtain ⟨element, member, passes⟩ := some
      rcases List.mem_cons.mp member with rfl | member
      · exact ⟨0, isLast_cons.mpr (.inr ⟨rfl, passes, none⟩)⟩
      · exact absurd ⟨element, member, passes⟩ later

end

namespace Ast.Node

/-! ### Names of children -/

theorem has_iff_mem_keys (node : Node) (accessor : String) :
    node.has accessor = true ↔ accessor ∈ node.keys := by
  rw [has, keys, Option.isSome_iff_ne_none, Ne, List.lookup_eq_none_iff, List.mem_map]
  push Not
  refine exists_congr fun entry => and_congr_right fun _ => ?_
  rw [Ne, bne_iff_ne, not_not, eq_comm]

/-- If all names are indices of children, then there is a child of every name. -/
theorem has_iff_named {node : Node}
    (bounded : ∀ entry ∈ node.accessors, entry.2 < node.children.length) (accessor : String) :
    node.has accessor = true ↔ ∃ child, node.named? accessor = some child := by
  rw [has, named?, ← Option.isSome_iff_exists]
  cases found : node.accessors.lookup accessor with
  | none => rfl
  | some index =>
    obtain ⟨before, after, split_eq, -⟩ := List.lookup_eq_some_iff.mp found
    have listed : (accessor, index) ∈ node.accessors := by
      rw [split_eq]
      exact List.mem_append_right _ List.mem_cons_self
    rw [Option.bind_some, child?, List.getElem?_eq_getElem (bounded _ listed)]
    rfl

@[simp]
theorem isLambda_withSource (source : String) (node : Node) :
    (node.withSource source).isLambda = node.isLambda := by
  cases node <;> rfl

@[simp]
theorem accessors_withSource (source : String) (node : Node) :
    (node.withSource source).accessors = node.accessors := by
  cases node <;> rfl

end Ast.Node

namespace Ast.Builder

variable {builder : Builder} {build : Nat → Node} {names : List (String × Nat)} {count id : Nat}
  {part : SequenceItem × Nat} {parts : List (SequenceItem × Nat)} {items : List SequenceItem}
  {accessor : String}

/-! ### The names in a sequence -/

/-- The items whose children are not left out, with their children. -/
def retained (builder : Builder) (items : List SequenceItem) (id : Nat) :
    List (SequenceItem × Nat) :=
  (items.zip (builder.semantic id)).filter fun part => !builder.isHidden part.1 part.2

/-- An item has an accessor, and it has been matched. -/
def bears (build : Nat → Node) (accessor : String) (part : SequenceItem × Nat) : Bool :=
  part.1.accessor == some accessor && !(build part.2).isLambda

/-- The names after one more child, which may have one. -/
def named (build : Nat → Node) (names : List (String × Nat)) (count : Nat)
    (part : SequenceItem × Nat) : List (String × Nat) :=
  match part.1.accessor with
  | some accessor =>
    if (build part.2).isLambda then names else Sorted.put accessor count names
  | none => names

/-- The names after some more children. -/
def naming (build : Nat → Node) :
    List (String × Nat) → Nat → List (SequenceItem × Nat) → List (String × Nat)
  | names, _, [] => names
  | names, count, part :: rest => naming build (named build names count part) (count + 1) rest

/-- Only the items that are shown count for the names. -/
theorem sequenceParts_snd (names : List (String × Nat)) (count : Nat)
    (parts : List (SequenceItem × Nat)) :
    (builder.sequenceParts build names count parts).2 =
      naming build names count (parts.filter fun part => !builder.isHidden part.1 part.2) := by
  induction parts generalizing names count with
  | nil => rfl
  | cons part rest inductionHypothesis =>
    obtain ⟨item, child⟩ := part
    have hidden_eq : (item.required && (builder.tree.node child).isKeyword ||
      (builder.tree.node child).isWhitespaceToken) = builder.isHidden item child := rfl
    rw [sequenceParts, List.filter_cons, hidden_eq]
    cases builder.isHidden item child with
    | true => exact inductionHypothesis names count
    | false => exact inductionHypothesis _ (count + 1)

theorem lookup_named (names : List (String × Nat)) (count : Nat) (part : SequenceItem × Nat)
    (accessor : String) : (named build names count part).lookup accessor =
      if bears build accessor part then some count else names.lookup accessor := by
  rw [named, bears]
  cases part.1.accessor with
  | none => rfl
  | some own =>
    cases (build part.2).isLambda with
    | true => rw [Bool.not_true, Bool.and_false]; rfl
    | false =>
      rw [Bool.not_false, Bool.and_true]
      dsimp only
      rw [if_neg Bool.false_ne_true]
      by_cases same : own = accessor
      · rw [if_pos (beq_iff_eq.mpr (congrArg some same)), same, Sorted.lookup_put_self]
      · rw [if_neg fun equal => same (Option.some.inj (beq_iff_eq.mp equal)),
          Sorted.lookup_put_other (Ne.symm same)]

/-- A name is the index of the last child that bears it. If there is none, the name is what it was
before. -/
theorem lookup_naming (names : List (String × Nat)) (count : Nat)
    (parts : List (SequenceItem × Nat)) (accessor : String) (index : Nat) :
    (naming build names count parts).lookup accessor = some index ↔
      (∃ place, index = count + place ∧ IsLast (bears build accessor) parts place) ∨
        (∀ part ∈ parts, bears build accessor part = false) ∧
          names.lookup accessor = some index := by
  induction parts generalizing names count with
  | nil =>
    rw [naming]
    refine ⟨fun found => .inr ⟨List.forall_mem_nil _, found⟩, ?_⟩
    rintro (⟨place, -, isLast⟩ | ⟨-, found⟩)
    · exact absurd isLast.lt_length (Nat.not_lt_zero place)
    · exact found
  | cons part rest inductionHypothesis =>
    rw [naming, inductionHypothesis, lookup_named, List.forall_mem_cons]
    simp only [isLast_cons]
    cases bearing : bears build accessor part with
    | true =>
      rw [if_pos rfl, Option.some_inj]
      constructor
      · rintro (⟨place, rfl, isLast⟩ | ⟨none, rfl⟩)
        · exact .inl ⟨place + 1, Nat.add_right_comm count 1 place, .inl ⟨place, rfl, isLast⟩⟩
        · exact .inl ⟨0, rfl, .inr ⟨rfl, rfl, none⟩⟩
      · rintro (⟨_, rfl, ⟨place, rfl, isLast⟩ | ⟨rfl, -, none⟩⟩ | ⟨⟨absurd, -⟩, -⟩)
        · exact .inl ⟨place, (Nat.add_right_comm count 1 place).symm, isLast⟩
        · exact .inr ⟨none, rfl⟩
        · cases absurd
    | false =>
      rw [if_neg Bool.false_ne_true]
      constructor
      · rintro (⟨place, rfl, isLast⟩ | ⟨none, found⟩)
        · exact .inl ⟨place + 1, Nat.add_right_comm count 1 place, .inl ⟨place, rfl, isLast⟩⟩
        · exact .inr ⟨⟨rfl, none⟩, found⟩
      · rintro (⟨_, rfl, ⟨place, rfl, isLast⟩ | ⟨-, absurd, -⟩⟩ | ⟨⟨-, none⟩, found⟩)
        · exact .inl ⟨place, (Nat.add_right_comm count 1 place).symm, isLast⟩
        · cases absurd
        · exact .inr ⟨none, found⟩

/-- All names stay sorted, and those that are new are indices of the children. -/
theorem naming_inside (sorted : names.Pairwise fun entry other => entry.1 < other.1)
    (inside : ∀ entry ∈ names, entry.2 < count) :
    (naming build names count parts).Pairwise (fun entry other => entry.1 < other.1) ∧
      ∀ entry ∈ naming build names count parts, entry.2 < count + parts.length := by
  induction parts generalizing names count with
  | nil => exact ⟨sorted, inside⟩
  | cons part rest inductionHypothesis =>
    have step : (named build names count part).Pairwise (fun entry other => entry.1 < other.1) ∧
        ∀ entry ∈ named build names count part, entry.2 < count + 1 := by
      have earlier : ∀ entry ∈ names, entry.2 < count + 1 := fun entry member =>
        Nat.lt_succ_of_lt (inside entry member)
      rw [named]
      cases part.1.accessor with
      | none => exact ⟨sorted, earlier⟩
      | some accessor =>
        cases (build part.2).isLambda with
        | true => exact ⟨sorted, earlier⟩
        | false =>
          refine ⟨Sorted.pairwise_put sorted accessor count, fun entry member => ?_⟩
          rcases Sorted.mem_of_mem_put member with rfl | old
          · exact Nat.lt_succ_self count
          · exact earlier entry old
    rw [naming, List.length_cons, ← Nat.add_assoc, Nat.add_right_comm]
    exact inductionHypothesis step.1 step.2

/-! ### Which nodes are lambdas -/

section

variable {chars : List Char} (intact : builder.tree.Intact chars)
include intact

/-- The mark of an item that matched nothing has a lambda for its node. -/
theorem build_of_lambda {name : String}
    (isLambda : (builder.tree.node id).origin = .lambda name) :
    builder.build id = .missing name := by
  obtain ⟨depth, size_eq⟩ : ∃ depth, builder.tree.size = depth + 1 :=
    ⟨builder.tree.size - 1, by have := intact.nonempty; omega⟩
  rw [build, size_eq, buildWithin, isLambda]

/-- The node of a match is no lambda: what is passed on is the node of a match. -/
theorem isLambda_build_of_rule {rule : Rule}
    (made : ∀ other, id ≤ other → builder.tree.WellMade other)
    (isRule : (builder.tree.node id).origin = .rule rule) :
    (builder.build id).isLambda = false := by
  induction below : builder.tree.size - id using Nat.strongRecOn generalizing id rule with
  | ind _ inductionHypothesis =>
    have composed : Composed builder builder.build rule id
        (builder.ruleNode builder.build rule id) :=
      composed_ruleNode (made id (Nat.le_refl id)) isRule
    rw [build_of_rule intact isRule, Node.isLambda_withSource]
    generalize builder.ruleNode builder.build rule id = node at composed
    cases composed with
    | token => rfl
    | gathered => rfl
    | applied => rfl
    | @passed child passesOn alone =>
      obtain ⟨less, inside⟩ : id < child ∧ child < builder.tree.size :=
        lt_of_mem_semantic intact (by rw [alone]; exact List.mem_singleton_self child)
      obtain ⟨parts, -, stand⟩ := (made id (Nat.le_refl id)).parts rule isRule
      rw [semantic] at alone
      rw [alone] at stand
      obtain ⟨part, _, ⟨name, -, ⟨inner, isInner, -⟩ | ⟨lacks, -⟩⟩, -, -⟩ :=
        List.forall₂_cons_right_iff.mp stand
      · exact inductionHypothesis _ (by omega)
          (fun other le => made other (Nat.le_trans (Nat.le_of_lt less) le)) isInner rfl
      · -- Only sequences have parts that may match nothing, and they pass nothing on.
        cases kind : rule.kind with
        | sequence items =>
          rw [kind] at passesOn
          cases passesOn
        | _ =>
          rw [kind] at lacks
          cases lacks

end

/-! ### Matches of sequences -/

/-- A semantic child is a match of the rule of an item, or the mark that the item, which is
optional, matched nothing. -/
def Answers (grammar : Grammar) (tree : Tree) (item : SequenceItem) (child : Nat) : Prop :=
  Parse.IsMatch grammar item.rule tree child ∨
    item.required = false ∧ (tree.node child).origin = .lambda item.rule

/-- A match of a sequence has one semantic child for each item. Its node has the nodes of those
that are not hidden for children, and finds one of them by an accessor: the last one that was
matched for an item with this accessor. -/
structure Aligns (builder : Builder) (grammar : Grammar) (items : List SequenceItem)
    (id : Nat) : Prop where
  answered : List.Forall₂ (Answers grammar builder.tree) items (builder.semantic id)
  /-- A node is a lambda if and only if its item matched nothing. -/
  lambda_eq : ∀ child ∈ builder.semantic id,
    (builder.build child).isLambda = (builder.tree.node child).isLambda
  children_eq : (builder.build id).children =
    (builder.retained items id).map fun part => builder.build part.2
  keys_iff : ∀ accessor, accessor ∈ (builder.build id).keys ↔
    ∃ part ∈ builder.retained items id, bears builder.build accessor part = true
  lookup_iff : ∀ accessor index, (builder.build id).accessors.lookup accessor = some index ↔
    IsLast (bears builder.build accessor) (builder.retained items id) index
  /-- The names are sorted, so none of them is there twice. -/
  sorted : (builder.build id).keys.Pairwise (· < ·)
  inside : ∀ entry ∈ (builder.build id).accessors, entry.2 < (builder.build id).size
  named_iff : ∀ accessor, (builder.build id).has accessor = true ↔
    ∃ child, (builder.build id).named? accessor = some child

/-- A match of a sequence has one semantic child for each item. -/
theorem answered_of_matchFrom {grammar : Grammar} {rule : Rule}
    (isMatch : Parse.MatchFrom grammar rule builder.tree id) (kind : rule.kind = .sequence items) :
    List.Forall₂ (Answers grammar builder.tree) items (builder.semantic id) := by
  obtain ⟨parts, takes, stand⟩ := (isMatch.made id (Nat.le_refl id)).parts rule isMatch.isRule
  have each : ∀ part child, builder.tree.StandsFor rule.kind part child →
      child ∈ builder.semantic id → ∀ index item, part = .item index →
        items[index]? = some item → Answers grammar builder.tree item child := by
    rintro part child stands listed index item rfl found
    have asked : rule.kind.partName? (.item index) = some item.rule := by
      rw [kind, RuleKind.partName?, found]
      rfl
    rcases isMatch.answers (Array.mem_toList_iff.mp listed) stands asked with
      matched | ⟨lacks, isLambda⟩
    · exact .inl matched
    · rw [kind, RuleKind.mayLack, found] at lacks
      exact .inr ⟨(Bool.not_eq_true' _).mp lacks, isLambda⟩
  rw [kind] at takes
  obtain rfl : parts = (List.range items.length).map .item := takes
  obtain ⟨length_eq, stand⟩ := List.forall₂_iff_get.mp stand
  rw [List.length_map, List.length_range] at length_eq
  refine List.forall₂_iff_get.mpr ⟨length_eq, fun index bound within => ?_⟩
  have bound' : index < ((List.range items.length).map Part.item).length := by
    rwa [List.length_map, List.length_range]
  refine each _ _ (stand index bound' within) (List.get_mem _ _) index _ ?_ ?_
  · simp
  · exact List.getElem?_eq_getElem bound

theorem exists_answers {grammar : Grammar} {child : Nat}
    (answered : List.Forall₂ (Answers grammar builder.tree) items (builder.semantic id))
    (listed : child ∈ builder.semantic id) : ∃ item, Answers grammar builder.tree item child := by
  obtain ⟨length_eq, answered⟩ := List.forall₂_iff_get.mp answered
  obtain ⟨⟨index, bound⟩, rfl⟩ := List.get_of_mem listed
  exact ⟨_, answered index (length_eq ▸ bound) bound⟩

/-- The node of a semantic child is a lambda if and only if the child is the mark of an item that
matched nothing. -/
theorem Answers.isLambda_build {chars : List Char} {grammar : Grammar} {item : SequenceItem}
    {child : Nat} (answers : Answers grammar builder.tree item child)
    (intact : builder.tree.Intact chars)
    (made : ∀ other, child ≤ other → builder.tree.WellMade other) :
    (builder.build child).isLambda = (builder.tree.node child).isLambda := by
  rw [Match.Node.isLambda]
  rcases answers with ⟨rule, -, isRule⟩ | ⟨-, isLambda⟩
  · rw [isLambda_build_of_rule intact made isRule, isRule]
  · rw [build_of_lambda intact isLambda, isLambda]
    rfl

/-- A match of a sequence and its node are as they should be. -/
theorem aligns_of_matchFrom {chars : List Char} {grammar : Grammar} {rule : Rule}
    (intact : builder.tree.Intact chars)
    (isMatch : Parse.MatchFrom grammar rule builder.tree id) (kind : rule.kind = .sequence items) :
    builder.Aligns grammar items id := by
  have build_eq : builder.build id =
      (builder.sequenceNode builder.build rule.name items id).withSource
        (builder.sourceText id) := by
    rw [build_of_rule intact isMatch.isRule, ruleNode, kind]
  have children_eq : (builder.build id).children =
      (builder.retained items id).map fun part => builder.build part.2 := by
    rw [build_eq, Node.children_withSource]
    exact (builder.sequenceParts_fst [] 0 _).trans List.map_map
  have accessors_eq : (builder.build id).accessors =
      naming builder.build [] 0 (builder.retained items id) := by
    rw [build_eq, Node.accessors_withSource]
    exact sequenceParts_snd [] 0 _
  have lookup_iff : ∀ accessor index, (builder.build id).accessors.lookup accessor = some index ↔
      IsLast (bears builder.build accessor) (builder.retained items id) index := by
    intro accessor index
    rw [accessors_eq, lookup_naming]
    refine ⟨?_, fun isLast => .inl ⟨index, (Nat.zero_add index).symm, isLast⟩⟩
    rintro (⟨place, rfl, isLast⟩ | ⟨-, absurd⟩)
    · rwa [Nat.zero_add]
    · cases absurd
  obtain ⟨sorted, inside⟩ : (builder.build id).accessors.Pairwise
      (fun entry other => entry.1 < other.1) ∧
        ∀ entry ∈ (builder.build id).accessors, entry.2 < (builder.build id).size := by
    rw [accessors_eq, Node.size, children_eq, List.length_map, ← Nat.zero_add (List.length _)]
    exact naming_inside .nil (List.forall_mem_nil _)
  refine ⟨answered_of_matchFrom isMatch kind, fun child listed => ?_, children_eq,
    fun accessor => ?_, lookup_iff, List.pairwise_map.mpr sorted, inside,
    Node.has_iff_named inside⟩
  · obtain ⟨item, answers⟩ := exists_answers (answered_of_matchFrom isMatch kind) listed
    have less := (lt_of_mem_semantic intact listed).1
    exact answers.isLambda_build intact fun other le =>
      isMatch.made other (Nat.le_trans (Nat.le_of_lt less) le)
  · rw [← Node.has_iff_mem_keys, Node.has, Option.isSome_iff_exists,
      exists_congr (lookup_iff accessor)]
    refine ⟨?_, exists_isLast⟩
    rintro ⟨index, isLast⟩
    exact isLast.exists_mem

end Ast.Builder

namespace Parse

/-- All matches of sequences have one semantic child for each item, and nodes that show the
children that are not hidden and find the last one that was matched for an accessor. -/
theorem sequences_align_with_items (input : String) (registry : Registry)
    (options : ParseOptions) (tracing : Bool) (first : Grammar) :
    OfMatches RuleKind.sequence (Environment.ofText input registry options tracing) first
      fun grammar items builder id => builder.Aligns grammar items id := by
  exact ofMatches_of_matchFrom (Environment.faithful_ofText input registry options tracing)
    (fun _ _ => ⟨rfl, rfl⟩) fun _ _ _ _ _ intact isMatch kind =>
      Ast.Builder.aligns_of_matchFrom intact isMatch kind

/-- Two items around a keyword. Between them may be a third one, which has the same accessor as the
first. -/
def bindings : Grammar :=
  .ofCalls Workspace.compile "g" [.keyword "=", .token "x" "x" false, .token "y" "y" false,
    .sequence "binding" [{ rule := "x", accessor := some "left" }, { rule := "'='" },
      { rule := "y", required := false, accessor := some "left" },
      { rule := "x", accessor := some "right" }], .startSymbol "binding"]

/-- The keyword is left out, and what was left out is not found by its accessor. -/
theorem binding_aligns_with_items : ∃ result items grammar,
    (run (Environment.ofText "x=x" {} {} false) 6 bindings none).answer = .parsed result ∧
      (Ast.Builder.mk result.source result.tree).Aligns grammar items 1 ∧
      result.toAst.children.map (·.isLambda) = [false, true, false] ∧
      result.toAst.accessors = [("left", 0), ("right", 2)] := by
  obtain ⟨result, parsed, isSequence, lambdas, accessors⟩ : ∃ result,
      (run (Environment.ofText "x=x" {} {} false) 6 bindings none).answer = .parsed result ∧
        (result.tree.node 1).rule?.any (·.kind.label == "sequence") = true ∧
        result.toAst.children.map (·.isLambda) = [false, true, false] ∧
        result.toAst.accessors = [("left", 0), ("right", 2)] := by
    decide +kernel
  obtain ⟨rule, isRule, labelled⟩ := Match.Node.exists_rule isSequence
  cases kind : rule.kind with
  | sequence items =>
    obtain ⟨grammar, -, -, aligns⟩ := (sequences_align_with_items "x=x" {} {} false bindings).2 6
      none result parsed 1 rule items isRule kind
    exact ⟨result, items, grammar, parsed, aligns, lambdas, accessors⟩
  | _ =>
    rw [kind] at labelled
    cases labelled

end Parse

end Rulebook
