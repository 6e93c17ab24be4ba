/-
This file says which matches have no part in the syntax tree. Every semantic child of a match
stands for a part of the rule. A sequence leaves out keywords that it requires, a list and a set
leave out their delimiters and separators, and all three leave out whitespace tokens. The other
kinds leave out nothing.

So a token is in the syntax tree if it was not skipped and if nothing on the way from the root
is left out. A list must not ask for the same rule as an item and as a separator, for it knows
a separator by its name.
-/

import Rulebook.Proofs.Ast.Leaves
import Rulebook.Proofs.Parse.Assembly

namespace Rulebook

open Match (Origin Tree)
open Rulebook.Part (whenAsked separated)

/-! ### What is left out -/

/-- A rule of this kind leaves out of its node a child that stands for a part. -/
def RuleKind.omits : RuleKind → Part → Match.Node → Bool
  | .sequence items, .item index, child =>
    (items[index]?.any (·.required) && child.isKeyword) || child.isWhitespaceToken
  | .list _, part, child => !part.isItem || child.isWhitespaceToken
  | .set _, part, child => !part.isItem || child.isWhitespaceToken
  | _, _, _ => false

/-- A rule of this kind does not ask for the same rule as an item and as a separator of a list. -/
def RuleKind.hasDistinctSeparator : RuleKind → Bool
  | .list rule => rule.separator != some rule.item
  | _ => true

namespace Match.Tree

/-- An account says for every match which parts its semantic children stand for. -/
def Accounts (tree : Tree) (parts : Nat → List Part) : Prop :=
  ∀ id rule, (tree.node id).origin = .rule rule → rule.kind.Takes (parts id) ∧
    List.Forall₂ (tree.StandsFor rule.kind) (parts id) (tree.node id).semantic.toList

/-- By an account, a match leaves one of its children out. -/
def omits (tree : Tree) (parts : Nat → List Part) (parent child : Nat) : Bool :=
  (tree.node parent).rule?.any fun rule =>
    ((parts parent).zip (tree.node parent).semantic.toList).any fun entry =>
      entry.2 == child && rule.kind.omits entry.1 (tree.node child)

/-- Nothing is left out on the way from the root to a node. -/
def keeps (tree : Tree) (parts : Nat → List Part) (id : Nat) : Bool :=
  (tree.lineage id).all fun other =>
    !(tree.node other).parent.any fun parent => tree.omits parts parent other

/-- The lists of a tree ask for different rules as items and as separators. -/
def DistinctSeparators (tree : Tree) : Prop :=
  ∀ id < tree.size, (tree.node id).rule?.all (·.kind.hasDistinctSeparator) = true

instance (tree : Tree) : Decidable tree.DistinctSeparators :=
  inferInstanceAs (Decidable (∀ id < tree.size, _ = _))

/-- A token has matched that was neither skipped nor left out. -/
def retains (tree : Tree) (parts : Nat → List Part) (id : Nat) : Bool :=
  (tree.node id).terminal && !(tree.node id).whitespace && tree.keeps parts id

variable {chars : List Char} {tree : Tree} {parts : Nat → List Part} {id child index : Nat}
  {rule : Rule} {part : Part}

/-- If all nodes are well made, then there is an account of them. -/
theorem exists_accounts (made : ∀ id, tree.WellMade id) : ∃ parts, tree.Accounts parts := by
  have each : ∀ id, ∃ parts, ∀ rule, (tree.node id).origin = .rule rule →
      rule.kind.Takes parts ∧
        List.Forall₂ (tree.StandsFor rule.kind) parts (tree.node id).semantic.toList := by
    intro id
    cases origin_eq : (tree.node id).origin with
    | rule rule =>
      obtain ⟨parts, answer⟩ := (made id).parts rule origin_eq
      refine ⟨parts, fun other same => ?_⟩
      rw [← Origin.rule.inj same]
      exact answer
    | _ => exact ⟨[], fun _ absurd => by cases absurd⟩
  choose parts answers using each
  exact ⟨parts, answers⟩

/-- The semantic children of a node are different. -/
theorem Intact.nodup_semantic (intact : tree.Intact chars) (id : Nat) :
    (tree.node id).semantic.toList.Nodup := by
  rw [intact.semantic_eq id]
  exact (intact.distinct id).filter _

/-- Whether a child is left out depends on the part for which it stands. -/
theorem Intact.omits_eq (intact : tree.Intact chars)
    (isRule : (tree.node id).origin = .rule rule)
    (found : (parts id)[index]? = some part)
    (listed : (tree.node id).semantic.toList[index]? = some child) :
    tree.omits parts id child = rule.kind.omits part (tree.node child) := by
  have nodup := intact.nodup_semantic id
  have entry : (part, child) ∈ (parts id).zip (tree.node id).semantic.toList :=
    List.mem_of_getElem? (List.getElem?_zip_eq_some.mpr ⟨found, listed⟩)
  rw [omits, Node.rule?, isRule, Option.any_some, Bool.eq_iff_iff, List.any_eq_true]
  constructor
  · rintro ⟨other, member, answer⟩
    obtain ⟨same, answer⟩ := Bool.and_eq_true_iff.mp answer
    obtain ⟨place, there⟩ := List.getElem?_of_mem member
    obtain ⟨foundThere, listedThere⟩ := List.getElem?_zip_eq_some.mp there
    rw [eq_of_beq same] at listedThere
    obtain rfl : place = index := by
      obtain ⟨bound, -⟩ := List.getElem?_eq_some_iff.mp listedThere
      exact (List.getElem?_inj bound nodup).mp (listedThere.trans listed.symm)
    rwa [← Option.some.inj (foundThere.symm.trans found)]
  · exact fun answer => ⟨_, entry, by rw [answer, beq_self_eq_true]; rfl⟩

end Match.Tree

/-! ### The indices of items -/

namespace Part

/-- Items with separators between them, and perhaps one more separator: every other one is an
item if there are separators. -/
theorem isItem_separated {separator : Option String} {items trailing : List Part}
    (only : ∀ part ∈ items, part.isItem = true)
    (last : trailing = [] ∨ trailing = [.separator] ∧ separator.isSome = true ∧ items ≠ [])
    {index : Nat} {part : Part}
    (found : (separated separator items ++ trailing)[index]? = some part) :
    part.isItem = !(separator.isSome && index % 2 == 1) := by
  rw [separated] at found
  cases separator with
  | none =>
    obtain rfl : trailing = [] := last.resolve_right fun absurd => by cases absurd.2.1
    rw [Option.isSome_none, if_neg Bool.false_ne_true, List.append_nil] at found
    exact only part (List.mem_of_getElem? found)
  | some separator =>
    rw [Option.isSome_some, if_pos rfl] at found
    rw [Option.isSome_some, Bool.true_and]
    have length_eq : (items.intersperse Part.separator).length = 2 * items.length - 1 :=
      List.length_intersperse
    -- Behind the items there is nothing but a separator.
    have behind : ¬ index < (items.intersperse .separator).length →
        part = .separator ∧ index % 2 = 1 := by
      intro beyond
      rw [List.getElem?_append_right (Nat.le_of_not_lt beyond)] at found
      rcases last with rfl | ⟨rfl, -, some⟩
      · cases found
      · obtain ⟨bound, same⟩ := List.getElem?_eq_some_iff.mp found
        have positive := List.length_pos_of_ne_nil some
        rw [List.length_singleton] at bound
        refine ⟨?_, by omega⟩
        rw [← same]
        simp
    by_cases within : index < (items.intersperse Part.separator).length
    · rw [List.getElem?_append_left within] at found
      obtain ⟨half, rfl | rfl⟩ : ∃ half, index = 2 * half ∨ index = 2 * half + 1 :=
        ⟨index / 2, by omega⟩
      · rw [List.getElem?_intersperse_two_mul] at found
        rw [only part (List.mem_of_getElem? found), Nat.mul_mod_right]
        rfl
      · rw [List.getElem?_intersperse_two_mul_add_one (by omega)] at found
        rw [← Option.some.inj found]
        simp [isItem, Nat.add_mod]
    · obtain ⟨rfl, odd⟩ := behind within
      rw [odd]
      rfl

/-- A closing delimiter stands last. -/
theorem isItem_closed {closing : Option String} {middle : List Part} {separated : Bool}
    (inner : ∀ (index : Nat) part, middle[index]? = some part →
      part.isItem = !(separated && index % 2 == 1))
    {index : Nat} {part : Part}
    (found : (middle ++ whenAsked closing .closing)[index]? = some part) :
    part.isItem = (!(closing.isSome &&
        index + 1 == (middle ++ whenAsked closing .closing).length) &&
      !(separated && index % 2 == 1)) := by
  by_cases within : index < middle.length
  · rw [List.getElem?_append_left within] at found
    have before_last : (closing.isSome &&
        index + 1 == (middle ++ whenAsked closing .closing).length) = false := by
      cases closing with
      | none => rfl
      | some closing =>
        simp [whenAsked]
        omega
    rw [inner index part found, before_last, Bool.not_false, Bool.true_and]
  · rw [List.getElem?_append_right (Nat.le_of_not_lt within)] at found
    cases closing with
    | none => cases found
    | some closing =>
      obtain ⟨bound, same⟩ := List.getElem?_eq_some_iff.mp found
      rw [whenAsked, Option.isSome_some, if_pos rfl] at bound
      rw [List.length_singleton] at bound
      obtain rfl : index = middle.length := by omega
      rw [← same]
      simp [whenAsked, isItem]

/-- Whether a part is an item can be told from its index. -/
theorem isItemIndex_eq {opening closing : Option String} {middle : List Part} {separated : Bool}
    (inner : ∀ (index : Nat) part, middle[index]? = some part →
      part.isItem = !(separated && index % 2 == 1))
    {parts : List Part}
    (parts_eq : parts = whenAsked opening .opening ++ middle ++ whenAsked closing .closing)
    {index : Nat} {part : Part} (found : parts[index]? = some part) :
    Ast.Builder.isItemIndex parts.length opening.isSome separated closing.isSome index =
      part.isItem := by
  rw [List.append_assoc] at parts_eq
  rw [Ast.Builder.isItemIndex, parts_eq]
  rw [parts_eq] at found
  cases opening with
  | none =>
    rw [isItem_closed inner found]
    rfl
  | some opening =>
    cases index with
    | zero =>
      obtain rfl := Option.some.inj found
      rfl
    | succ index =>
      have found : (middle ++ whenAsked closing .closing)[index]? = some part := found
      have ends : (index + 1 + 1 == (whenAsked (some opening) .opening ++
          (middle ++ whenAsked closing .closing)).length) =
            (index + 1 == (middle ++ whenAsked closing .closing).length) := by
        rw [Bool.eq_iff_iff]
        simp [whenAsked]
      have parity : ((index + 1) % 2 == 0) = (index % 2 == 1) := by
        rw [Bool.eq_iff_iff, beq_iff_eq, beq_iff_eq]
        omega
      rw [isItem_closed inner found, ends, Option.isSome_some, if_pos rfl, parity]
      rfl

end Part

/-! ### What is shown -/

theorem filterMap_range {Element : Type} (elements : List Element) :
    (List.range elements.length).filterMap (elements[·]?) = elements := by
  induction elements with
  | nil => rfl
  | cons first rest inductionHypothesis =>
    have later : ((List.range rest.length).map Nat.succ).filterMap ((first :: rest)[·]?) =
        rest := by
      rw [List.filterMap_map]
      exact inductionHypothesis
    rw [List.length_cons, List.range_succ_eq_map, List.filterMap_cons, later]
    rfl

/-- Elements may be chosen by their numbers. -/
theorem filterMap_range_filter {Element : Type} (elements : List Element) {chosen : Nat → Bool}
    {test further : Element → Bool}
    (agree : ∀ (index : Nat) element, elements[index]? = some element →
      test element = (chosen index && further element)) :
    (((List.range elements.length).filter chosen).filterMap (elements[·]?)).filter further =
      elements.filter test := by
  have each : ∀ index, (if chosen index = true then elements[index]? else none).filter further =
      elements[index]?.filter test := by
    intro index
    cases found : elements[index]? with
    | none => rw [ite_self, Option.filter_none, Option.filter_none]
    | some element =>
      rw [Option.filter_some, agree index element found]
      cases chosen index with
      | false => rfl
      | true => exact Option.filter_some
  rw [List.filterMap_filter, List.filter_filterMap, funext each, ← List.filter_filterMap,
    filterMap_range]

/-- Elements may be chosen by what stands beside them. -/
theorem map_filter_zip {Label Element : Type} {labels : List Label} {elements : List Element}
    {chosen : Label × Element → Bool} {test : Element → Bool}
    (length_eq : labels.length = elements.length)
    (agree : ∀ (index : Nat) label element, labels[index]? = some label →
      elements[index]? = some element → test element = chosen (label, element)) :
    ((labels.zip elements).filter chosen).map Prod.snd = elements.filter test := by
  have map_eq : (labels.zip elements).map Prod.snd = elements :=
    List.map_snd_zip (Nat.le_of_eq length_eq.symm)
  conv_rhs => rw [← map_eq]
  rw [List.filter_map]
  refine congrArg (List.map Prod.snd) (List.filter_congr fun entry member => ?_)
  obtain ⟨index, there⟩ := List.getElem?_of_mem member
  obtain ⟨label, element⟩ := List.getElem?_zip_eq_some.mp there
  exact (agree index _ _ label element).symm

/-- Elements that are dropped give nothing. -/
theorem flatMap_filter {Element Result : Type} (test : Element → Bool)
    (results : Element → List Result) (elements : List Element) :
    (elements.filter test).flatMap results =
      elements.flatMap fun element => if test element = true then results element else [] := by
  induction elements with
  | nil => rfl
  | cons first rest inductionHypothesis =>
    rw [List.filter_cons, List.flatMap_cons, ← inductionHypothesis]
    cases test first <;> rfl

namespace Ast.Builder

variable {builder : Builder} {chars : List Char} {parts : Nat → List Part} {id child index : Nat}
  {rule : Rule} {name : String}

/-- A semantic child stands for a part. -/
theorem exists_part
    (stand : List.Forall₂ (builder.tree.StandsFor rule.kind) (parts id) (builder.semantic id))
    (listed : (builder.semantic id)[index]? = some child) :
    ∃ part, (parts id)[index]? = some part ∧ builder.tree.StandsFor rule.kind part child := by
  obtain ⟨length_eq, stand⟩ := List.forall₂_iff_zip.mp stand
  obtain ⟨bound, -⟩ := List.getElem?_eq_some_iff.mp listed
  rw [← length_eq] at bound
  have found := List.getElem?_eq_getElem bound
  exact ⟨_, found, stand (List.mem_of_getElem? (List.getElem?_zip_eq_some.mpr ⟨found, listed⟩))⟩

/-- What stands for an item of a list bears its name. -/
theorem ruleName?_of_item {list : ListRule} {part : Part}
    (stands : builder.tree.StandsFor (.list list) part child) (isItem : part.isItem = true) :
    builder.ruleName? child = some list.item := by
  obtain ⟨name, asked, ⟨rule, isRule, rfl⟩ | ⟨lacks, -⟩⟩ := stands
  · cases part with
    | item index =>
      rw [ruleName?, Match.Node.rule?, isRule]
      exact asked.symm
    | _ => cases isItem
  · cases lacks

section

variable (intact : builder.tree.Intact chars)
  (isRule : (builder.tree.node id).origin = .rule rule) (takes : rule.kind.Takes (parts id))
  (stand : List.Forall₂ (builder.tree.StandsFor rule.kind) (parts id) (builder.semantic id))
include intact isRule stand

/-- If a rule leaves nothing out, everything is shown. -/
theorem filter_omits_of_plain (plain : ∀ part child, rule.kind.omits part child = false) :
    (builder.semantic id).filter (!builder.tree.omits parts id ·) = builder.semantic id := by
  refine List.filter_eq_self.mpr fun child member => ?_
  obtain ⟨index, listed⟩ := List.getElem?_of_mem member
  obtain ⟨part, found, -⟩ := exists_part stand listed
  rw [intact.omits_eq isRule found listed, plain]
  rfl

/-- A rule that takes one part shows its latest match. -/
theorem getLast?_toList_of_single {part : Part} (parts_eq : parts id = [part])
    (plain : ∀ part child, rule.kind.omits part child = false) :
    (builder.semantic id).getLast?.toList =
      (builder.semantic id).filter (!builder.tree.omits parts id ·) := by
  rw [filter_omits_of_plain intact isRule stand plain]
  rw [parts_eq] at stand
  obtain ⟨child, rest, -, none, semantic_eq⟩ := List.forall₂_cons_left_iff.mp stand
  rw [List.forall₂_nil_left_iff.mp none] at semantic_eq
  rw [semantic_eq]
  rfl

include takes

/-- A sequence shows what is not hidden. -/
theorem shownBelow_sequence {items : List SequenceItem} (kind : rule.kind = .sequence items) :
    ((items.zip (builder.semantic id)).filter fun part =>
      !builder.isHidden part.1 part.2).map Prod.snd =
        (builder.semantic id).filter (!builder.tree.omits parts id ·) := by
  rw [kind] at takes
  have parts_eq : parts id = (List.range items.length).map Part.item := takes
  have length_eq : items.length = (builder.semantic id).length := by
    rw [← stand.length_eq, parts_eq, List.length_map, List.length_range]
  refine map_filter_zip length_eq fun index item child found listed => ?_
  obtain ⟨bound, -⟩ := List.getElem?_eq_some_iff.mp found
  have part_eq : (parts id)[index]? = some (.item index) := by
    rw [parts_eq, List.getElem?_map, List.getElem?_range bound]
    rfl
  rw [intact.omits_eq isRule part_eq listed, kind, RuleKind.omits, found, Option.any_some]
  rfl

omit takes in
/-- A list or a set shows those of its items that are no whitespace tokens. -/
theorem items_filter {opening separator closing : Option String} {middle : List Part}
    (parts_eq : parts id = whenAsked opening .opening ++ middle ++ whenAsked closing .closing)
    (inner : ∀ (index : Nat) part, middle[index]? = some part →
      part.isItem = !(separator.isSome && index % 2 == 1))
    (omits_eq : ∀ part child,
      rule.kind.omits part child = (!part.isItem || child.isWhitespaceToken))
    {further : Nat → Bool}
    (always : ∀ part child, builder.tree.StandsFor rule.kind part child → part.isItem = true →
      further child = true) :
    (builder.items opening.isSome separator.isSome closing.isSome id).filter further =
      (builder.semantic id).filter (!builder.tree.omits parts id ·) := by
  have length_eq : (parts id).length = (builder.semantic id).length := stand.length_eq
  rw [items, itemIndices, List.filter_filter]
  simp only [← Array.getElem?_toList, ← Array.length_toList]
  refine filterMap_range_filter (builder.semantic id) fun index child listed => ?_
  obtain ⟨part, found, stands⟩ := exists_part stand listed
  have isItem := Part.isItemIndex_eq inner parts_eq found
  rw [length_eq] at isItem
  rw [semantic] at isItem
  rw [intact.omits_eq isRule found listed, omits_eq, isItem]
  cases item : part.isItem with
  | false => rfl
  | true => simp [always part child stands item]

/-- A list shows its items. Their name tells them from the separators. -/
theorem shownBelow_list {list : ListRule} (kind : rule.kind = .list list)
    (distinct : list.separator ≠ some list.item) :
    (builder.items list.opening.isSome list.separator.isSome list.closing.isSome id).filter
      (fun child => list.separator.isNone || builder.ruleName? child != list.separator) =
        (builder.semantic id).filter (!builder.tree.omits parts id ·) := by
  rw [kind] at takes
  obtain ⟨count, trailing, empty, allowed, parts_eq⟩ := takes
  refine items_filter intact isRule stand parts_eq (fun _ _ => Part.isItem_separated ?_ ?_)
    (fun _ _ => by rw [kind]; rfl) fun part child stands isItem => ?_
  · intro part member
    rw [List.eq_of_mem_replicate member]
    rfl
  · refine allowed.imp_right fun allowed => ⟨allowed.1, allowed.2.1, fun none => ?_⟩
    have same := allowed.1
    rw [List.replicate_eq_nil_iff] at none
    rw [(empty none).2] at same
    cases same
  · rw [kind] at stands
    rw [ruleName?_of_item stands isItem, Bool.or_eq_true_iff, bne_iff_ne]
    exact .inr distinct.symm

/-- A set shows its items. -/
theorem shownBelow_set {set : SetRule} (kind : rule.kind = .set set) :
    builder.items set.opening.isSome set.separator.isSome set.closing.isSome id =
      (builder.semantic id).filter (!builder.tree.omits parts id ·) := by
  rw [kind] at takes
  obtain ⟨slots, -, -, parts_eq⟩ := takes
  have inner : ∀ (index : Nat) part,
      (separated set.separator (slots.map Part.item))[index]? = some part →
        part.isItem = !(set.separator.isSome && index % 2 == 1) := by
    intro index part found
    refine Part.isItem_separated (fun part member => ?_) (.inl rfl)
      (by rwa [List.append_nil])
    obtain ⟨slot, -, rfl⟩ := List.mem_map.mp member
    rfl
  have shows : (builder.items set.opening.isSome set.separator.isSome set.closing.isSome
      id).filter (fun _ => true) = _ :=
    items_filter intact isRule stand parts_eq inner (fun _ _ => by rw [kind]; rfl)
      fun _ _ _ _ => rfl
  rwa [List.filter_true] at shows

end

/-- Of the root, its only semantic child is shown. -/
theorem shown_root (made : builder.tree.WellMade id)
    (isRoot : (builder.tree.node id).origin = .root) :
    (builder.semantic id).head?.toList =
      (builder.semantic id).filter (!builder.tree.omits parts id ·) := by
  have few := made.root isRoot
  have nothing : ∀ child, builder.tree.omits parts id child = false := fun child => by
    rw [Tree.omits, Match.Node.rule?, isRoot]
    rfl
  rw [← Array.length_toList, ← semantic] at few
  simp only [nothing, Bool.not_false, List.filter_true]
  rcases listed : builder.semantic id with _ | ⟨child, _ | ⟨second, later⟩⟩
  · rfl
  · rfl
  · rw [listed] at few
    simp at few

/-- What is shown of a match are its semantic children without those that are left out. -/
theorem shown_eq (intact : builder.tree.Intact chars) (made : ∀ id, builder.tree.WellMade id)
    (accounts : builder.tree.Accounts parts)
    (distinct : builder.tree.DistinctSeparators) (id : Nat) :
    builder.shown id = (builder.semantic id).filter (!builder.tree.omits parts id ·) := by
  rw [shown]
  cases isRule : (builder.tree.node id).origin with
  | root => exact shown_root (made id) isRule
  | lambda name =>
    have empty : builder.semantic id = [] := by
      rw [semantic, intact.semantic_eq id, (made id).lambda name isRule]
      rfl
    rw [empty]
    rfl
  | rule rule =>
    obtain ⟨takes, stand⟩ := accounts id rule isRule
    dsimp only
    rw [shownBelow]
    cases kind : rule.kind with
    | token token =>
      rw [kind] at takes
      have none : parts id = [] := takes
      rw [none, List.forall₂_nil_left_iff] at stand
      rw [semantic, stand]
      rfl
    | sequence items => exact shownBelow_sequence intact isRule takes stand kind
    | choice choice =>
      rw [kind] at takes
      obtain ⟨index, -, parts_eq⟩ := takes
      exact getLast?_toList_of_single intact isRule stand parts_eq
        fun _ _ => by rw [kind]; rfl
    | list list =>
      have distinct := distinct id (Tree.inside_of_rule isRule)
      rw [Match.Node.rule?, isRule, Option.all_some, kind] at distinct
      exact shownBelow_list intact isRule takes stand kind (bne_iff_ne.mp distinct)
    | set set => exact shownBelow_set intact isRule takes stand kind
    | operator operator =>
      exact (filter_omits_of_plain intact isRule stand fun _ _ => by rw [kind]; rfl).symm
    | imported target =>
      rw [kind] at takes
      exact getLast?_toList_of_single intact isRule stand takes fun _ _ => by rw [kind]; rfl

end Ast.Builder

/-! ### The way from the root -/

namespace Match.Tree

variable {chars : List Char} {tree : Tree} {parts : Nat → List Part} {id other : Nat}

/-- A node is an ancestor of what is listed below it. -/
theorem Intact.mem_lineage_of_listed (intact : tree.Intact chars) {depth top : Nat}
    (member : id ∈ tree.descendantsWithin depth top) : top ∈ tree.lineage id := by
  induction depth generalizing top with
  | zero => cases member
  | succ depth inductionHypothesis =>
    rw [descendantsWithin] at member
    rcases List.mem_cons.mp member with rfl | below
    · exact mem_lineage_self tree id
    · obtain ⟨child, listed, member⟩ := List.mem_flatMap.mp below
      exact parent_mem_lineage intact.rising (inductionHypothesis member)
        (intact.ordered top child (Array.mem_toList_iff.mp listed)).2

/-- A node is kept if its parent is and does not leave it out. -/
theorem Intact.keeps_child (intact : tree.Intact chars) {child : Nat}
    (listed : child ∈ (tree.node id).children) :
    tree.keeps parts child = (!tree.omits parts id child && tree.keeps parts id) := by
  have found := (intact.ordered id child listed).2
  rw [keeps, lineage_of_parent intact.rising found, List.all_cons, found, Option.any_some, keeps]

/-- What is below a node that is not kept is not kept. -/
theorem Intact.keeps_of_mem_lineage (intact : tree.Intact chars)
    (keeps : tree.keeps parts id = true) (member : other ∈ tree.lineage id) :
    tree.keeps parts other = true := by
  induction id using lineage_induction intact.rising with
  | top id found =>
    rw [lineage_of_no_parent found, List.mem_singleton] at member
    rwa [member]
  | below id parent found inductionHypothesis =>
    rw [lineage_of_parent intact.rising found] at member
    rcases List.mem_cons.mp member with same | higher
    · rwa [same]
    · rw [Tree.keeps, lineage_of_parent intact.rising found, List.all_cons] at keeps
      exact inductionHypothesis (Bool.and_eq_true_iff.mp keeps).2 higher

/-- Nothing is retained of a node that is not kept. -/
theorem Intact.retains_nothing (intact : tree.Intact chars) (depth : Nat)
    (dropped : tree.keeps parts id = false) :
    (tree.descendantsWithin depth id).filter (tree.retains parts) = [] := by
  refine List.filter_eq_nil_iff.mpr fun other member retained => ?_
  have kept := intact.keeps_of_mem_lineage (Bool.and_eq_true_iff.mp retained).2
    (intact.mem_lineage_of_listed member)
  rw [dropped] at kept
  cases kept

end Match.Tree

namespace Ast.Builder

variable {builder : Builder} {chars : List Char} {parts : Nat → List Part} {id child : Nat}

/-- Tokens have nothing below them. -/
theorem descendantsWithin_of_terminal (intact : builder.tree.Intact chars) (depth : Nat)
    (terminal : (builder.tree.node id).terminal = true) :
    builder.tree.descendantsWithin (depth + 1) id = [id] := by
  rw [Tree.descendantsWithin, (intact.terminal id terminal).1]
  rfl

/-- Nothing is retained of what was skipped. -/
theorem retains_nothing_of_skipped (intact : builder.tree.Intact chars)
    (made : builder.tree.WellMade id) (depth : Nat)
    (skipped : (builder.tree.node id).whitespace = true) :
    (builder.tree.descendantsWithin depth id).filter (builder.tree.retains parts) = [] := by
  cases depth with
  | zero => rfl
  | succ depth =>
    have notRetained : builder.tree.retains parts id = false := by
      rw [Tree.retains, skipped, Bool.not_true, Bool.and_false, Bool.false_and]
    rw [descendantsWithin_of_terminal intact depth (made.skipped skipped), List.filter_singleton,
      notRetained]
    rfl

/-- A token matches where a leaf is. -/
theorem isLeaf_eq_terminal (intact : builder.tree.Intact chars)
    (made : builder.tree.WellMade id) :
    builder.isLeaf id = (builder.tree.node id).terminal := by
  rw [isLeaf, Match.Node.rule?, Bool.eq_iff_iff]
  constructor
  · intro isLeaf
    cases isRule : (builder.tree.node id).origin with
    | rule rule =>
      rw [isRule] at isLeaf
      exact made.terminal rule isRule isLeaf
    | _ =>
      rw [isRule] at isLeaf
      cases isLeaf
  · intro terminal
    obtain ⟨-, rule, isRule, isToken⟩ := intact.terminal id terminal
    rw [isRule]
    exact isToken

/-- What is shown of a match that is kept are the tokens below it that are retained. -/
theorem leavesWithin_eq (intact : builder.tree.Intact chars)
    (made : ∀ id, builder.tree.WellMade id) (accounts : builder.tree.Accounts parts)
    (distinct : builder.tree.DistinctSeparators) (depth : Nat) {id : Nat}
    (unskipped : (builder.tree.node id).whitespace = false)
    (kept : builder.tree.keeps parts id = true) :
    builder.leavesWithin depth id =
      (builder.tree.descendantsWithin depth id).filter (builder.tree.retains parts) := by
  induction depth generalizing id with
  | zero => rfl
  | succ depth inductionHypothesis =>
    rw [leavesWithin, isLeaf_eq_terminal intact (made id)]
    cases terminal : (builder.tree.node id).terminal with
    | true =>
      have retained : builder.tree.retains parts id = true := by
        rw [Tree.retains, terminal, unskipped, kept]
        rfl
      rw [if_pos rfl, descendantsWithin_of_terminal intact depth terminal,
        List.filter_singleton, retained]
      rfl
    | false =>
      have notRetained : builder.tree.retains parts id = false := by
        rw [Tree.retains, terminal]
        rfl
      -- Every child is shown, or nothing is retained of it.
      have each : ∀ child ∈ (builder.tree.node id).children.toList,
          (builder.tree.descendantsWithin depth child).filter (builder.tree.retains parts) =
            if (!builder.tree.omits parts id child &&
              !(builder.tree.node child).whitespace) = true then
              builder.leavesWithin depth child
            else [] := by
        intro child listed
        have keeps_eq : builder.tree.keeps parts child =
            (!builder.tree.omits parts id child && builder.tree.keeps parts id) :=
          intact.keeps_child (Array.mem_toList_iff.mp listed)
        rw [kept, Bool.and_true] at keeps_eq
        cases omitted : builder.tree.omits parts id child with
        | true =>
          rw [omitted] at keeps_eq
          exact intact.retains_nothing depth keeps_eq
        | false =>
          rw [omitted] at keeps_eq
          cases skipped : (builder.tree.node child).whitespace with
          | true => exact retains_nothing_of_skipped intact (made child) depth skipped
          | false => exact (inductionHypothesis skipped keeps_eq).symm
      rw [if_neg Bool.false_ne_true, Tree.descendantsWithin, List.filter_cons, notRetained,
        if_neg Bool.false_ne_true, List.filter_flatMap, List.flatMap_congr each,
        shown_eq intact made accounts distinct, semantic, intact.semantic_eq id,
        List.filter_filter, flatMap_filter]

end Ast.Builder

namespace Parse

/-- The tokens of the syntax tree of a parsed text are the tokens of its match that were neither
skipped as whitespace nor left out on the way from the root, each once. There is an account of
what the children of the matches stand for, and it does not matter which account is taken. -/
theorem syntax_tree_retains_tokens (input : String) (registry : Registry)
    (options : ParseOptions) (tracing : Bool) (first : Grammar) (start : Option String)
    (fuel : Nat) (result : ParseTree)
    (parsed : (run (Environment.ofText input registry options tracing) fuel first start).answer =
      .parsed result) (distinct : result.tree.DistinctSeparators) :
    let builder : Ast.Builder := ⟨result.source, result.tree⟩
    (∃ parts, result.tree.Accounts parts) ∧
    ∀ parts, result.tree.Accounts parts → result.toAst.tokens.Perm
      ((result.tree.reachable.filter (result.tree.retains parts)).map builder.leafToken) := by
  intro builder
  have faithful := Environment.faithful_ofText input registry options tracing
  obtain ⟨name, after, -, done, nothingLeft, rfl⟩ := exists_of_parsed parsed
  have intact := (covers_of_done faithful done nothingLeft).1
  have made := wellMade_of_done faithful done
  refine ⟨Tree.exists_accounts made, fun parts accounts => ?_⟩
  have grown := grown_of_done faithful done
  have unskipped : (after.tree.node Tree.root).whitespace = false :=
    (grown.start_eq grown.inside).2.2
  have parentless : (after.tree.node Tree.root).parent = none := grown.parent_eq grown.inside
  have kept : after.tree.keeps parts Tree.root = true := by
    rw [Tree.keeps, Tree.lineage_of_no_parent parentless, List.all_cons, parentless]
    rfl
  have leaves_eq : builder.leaves Tree.root =
      after.tree.reachable.filter (after.tree.retains parts) :=
    Ast.Builder.leavesWithin_eq intact made accounts distinct _ unskipped kept
  rw [← leaves_eq]
  exact builder.tokens_build Tree.root

/-- Items behind an opening delimiter, with separators between them. -/
def rowOfItems : Grammar :=
  .ofCalls Workspace.compile "g" [.token "x" "x" false, .token "comma" "," false,
    .token "open" "<" false,
    .list "row" { item := "x", separator := some "comma", opening := some "open" },
    .startSymbol "row"]

/-- The items are retained, and nothing else. -/
theorem row_retains_items : ∃ result,
    (run (Environment.ofText "<x,x" {} {} false) 6 rowOfItems none).answer = .parsed result ∧
      result.tree.DistinctSeparators ∧
      result.toAst.tokens = [⟨"x", "x", 1, ⟨1, 2⟩⟩, ⟨"x", "x", 3, ⟨1, 4⟩⟩] ∧
      ∃ parts, result.tree.Accounts parts ∧ result.toAst.tokens.Perm
        ((result.tree.reachable.filter (result.tree.retains parts)).map
          (Ast.Builder.mk result.source result.tree).leafToken) := by
  obtain ⟨result, parsed, distinct, tokens⟩ : ∃ result,
      (run (Environment.ofText "<x,x" {} {} false) 6 rowOfItems none).answer = .parsed result ∧
        result.tree.DistinctSeparators ∧
        result.toAst.tokens = [⟨"x", "x", 1, ⟨1, 2⟩⟩, ⟨"x", "x", 3, ⟨1, 4⟩⟩] :=
    ⟨_, rfl, by decide +kernel, by decide +kernel⟩
  obtain ⟨⟨parts, accounts⟩, retains⟩ := syntax_tree_retains_tokens "<x,x" {} {} false rowOfItems
    none 6 result parsed distinct
  exact ⟨result, parsed, distinct, tokens, parts, accounts, retains parts accounts⟩

end Parse

end Rulebook
