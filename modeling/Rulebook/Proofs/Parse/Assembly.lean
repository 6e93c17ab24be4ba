/-
This file shows that the matches in a tree are well made. While a rule works at a node, the
node is given semantic children one by one, and each of them stands for a part of the rule. So
when the rule has matched, the parts are ones that a rule of its kind may take. What fails in
between has left the tree as it was and counts for nothing.
-/

import Rulebook.Proofs.Parse.Coverage
import Rulebook.Proofs.Parse.Keeping
import Rulebook.Proofs.Tree.Makeup

namespace Rulebook

namespace Parse

open Match (Origin Tree)
open Rulebook.Part (whenAsked separated followed)

variable {environment : Environment} {first : Grammar} {consume : Consume} {kind : RuleKind}
  {before middle after state : State} {node parent : Nat} {rule : Rule} {name : String}
  {parts : List Part} {part : Part} {matched : Bool}

/-! ### A node in the making -/

/-- Work at a node has given it some parts of a rule. -/
structure Assembling (environment : Environment) (first : Grammar) (kind : RuleKind) (node : Nat)
    (parts : List Part) (before after : State) : Prop
    extends Working environment first node before after where
  stocked : after.tree.Stocked kind node parts before.tree.size

/-- A way of matching rules that can be relied on, and that leaves nothing behind that is not well
made. -/
structure Supplies (environment : Environment) (first : Grammar) (consume : Consume) : Prop where
  reliable : Reliable environment first (fun _ => True) consume
  forms : ∀ node name state after, Ready environment first node state →
    (consume node name state).outcome = .done true after → after.tree.Formed state.tree.size

/-- The match of a rule stands for the part for which the rule was asked. -/
theorem Added.stocked {grammar : Grammar} {tree grown : Tree} {size : Nat}
    (added : Added grammar node name tree grown) (stocked : tree.Stocked kind node parts size)
    (above : node < size) (asked : kind.partName? part = some name)
    (formed : grown.Formed tree.size) : grown.Stocked kind node (parts ++ [part]) size := by
  obtain ⟨blanks, children_eq, -⟩ := added.children_eq
  obtain ⟨rule, found, isRule⟩ := added.origin_eq
  exact stocked.push blanks added.grown above children_eq added.semantic_eq
    ⟨name, asked, .inl ⟨rule, isRule, Grammar.rule?_name found⟩⟩ formed

namespace Assembling

theorem still (assembling : Assembling environment first kind node parts before middle)
    (still : Still environment first middle after) :
    Assembling environment first kind node parts before after where
  toWorking := assembling.toWorking.still still
  stocked := by
    rw [still.tree_eq]
    exact assembling.stocked

/-- Whether a rule matched or not, work can go on. -/
theorem answered (assembling : Assembling environment first kind node parts before middle)
    (answered : Answered environment first node name middle matched after)
    (asked : kind.partName? part = some name)
    (forms : matched = true → after.tree.Formed middle.tree.size) :
    Assembling environment first kind node (if matched = true then parts ++ [part] else parts)
      before after where
  toWorking := assembling.toWorking.answered answered
  stocked := by
    cases matched with
    | true =>
      exact (answered.added rfl).stocked assembling.stocked assembling.grown.inside asked
        (forms rfl)
    | false =>
      rw [answered.restored rfl]
      exact assembling.stocked

/-- The mark of an item that matched nothing stands for an item that may be missing. -/
theorem leftOut (assembling : Assembling environment first kind node parts before middle)
    (asked : kind.partName? part = some name) (lacks : kind.mayLack part = true) :
    Assembling environment first kind node (parts ++ [part]) before
      { middle with tree := middle.tree.attach node (.lambda name) } where
  toWorking := working_attach assembling.toWorking _
  stocked := assembling.stocked.leftOut assembling.sound.tree.rising assembling.isOpen.inside
    assembling.grown.inside asked lacks

end Assembling

/-! ### Steps at a node -/

/-- What skipping whitespace comes to. -/
theorem skipped_of_done (faithful : environment.source.Faithful)
    (ready : Ready environment first node state)
    (done : (skipWhitespace environment node state).outcome = .done () after) :
    Skipped environment first node state after :=
  (meets_skipWhitespace faithful ready : Run.Meets _ _ True _).returns () after done

section

variable (supplies : Supplies environment first consume)
include supplies

/-- Whether a rule matched or not, work can go on. -/
theorem assembles_consume
    (assembling : Assembling environment first kind node parts before state)
    (asked : kind.partName? part = some name) :
    (consume node name state).Meets (Proper environment first) True fun matched after =>
      Assembling environment first kind node (if matched = true then parts ++ [part] else parts)
        before after := by
  refine (supplies.reliable node name state assembling.ready).and_done.imp
    fun matched after ended => ?_
  obtain ⟨answered, done⟩ := ended
  refine assembling.answered answered asked ?_
  rintro rfl
  exact supplies.forms node name state after assembling.ready done

theorem assembles_consumeOptional {asked : Option String}
    (assembling : Assembling environment first kind node parts before state)
    (names : kind.partName? part = asked) (otherwise : Bool) :
    (consumeOptional consume node asked otherwise state).Meets (Proper environment first) True
      fun matched after => Assembling environment first kind node
        (if matched = true then parts ++ whenAsked asked part else parts) before after := by
  cases asked with
  | none =>
    refine meets_pure ?_
    rw [whenAsked, Option.isSome_none, if_neg Bool.false_ne_true, List.append_nil, ite_self]
    exact assembling
  | some name => exact assembles_consume supplies assembling names

omit supplies in
theorem assembles_setAlternative
    (assembling : Assembling environment first kind node parts before state) (index : Nat) :
    (Step.setAlternative index state).Meets (Proper environment first) True fun _ after =>
      Assembling environment first kind node parts before after :=
  (bookkeeping_setAlternative assembling.sound index).meets.imp fun _ _ still =>
    assembling.still still

omit supplies in
theorem assembles_leaveOut
    (assembling : Assembling environment first kind node parts before state)
    (asked : kind.partName? part = some name) (lacks : kind.mayLack part = true) :
    (leaveOut environment node name state).Meets (Proper environment first) True fun _ after =>
      Assembling environment first kind node (parts ++ [part]) before after := by
  have attached := assembling.leftOut asked lacks
  unfold leaveOut
  refine meets_change_bind attached.sound.proper ?_
  cases environment.tracing with
  | false => exact meets_pure attached
  | true =>
    exact meets_read_bind ((meets_log attached.sound _).imp fun _ _ still =>
      attached.still still)

/-! ### Sequences and choices -/

/-- A sequence takes its items in order. -/
theorem assembles_performSequence {items : List SequenceItem} (taken rest : List SequenceItem)
    (split : items = taken ++ rest)
    (assembling : Assembling environment first (.sequence items) node
      ((List.range taken.length).map .item) before state) :
    (performSequence environment consume node taken.length rest state).Meets
      (Proper environment first) True fun matched after => matched = true →
        Assembling environment first (.sequence items) node
          ((List.range items.length).map .item) before after := by
  induction rest generalizing taken state with
  | nil =>
    rw [List.append_nil] at split
    rw [split]
    rw [split] at assembling
    exact meets_pure fun _ => assembling
  | cons item rest inductionHypothesis =>
    have found : items[taken.length]? = some item := by
      rw [split, List.getElem?_append_right (Nat.le_refl _), Nat.sub_self]
      rfl
    have asked : (RuleKind.sequence items).partName? (.item taken.length) = some item.rule := by
      rw [RuleKind.partName?, found, Option.map_some]
    have onward : items = (taken ++ [item]) ++ rest := by rw [split, List.append_assoc]; rfl
    have parts_eq : (List.range taken.length).map Part.item ++ [.item taken.length] =
        (List.range (taken ++ [item]).length).map .item := by
      rw [List.length_append, List.length_singleton, List.range_succ, List.map_append]
      rfl
    have length_eq : taken.length + 1 = (taken ++ [item]).length := by
      rw [List.length_append, List.length_singleton]
    rw [performSequence]
    refine (assembles_setAlternative assembling taken.length).bind fun _ _ assembling => ?_
    refine (assembles_consume supplies assembling asked).bind fun matched _ assembling => ?_
    cases matched with
    | true =>
      rw [if_pos rfl, parts_eq] at assembling
      rw [length_eq]
      exact inductionHypothesis _ onward assembling
    | false =>
      rw [if_neg Bool.false_ne_true] at assembling
      cases required : item.required with
      | true => exact meets_pure fun absurd => by cases absurd
      | false =>
        have lacks : (RuleKind.sequence items).mayLack (.item taken.length) = true := by
          rw [RuleKind.mayLack, found, Option.any_some, required]
          rfl
        refine (assembles_leaveOut assembling asked lacks).bind fun _ _ assembling => ?_
        rw [parts_eq] at assembling
        rw [length_eq]
        exact inductionHypothesis _ onward assembling

/-- A choice takes one alternative. -/
theorem assembles_performChoice {choice : ChoiceRule} (passed rest : List String)
    (split : choice.alternatives = passed ++ rest)
    (assembling : Assembling environment first (.choice choice) node [] before state) :
    (performChoice consume node passed.length rest state).Meets (Proper environment first) True
      fun matched after => matched = true → ∃ parts, (RuleKind.choice choice).Takes parts ∧
        Assembling environment first (.choice choice) node parts before after := by
  induction rest generalizing passed state with
  | nil => exact meets_pure fun absurd => by cases absurd
  | cons alternative rest inductionHypothesis =>
    have found : choice.alternatives[passed.length]? = some alternative := by
      rw [split, List.getElem?_append_right (Nat.le_refl _), Nat.sub_self]
      rfl
    have asked : (RuleKind.choice choice).partName? (.item passed.length) = some alternative :=
      found
    have onward : choice.alternatives = (passed ++ [alternative]) ++ rest := by
      rw [split, List.append_assoc]
      rfl
    have length_eq : passed.length + 1 = (passed ++ [alternative]).length := by
      rw [List.length_append, List.length_singleton]
    rw [performChoice]
    refine (assembles_setAlternative assembling passed.length).bind fun _ _ assembling => ?_
    refine (assembles_consume supplies assembling asked).bind fun matched _ assembling => ?_
    cases matched with
    | true =>
      obtain ⟨bound, -⟩ := List.getElem?_eq_some_iff.mp found
      exact meets_pure fun _ => ⟨[.item passed.length], ⟨_, bound, rfl⟩, assembling⟩
    | false =>
      rw [length_eq]
      exact inductionHypothesis _ onward assembling

/-! ### Lists -/

/-- The parts of a list up to its latest item. -/
def listParts (list : ListRule) (count : Nat) : List Part :=
  whenAsked list.opening .opening ++ separated list.separator (List.replicate count (.item 0))

omit supplies in
/-- A list may be closed behind an item, and if it is nullable also at once. -/
theorem takes_listParts (list : ListRule) (count : Nat)
    (empty : count = 0 → list.nullable = true) :
    (RuleKind.list list).Takes (listParts list count ++ whenAsked list.closing .closing) := by
  refine ⟨count, [], fun none => ⟨empty none, rfl⟩, .inl rfl, ?_⟩
  rw [listParts, List.append_nil]

omit supplies in
/-- Trailing separators may be allowed. -/
theorem takes_listParts_trailing (list : ListRule) (count : Nat)
    (allowed : (list.separator.isNone || list.allowTrailing) = true) :
    (RuleKind.list list).Takes (listParts list (count + 1) ++
      whenAsked list.separator .separator ++ whenAsked list.closing .closing) := by
  refine ⟨count + 1, whenAsked list.separator .separator, fun absurd => (by cases absurd), ?_, ?_⟩
  · rw [whenAsked]
    cases separator : list.separator with
    | none => exact .inl rfl
    | some name =>
      rw [separator] at allowed
      exact .inr ⟨rfl, rfl, allowed⟩
  · rw [listParts]
    simp only [List.append_assoc]

omit supplies in
/-- Without a closing delimiter nothing is asked for. -/
theorem whenAsked_of_isNone {asked : Option String} (none : asked.isNone = true) (part : Part) :
    whenAsked asked part = [] := by
  rw [whenAsked, Option.isNone_iff_eq_none.mp none]
  rfl

theorem assembles_listRounds {list : ListRule} (name : String) (budget round : Nat)
    (last : Option Nat) (count : Nat)
    (assembling : Assembling environment first (.list list) node (listParts list (count + 1))
      before state) :
    (listRounds environment consume name list node budget round last state).Meets
      (Proper environment first) True fun matched after => matched = true →
        ∃ parts, (RuleKind.list list).Takes parts ∧
          Assembling environment first (.list list) node parts before after := by
  induction budget generalizing round last count state with
  | zero => exact meets_exhausted trivial
  | succ budget inductionHypothesis =>
    have separators : (RuleKind.list list).partName? .separator = list.separator := rfl
    have closings : (RuleKind.list list).partName? .closing = list.closing := rfl
    have items : (RuleKind.list list).partName? (.item 0) = some list.item := rfl
    rw [listRounds]
    refine (assembles_consumeOptional supplies assembling separators true).bind
      fun separated next assembling => ?_
    cases separated with
    | false =>
      refine (assembles_consumeOptional supplies assembling closings true).imp
        fun closed _ assembling => ?_
      rintro rfl
      exact ⟨_, takes_listParts list (count + 1) fun absurd => (by cases absurd), assembling⟩
    | true =>
      refine meets_read_bind ?_
      split
      · exact meets_abort assembling.sound.proper
      · refine (assembles_setAlternative assembling _).bind fun _ _ assembling => ?_
        refine (assembles_consumeOptional supplies assembling closings false).bind
          fun closed _ assembling => ?_
        cases closed with
        | true =>
          exact meets_pure fun allowed =>
            ⟨_, takes_listParts_trailing list count allowed, assembling⟩
        | false =>
          refine (assembles_consume supplies assembling items).bind fun matched _ assembling => ?_
          cases matched with
          | true =>
            have parts_eq : listParts list (count + 1) ++ whenAsked list.separator .separator ++
                [.item 0] = listParts list (count + 1 + 1) := by
              rw [listParts, listParts, Part.separated_replicate]
              simp only [List.append_assoc]
            refine inductionHypothesis (round + 1) (some (next.tree.stop node)) (count + 1) ?_
            rw [← parts_eq]
            exact assembling
          | false =>
            refine meets_pure fun allowed => ?_
            obtain ⟨unclosed, allowed⟩ := Bool.and_eq_true_iff.mp allowed
            have takes := takes_listParts_trailing list count allowed
            rw [whenAsked_of_isNone unclosed, List.append_nil] at takes
            exact ⟨_, takes, assembling⟩

/-- A list takes items between its delimiters. -/
theorem assembles_performList {list : ListRule} (budget : Nat) (name : String)
    (assembling : Assembling environment first (.list list) node [] before state) :
    (performList environment consume budget name list node state).Meets
      (Proper environment first) True fun matched after => matched = true →
        ∃ parts, (RuleKind.list list).Takes parts ∧
          Assembling environment first (.list list) node parts before after := by
  have openings : (RuleKind.list list).partName? .opening = list.opening := rfl
  have closings : (RuleKind.list list).partName? .closing = list.closing := rfl
  have items : (RuleKind.list list).partName? (.item 0) = some list.item := rfl
  have opened_eq : [] ++ whenAsked list.opening .opening = listParts list 0 := by
    rw [listParts, separated]
    simp
  unfold performList
  refine (assembles_consumeOptional supplies assembling openings true).bind
    fun opened _ assembling => ?_
  cases opened with
  | false => exact meets_pure fun absurd => by cases absurd
  | true =>
    rw [if_pos rfl, opened_eq] at assembling
    refine (assembles_consumeOptional supplies assembling closings false).bind
      fun closed _ assembling => ?_
    cases closed with
    | true =>
      exact meets_pure fun nullable =>
        ⟨_, takes_listParts list 0 fun _ => nullable, assembling⟩
    | false =>
      refine (assembles_consume supplies assembling items).bind fun matched _ assembling => ?_
      cases matched with
      | false =>
        refine meets_pure fun allowed => ⟨_, ?_, assembling⟩
        obtain ⟨nullable, unclosed⟩ := Bool.and_eq_true_iff.mp allowed
        have takes := takes_listParts list 0 fun _ => nullable
        rwa [whenAsked_of_isNone unclosed, List.append_nil] at takes
      | true =>
        have parts_eq : listParts list 0 ++ [.item 0] = listParts list (0 + 1) := by
          rw [listParts, listParts, separated, separated]
          simp
        refine assembles_listRounds supplies name budget 0 none 0 ?_
        rw [← parts_eq]
        exact assembling

/-! ### Sets -/

omit supplies in
/-- What some numbered items are called in a set. -/
def Numbers (set : SetRule) (items : List (Nat × String)) : Prop :=
  ∀ item ∈ items, set.items[item.1]? = some item.2

omit supplies in
/-- The items of a set go by their numbers. -/
theorem numbers_numbered (set : SetRule) : Numbers set (numbered set.items) := by
  intro item member
  obtain ⟨index, found⟩ := List.getElem?_of_mem member
  rw [numbered, List.getElem?_zip_eq_some] at found
  obtain ⟨bound, same⟩ := List.getElem?_eq_some_iff.mp found.1
  rw [← same, List.getElem_range, found.2]

/-- Some slots of a set have been taken, and the numbered items are those of the others. -/
structure Remaining (set : SetRule) (slots : List Nat) (available : List (Nat × String)) :
    Prop where
  nodup : slots.Nodup
  inside : ∀ slot ∈ slots, slot < set.items.length
  numbers : Numbers set available
  fresh : ∀ item ∈ available, item.1 ∉ slots
  complete : ∀ slot name, set.items[slot]? = some name →
    slot ∈ slots ∨ (slot, name) ∈ available

omit supplies in
theorem remaining_numbered (set : SetRule) : Remaining set [] (numbered set.items) where
  nodup := List.nodup_nil
  inside := List.forall_mem_nil _
  numbers := numbers_numbered set
  fresh _ _ := List.not_mem_nil
  complete slot name found := by
    refine .inr (List.mem_of_getElem? (i := slot) ?_)
    obtain ⟨bound, -⟩ := List.getElem?_eq_some_iff.mp found
    exact List.getElem?_zip_eq_some.mpr ⟨List.getElem?_range bound, found⟩

omit supplies in
theorem Remaining.take {set : SetRule} {slots : List Nat} {available : List (Nat × String)}
    (remaining : Remaining set slots available) {item : Nat × String} (listed : item ∈ available) :
    Remaining set (slots ++ [item.1]) (available.filter (·.1 != item.1)) where
  nodup := remaining.nodup.append (List.nodup_singleton _)
    (List.disjoint_singleton.mpr (remaining.fresh item listed))
  inside slot member := by
    rcases List.mem_append.mp member with early | last
    · exact remaining.inside slot early
    · rw [List.mem_singleton.mp last]
      exact (List.getElem?_eq_some_iff.mp (remaining.numbers item listed)).1
  numbers other member := remaining.numbers other (List.mem_filter.mp member).1
  fresh other member again := by
    obtain ⟨member, distinct⟩ := List.mem_filter.mp member
    rcases List.mem_append.mp again with early | last
    · exact remaining.fresh other member early
    · exact bne_iff_ne.mp distinct (List.mem_singleton.mp last)
  complete slot name found := by
    rcases remaining.complete slot name found with taken | left
    · exact .inl (List.mem_append_left _ taken)
    · by_cases same : slot = item.1
      · exact .inl (List.mem_append_right _ (List.mem_singleton.mpr same))
      · exact .inr (List.mem_filter.mpr ⟨left, bne_iff_ne.mpr same⟩)

/-- The first item that matches is the next part. -/
theorem assembles_firstMatch {set : SetRule} {items : List (Nat × String)}
    (numbers : Numbers set items)
    (assembling : Assembling environment first (.set set) node parts before state) :
    (firstMatch consume node items state).Meets (Proper environment first) True
      fun matched after => match matched with
        | none => Assembling environment first (.set set) node parts before after
        | some index => index ∈ items.map Prod.fst ∧
          Assembling environment first (.set set) node (parts ++ [.item index]) before after := by
  induction items generalizing state with
  | nil => exact meets_pure assembling
  | cons item rest inductionHypothesis =>
    have asked : (RuleKind.set set).partName? (.item item.1) = some item.2 :=
      numbers item List.mem_cons_self
    rw [firstMatch]
    refine (assembles_setAlternative assembling item.1).bind fun _ _ assembling => ?_
    refine (assembles_consume supplies assembling asked).bind fun matched _ assembling => ?_
    cases matched with
    | true => exact meets_pure ⟨List.mem_cons_self, assembling⟩
    | false =>
      refine (inductionHypothesis (fun other member => numbers other
        (List.mem_cons_of_mem _ member)) assembling).imp fun matched _ ended => ?_
      cases matched with
      | none => exact ended
      | some index => exact ⟨List.mem_cons_of_mem _ ended.1, ended.2⟩

/-- The parts of a set up to its latest separator. -/
def setParts (set : SetRule) (slots : List Nat) : List Part :=
  whenAsked set.opening .opening ++ followed set.separator (slots.map .item)

omit supplies in
/-- The next item of a set. -/
theorem setParts_append_item (set : SetRule) (slots : List Nat) (index : Nat) :
    setParts set slots ++ [.item index] = whenAsked set.opening .opening ++
      separated set.separator ((slots ++ [index]).map .item) := by
  rw [setParts, List.map_append, List.map_singleton, Part.separated_concat, List.append_assoc]

omit supplies in
/-- A separator comes after an item. -/
theorem setParts_concat (set : SetRule) (slots : List Nat) (index : Nat) :
    setParts set slots ++ [.item index] ++ whenAsked set.separator .separator =
      setParts set (slots ++ [index]) := by
  rw [setParts_append_item, setParts, Part.followed_of_ne_nil _ (by simp), List.append_assoc]

omit supplies in
/-- If no separator stands last, then there are none, or there are no items. -/
theorem Assembling.unpending {set : SetRule} {slots : List Nat}
    (assembling : Assembling environment first (.set set) node (setParts set slots) before after)
    (complete : (set.separator.isSome && !slots.isEmpty) = false) :
    Assembling environment first (.set set) node
      (whenAsked set.opening .opening ++ separated set.separator (slots.map .item))
      before after := by
  have none : set.separator = none ∨ slots.map Part.item = [] := by
    rw [List.map_eq_nil_iff]
    simpa [or_iff_not_imp_left, Option.isSome_iff_ne_none] using complete
  rwa [setParts, Part.followed_of_none none] at assembling

/-- A set has taken some of its items, and no separator stands last. -/
def TookItems (environment : Environment) (first : Grammar) (set : SetRule) (node : Nat)
    (before after : State) : Prop :=
  ∃ slots : List Nat, slots.Nodup ∧ (∀ slot ∈ slots, slot < set.items.length) ∧
    Assembling environment first (.set set) node
      (whenAsked set.opening .opening ++ separated set.separator (slots.map .item)) before after

/-- The rounds of a set take items that have not been taken before. -/
theorem assembles_setRounds {set : SetRule} {slots : List Nat} {rounds : Nat}
    {available : List (Nat × String)} {pending : Bool} (remaining : Remaining set slots available)
    (pending_eq : pending = (set.separator.isSome && !slots.isEmpty))
    (assembling : Assembling environment first (.set set) node (setParts set slots)
      before state) :
    (setRounds consume set node rounds available pending state).Meets (Proper environment first)
      True fun pending after => pending = false →
        TookItems environment first set node before after := by
  induction rounds generalizing slots available pending state with
  | zero =>
    exact meets_pure fun complete =>
      ⟨slots, remaining.nodup, remaining.inside, assembling.unpending (pending_eq ▸ complete)⟩
  | succ rounds inductionHypothesis =>
    rw [setRounds]
    refine (assembles_firstMatch supplies remaining.numbers assembling).bind
      fun matched _ ended => ?_
    cases matched with
    | none =>
      exact meets_pure fun complete =>
        ⟨slots, remaining.nodup, remaining.inside, ended.unpending (pending_eq ▸ complete)⟩
    | some index =>
      obtain ⟨member, assembling⟩ := ended
      obtain ⟨item, listed, rfl⟩ := List.mem_map.mp member
      have remaining := remaining.take listed
      have taken_eq := setParts_concat set slots item.1
      cases separator : set.separator with
      | none =>
        rw [separator, whenAsked, Option.isSome_none, if_neg Bool.false_ne_true,
          List.append_nil] at taken_eq
        rw [taken_eq] at assembling
        exact inductionHypothesis remaining (by rw [separator]; rfl) assembling
      | some name =>
        have asked : (RuleKind.set set).partName? .separator = some name := separator
        refine (assembles_consume supplies assembling asked).bind fun matched _ assembling => ?_
        cases matched with
        | true =>
          rw [separator, whenAsked, Option.isSome_some, if_pos rfl] at taken_eq
          rw [if_pos rfl, taken_eq] at assembling
          exact inductionHypothesis remaining (by rw [separator]; simp) assembling
        | false =>
          rw [if_neg Bool.false_ne_true, setParts_append_item] at assembling
          exact meets_pure fun _ => ⟨_, remaining.nodup, remaining.inside, assembling⟩

/-- A set takes some of its items between its delimiters. -/
theorem assembles_performSet {set : SetRule}
    (assembling : Assembling environment first (.set set) node [] before state) :
    (performSet consume set node state).Meets (Proper environment first) True
      fun matched after => matched = true → ∃ parts, (RuleKind.set set).Takes parts ∧
        Assembling environment first (.set set) node parts before after := by
  have openings : (RuleKind.set set).partName? .opening = set.opening := rfl
  have closings : (RuleKind.set set).partName? .closing = set.closing := rfl
  have opened_eq : [] ++ whenAsked set.opening .opening = setParts set [] := by
    rw [setParts, List.map_nil, followed, if_pos rfl, List.append_nil, List.nil_append]
  unfold performSet
  refine (assembles_consumeOptional supplies assembling openings true).bind
    fun opened _ assembling => ?_
  cases opened with
  | false => exact meets_pure fun absurd => by cases absurd
  | true =>
    rw [if_pos rfl, opened_eq] at assembling
    refine (assembles_setRounds supplies (remaining_numbered set) (by simp) assembling).bind
      fun pending _ ended => ?_
    cases pending with
    | true => exact meets_pure fun absurd => by cases absurd
    | false =>
      obtain ⟨slots, nodup, inside, assembling⟩ := ended rfl
      refine (assembles_consumeOptional supplies assembling closings true).imp
        fun matched _ assembling => ?_
      rintro rfl
      exact ⟨_, ⟨slots, nodup, inside, rfl⟩, assembling⟩

/-! ### Operators and imports -/

/-- An operator takes operands with operators between them. -/
theorem assembles_operatorRounds {operator : OperatorRule} (budget count : Nat)
    (assembling : Assembling environment first (.operator operator) node
      (separated (some operator.operator) (List.replicate (count + 1) (.item 0))) before state) :
    (operatorRounds consume operator node budget state).Meets (Proper environment first) True
      fun matched after => matched = true → ∃ parts,
        (RuleKind.operator operator).Takes parts ∧
          Assembling environment first (.operator operator) node parts before after := by
  have signs : (RuleKind.operator operator).partName? .separator = some operator.operator := rfl
  have operands : (RuleKind.operator operator).partName? (.item 0) = some operator.operand := rfl
  induction budget generalizing count state with
  | zero => exact meets_exhausted trivial
  | succ budget inductionHypothesis =>
    rw [operatorRounds]
    refine (assembles_consume supplies assembling signs).bind fun signed _ assembling => ?_
    cases signed with
    | false => exact meets_pure fun _ => ⟨_, ⟨count, rfl⟩, assembling⟩
    | true =>
      refine (assembles_consume supplies assembling operands).bind fun matched _ assembling => ?_
      cases matched with
      | false => exact meets_pure fun absurd => by cases absurd
      | true =>
        refine inductionHypothesis (count + 1) ?_
        rw [Part.separated_replicate]
        exact assembling

theorem assembles_performOperator {operator : OperatorRule} (budget : Nat) (self : Rule)
    (assembling : Assembling environment first (.operator operator) node [] before state) :
    (performOperator consume budget self operator node state).Meets (Proper environment first)
      True fun matched after => matched = true → ∃ parts,
        (RuleKind.operator operator).Takes parts ∧
          Assembling environment first (.operator operator) node parts before after := by
  have operands : (RuleKind.operator operator).partName? (.item 0) = some operator.operand := rfl
  unfold performOperator
  refine meets_read_bind ?_
  split
  · exact meets_pure fun absurd => by cases absurd
  · refine (assembles_consume supplies assembling operands).bind fun matched _ assembling => ?_
    cases matched with
    | false => exact meets_pure fun absurd => by cases absurd
    | true => exact assembles_operatorRounds supplies budget 0 assembling

/-- An import takes the one rule that it names, behind whitespace. -/
theorem assembles_performImport (faithful : environment.source.Faithful) {target : ImportRule}
    (assembling : Assembling environment first (.imported target) node [] before state) :
    (performImport environment consume target node state).Meets (Proper environment first) True
      fun matched after => matched = true → ∃ parts, (RuleKind.imported target).Takes parts ∧
        Assembling environment first (.imported target) node parts before after := by
  refine (meets_performImport faithful supplies.reliable assembling.toWorking target).and_done.imp
    fun matched after ended => ?_
  obtain ⟨working, done⟩ := ended
  rintro rfl
  refine ⟨[.item 0], rfl, working, ?_⟩
  rw [performImport] at done
  cases found : environment.registry.lookup? target.grammar with
  | none =>
    rw [found] at done
    cases done
  | some grammar =>
    rw [found] at done
    obtain ⟨next, inner, rfl⟩ := Step.done_of_withGrammar done
    obtain ⟨_, middle, skipping, asking⟩ := Step.done_of_bind inner
    have entered : Ready environment first node { state with grammar } :=
      ⟨⟨assembling.sound.tree, .inr ⟨_, found⟩, assembling.sound.memoizing,
        assembling.sound.memo⟩, assembling.isOpen⟩
    have skipped := skipped_of_done faithful entered skipping
    have answered := (supplies.reliable node target.rule middle skipped.ready).returns _ _ asking
    have stocked := assembling.stocked.trailed skipped.trailed skipped.semantic_eq
      assembling.sound.tree skipped.grown skipped.sound.tree assembling.grown.inside
    exact (answered.added rfl).stocked stocked assembling.grown.inside rfl
      (supplies.forms node target.rule middle next skipped.ready asking)

/-! ### Any rule -/

/-- A rule that is no token takes parts that a rule of its kind may take. -/
theorem assembles_perform (faithful : environment.source.Faithful) (budget : Nat)
    (notToken : rule.isToken = false)
    (assembling : Assembling environment first rule.kind node [] before state) :
    (perform environment consume budget rule node state).Meets (Proper environment first) True
      fun matched after => matched = true → ∃ parts, rule.kind.Takes parts ∧
        Assembling environment first rule.kind node parts before after := by
  rw [perform]
  cases kind : rule.kind with
  | token token =>
    rw [Rule.isToken, Rule.token?, kind] at notToken
    cases notToken
  | sequence items =>
    rw [kind] at assembling
    exact (assembles_performSequence supplies [] items rfl assembling).imp
      fun _ _ ended success => ⟨_, rfl, ended success⟩
  | choice choice =>
    rw [kind] at assembling
    exact assembles_performChoice supplies [] choice.alternatives rfl assembling
  | list list =>
    rw [kind] at assembling
    exact assembles_performList supplies budget rule.name assembling
  | set set =>
    rw [kind] at assembling
    exact assembles_performSet supplies assembling
  | operator operator =>
    rw [kind] at assembling
    exact assembles_performOperator supplies budget rule assembling
  | imported target =>
    rw [kind] at assembling
    exact assembles_performImport supplies faithful assembling

/-- The match of a rule that is no token is well made, and so is all below it. -/
theorem formed_attemptWith (faithful : environment.source.Faithful) (budget : Nat)
    (notToken : rule.isToken = false) (ready : Ready environment first parent state)
    (done : (attemptWith rule parent (perform environment consume budget rule) state).outcome =
      .done true after) : after.tree.Formed state.tree.size := by
  have new := Tree.node_attach_new ready.isOpen.inside (.rule rule)
  have size_eq := Tree.size_attach state.tree parent (.rule rule)
  have begun : Assembling environment first rule.kind state.tree.size []
      { state with tree := state.tree.attach parent (.rule rule) }
      { state with tree := state.tree.attach parent (.rule rule) } :=
    ⟨.refl (ready_attach ready (.rule rule)), Tree.stocked_nil (by rw [new]) (by rw [new])⟩
  rw [attemptWith, Step.outcome_read_bind, Step.changeTree, Step.outcome_change_bind] at done
  obtain ⟨matched, next, performed, done⟩ := Step.done_of_bind done
  cases matched with
  | false => cases done
  | true =>
    cases done
    obtain ⟨parts, takes, assembling⟩ :=
      (assembles_perform supplies faithful budget notToken begun).returns _ _ performed rfl
    obtain ⟨-, isRule, kept⟩ := assembling.grown.start_eq begun.isOpen.inside
    rw [new] at isRule kept
    intro id above inside
    rcases Nat.eq_or_lt_of_le above with same | less
    · rw [← same]
      exact assembling.stocked.wellMade isRule notToken kept takes
    · exact assembling.stocked.formed id (by rw [size_eq]; exact less) inside

end

/-! ### The operation itself -/

/-- All that is new after the match of a token are tokens. -/
theorem terminal_of_token (ready : Ready environment first parent before)
    (isToken : rule.isToken = true)
    (tried : Tried environment first rule parent before true after) {id : Nat}
    (new : before.tree.size ≤ id) (inside : id < after.tree.size) :
    (after.tree.node id).terminal = true := by
  have intact := ready.tree
  refine (tried.working ready).1.grown.terminal_of_new
    (fun id child listed => (intact.ordered id child listed).1) tried.sound.tree
    (fun child listed new => ?_) new inside
  rw [(tried.attached ready).1] at listed
  rcases Array.mem_push.mp listed with old | rfl
  · exact absurd (intact.ordered parent child old).1 (Nat.not_lt_of_le new)
  · exact tried.terminal rfl isToken

/-- The match of a token is well made. -/
theorem formed_of_token (ready : Ready environment first parent before)
    (isToken : rule.isToken = true)
    (tried : Tried environment first rule parent before true after) :
    after.tree.Formed before.tree.size :=
  fun _ new inside => Tree.wellMade_of_terminal tried.sound.tree
    (terminal_of_token ready isToken tried new inside)

/-- The match of any rule is well made, and so is all below it, whether or not a memo is asked. -/
theorem formed_attemptMemoized (supplies : Supplies environment first consume)
    (faithful : environment.source.Faithful) (budget : Nat)
    (ready : Ready environment first parent before)
    (tried : Tried environment first rule parent before true after)
    (done : (attemptMemoized rule parent
      (attemptWith rule parent (perform environment consume budget rule)) before).outcome =
        .done true after) : after.tree.Formed before.tree.size := by
  cases isToken : rule.isToken with
  | true => exact formed_of_token ready isToken tried
  | false =>
    rw [outcome_attemptMemoized, isToken, Bool.and_false, if_neg Bool.false_ne_true] at done
    exact formed_attemptWith supplies faithful budget isToken ready done

/-- All that a request leaves behind is well made. -/
theorem supplies_consume (faithful : environment.source.Faithful) (fuel : Nat) :
    Supplies environment first (Parse.consume environment fuel) := by
  refine ⟨reliable_consume faithful (excuses_always environment first) fuel, ?_⟩
  induction fuel with
  | zero => exact fun _ _ _ _ _ done => by cases done
  | succ fuel inductionHypothesis =>
    intro node name state after ready done
    have supplies : Supplies environment first (Parse.consume environment fuel) :=
      ⟨reliable_consume faithful (excuses_always environment first) fuel, inductionHypothesis⟩
    obtain ⟨rule, entered, middle, stages⟩ := exists_stages faithful ready done
    obtain ⟨skipped, skipping, settled⟩ := stages.succeeded rfl
    have formed := formed_attemptMemoized supplies faithful fuel stages.ready stages.tried
      stages.attempted
    have here := (stages.tried.working stages.ready).1
    have blanks := skipped_of_done faithful here.ready skipping
    rw [stages.noted.tree_eq] at formed
    rw [settled.tree_eq]
    exact formed.grown blanks.grown ready.isOpen.inside
      (blanks.trailed.formed here.sound.tree blanks.grown blanks.sound.tree)

/-- All nodes of a finished tree are well made. -/
theorem wellMade_of_done (faithful : environment.source.Faithful) {fuel : Nat}
    (done : (begin environment fuel name (State.initial first environment.options)).outcome =
      .done true after) (id : Nat) : after.tree.WellMade id := by
  have supplies : Supplies environment first (Parse.consume environment fuel) :=
    supplies_consume faithful fuel
  have ready := ready_initial environment first
  obtain ⟨_, middle, skipping, asking⟩ := Step.done_of_bind done
  have skipped := skipped_of_done faithful ready skipping
  have answered := (supplies.reliable _ name middle skipped.ready).returns _ _ asking
  have formed : after.tree.Formed 1 :=
    (skipped.trailed.formed ready.tree skipped.grown skipped.sound.tree).grown
      (answered.added rfl).grown Nat.one_pos
      (supplies.forms _ name middle after skipped.ready asking)
  by_cases isRoot : id = Tree.root
  · obtain ⟨-, isRoot_eq, kept⟩ := (skipped.grown.trans (answered.added rfl).grown).start_eq
      skipped.grown.inside
    rw [isRoot]
    refine Tree.wellMade_of_root isRoot_eq kept ?_
    rw [(answered.added rfl).semantic_eq, skipped.semantic_eq]
    exact Nat.le_refl 1
  · by_cases inside : id < after.tree.size
    · exact formed id (Nat.pos_of_ne_zero isRoot) inside
    · exact Tree.wellMade_of_size_le (Nat.le_of_not_lt inside)

end Parse

end Rulebook
