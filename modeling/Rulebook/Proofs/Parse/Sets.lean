/-
This file says how the matches of sets read. Between its delimiters a match of a set has items, each
of them at most once, with separators between them. If the set has no separators, then it takes
items as long as it can: where it took no more, each of the items that are left was asked for and
did not match.
-/

import Mathlib.Data.List.Perm.Subperm
import Rulebook.Proofs.Ast.Omission
import Rulebook.Proofs.Parse.Matches

namespace Rulebook

open Rulebook.Part (whenAsked separated)

/-! ### The parts of a set -/

/-- The names of the items among some parts of a rule. -/
def RuleKind.itemNames (kind : RuleKind) (parts : List Part) : List String :=
  (parts.filter (·.isItem)).filterMap kind.partName?

namespace SetRule

/-- Some parts are in an order in which a set takes them: it takes the items of some of its slots,
no slot twice, with separators between them. So no item is taken more often than it was declared. -/
structure Spells (set : SetRule) (slots : List Nat) (parts : List Part) : Prop where
  nodup : slots.Nodup
  inside : ∀ slot ∈ slots, slot < set.items.length
  parts_eq : parts = whenAsked set.opening .opening ++
    separated set.separator (slots.map .item) ++ whenAsked set.closing .closing
  contained : ((RuleKind.set set).itemNames parts).Subperm set.items

variable {set : SetRule} {slots : List Nat}

theorem filter_isItem_whenAsked {part : Part} (noItem : part.isItem = false)
    (asked : Option String) : (whenAsked asked part).filter (·.isItem) = [] := by
  rw [whenAsked]
  cases asked with
  | none => rfl
  | some name => exact List.filter_cons_of_neg (by rw [noItem]; exact Bool.false_ne_true)

theorem filter_isItem_separated (separator : Option String) (slots : List Nat) :
    (separated separator (slots.map .item)).filter (·.isItem) = slots.map .item := by
  have items : ∀ part ∈ slots.map Part.item, part.isItem = true := by
    intro part member
    obtain ⟨slot, -, rfl⟩ := List.mem_map.mp member
    rfl
  rw [separated]
  cases separator with
  | none => exact List.filter_eq_self.mpr items
  | some separator =>
    rw [Option.isSome_some, if_pos rfl]
    induction slots with
    | nil => rfl
    | cons slot rest inductionHypothesis =>
      cases rest with
      | nil => rfl
      | cons next rest =>
        have items : ∀ part ∈ (next :: rest).map Part.item, part.isItem = true := fun part member =>
          items part (List.mem_cons_of_mem _ member)
        exact congrArg (Part.item slot :: ·) (inductionHypothesis items)

theorem itemNames_eq (set : SetRule) (slots : List Nat) :
    (RuleKind.set set).itemNames (whenAsked set.opening .opening ++
      separated set.separator (slots.map .item) ++ whenAsked set.closing .closing) =
        slots.filterMap (set.items[·]?) := by
  rw [RuleKind.itemNames, List.filter_append, List.filter_append, filter_isItem_whenAsked rfl,
    filter_isItem_whenAsked rfl, filter_isItem_separated, List.nil_append, List.append_nil,
    List.filterMap_map]
  rfl

/-- No slot is taken twice, so no item is taken more often than there are slots for it. -/
theorem subperm_of_nodup (nodup : slots.Nodup) (inside : ∀ slot ∈ slots, slot < set.items.length) :
    (slots.filterMap (set.items[·]?)).Subperm set.items := by
  have among : slots.Subperm (List.range set.items.length) :=
    List.subperm_of_subset nodup fun slot member => List.mem_range.mpr (inside slot member)
  obtain ⟨ordered, perm, sublist⟩ := among
  have names := sublist.filterMap (set.items[·]?)
  rw [filterMap_range] at names
  exact ⟨_, perm.filterMap _, names⟩

theorem spells (nodup : slots.Nodup) (inside : ∀ slot ∈ slots, slot < set.items.length) :
    set.Spells slots (whenAsked set.opening .opening ++
      separated set.separator (slots.map .item) ++ whenAsked set.closing .closing) where
  nodup := nodup
  inside := inside
  parts_eq := rfl
  contained := by
    rw [itemNames_eq]
    exact subperm_of_nodup nodup inside

end SetRule

namespace Match.Tree

/-- Where the items of the match of a set stop: where its closing delimiter starts, or where the
match itself stops. -/
def itemsStop (tree : Tree) (set : SetRule) (id : Nat) : Nat :=
  match set.closing with
  | none => tree.stop id
  | some _ => ((tree.node id).semantic.back?.map fun child => (tree.node child).start).getD
      (tree.stop id)

end Match.Tree

namespace Parse

open Match (Tree)

variable {environment : Environment} {first : Grammar} {before state after : State}
  {node parent fuel : Nat} {name : String} {rule : Rule} {set : SetRule}

/-! ### What is left of a set -/

/-- A rule was asked for at a node, at an offset, and did not match. This was done within some
moments. -/
def Refused (consume : Consume) (node offset : Nat) (moments : List Moment) (name : String) :
    Prop :=
  ∃ tried failed, tried.tree.stop node = offset ∧
    (consume node name tried).outcome = .done false failed ∧
      (consume node name tried).trail.moments ⊆ moments

theorem Refused.within {consume : Consume} {offset : Nat} {moments more : List Moment}
    (refused : Refused consume node offset moments name) (subset : moments ⊆ more) :
    Refused consume node offset more name := by
  obtain ⟨tried, failed, stop_eq, done, among⟩ := refused
  exact ⟨tried, failed, stop_eq, done, List.Subset.trans among subset⟩

section

variable {consume : Consume} (supplies : Supplies environment first consume)
include supplies

/-- If no item matches, then all of them have been refused. -/
theorem refused_of_firstMatch {items : List (Nat × String)}
    (ready : Ready environment first node state)
    (done : (firstMatch consume node items state).outcome = .done none after) :
    after.tree = state.tree ∧ ∀ item ∈ items, Refused consume node (state.tree.stop node)
      (firstMatch consume node items state).trail.moments item.2 := by
  induction items generalizing state with
  | nil =>
    cases done
    exact ⟨rfl, List.forall_mem_nil _⟩
  | cons item rest inductionHypothesis =>
    rw [firstMatch] at done ⊢
    obtain ⟨_, noted, noting, done⟩ := Step.done_of_bind done
    have same := sameBut_of_setAlternative noting
    have asking := same.ready ready
    obtain ⟨matched, next, asked, done⟩ := Step.done_of_bind done
    cases matched with
    | true => cases done
    | false =>
      have answered := (supplies.reliable node item.2 noted asking).returns _ _ asked
      have tree_eq : next.tree = state.tree := (answered.restored rfl).trans same.tree_eq
      obtain ⟨restored, refused⟩ := inductionHypothesis ⟨answered.sound, by
        rw [tree_eq]
        exact ready.isOpen⟩ done
      refine ⟨restored.trans tree_eq, List.forall_mem_cons.mpr ⟨?_, fun other member => ?_⟩⟩
      · refine ⟨noted, next, by rw [same.tree_eq], asked, ?_⟩
        refine List.Subset.trans ?_ (Step.moments_second_subset _ noting)
        exact Step.moments_first_subset _ _ noted
      · have later := refused other member
        rw [tree_eq] at later
        refine later.within ?_
        refine List.Subset.trans ?_ (Step.moments_second_subset _ noting)
        rw [(Step.bind_of_done _ asked).2]
        exact List.subset_append_right _ _

/-- A set has taken the items of some slots, and the items of all other slots have been refused
where it took no more. -/
def TookAll (environment : Environment) (first : Grammar) (consume : Consume) (set : SetRule)
    (node offset : Nat) (moments : List Moment) (slots : List Nat) (parts : List Part)
    (before after : State) : Prop :=
  slots.Nodup ∧ (∀ slot ∈ slots, slot < set.items.length) ∧
    Assembling environment first (.set set) node parts before after ∧
    ∀ slot name, set.items[slot]? = some name → slot ∉ slots →
      Refused consume node offset moments name

/-- Without separators, the rounds of a set go on until no item that is left matches. -/
theorem tookAll_of_setRounds (noSeparator : set.separator = none) {slots : List Nat}
    {available : List (Nat × String)} {rounds : Nat} {pending left : Bool}
    (remaining : Remaining set slots available) (few : available.length ≤ rounds)
    (assembling : Assembling environment first (.set set) node (setParts set slots) before state)
    (done : (setRounds consume set node rounds available pending state).outcome =
      .done left after) :
    ∃ used, TookAll environment first consume set node (after.tree.stop node)
      (setRounds consume set node rounds available pending state).trail.moments used
      (setParts set used) before after := by
  induction rounds generalizing slots available pending state with
  | zero =>
    cases done
    obtain rfl := List.eq_nil_of_length_eq_zero (Nat.le_zero.mp few)
    refine ⟨slots, remaining.nodup, remaining.inside, assembling, fun slot name found unused => ?_⟩
    rcases remaining.complete slot name found with taken | absurd
    · exact absurd taken unused
    · cases absurd
  | succ rounds inductionHypothesis =>
    rw [setRounds] at done ⊢
    obtain ⟨matched, next, matching, done⟩ := Step.done_of_bind done
    have ended := (assembles_firstMatch supplies remaining.numbers assembling).returns _ _ matching
    cases matched with
    | none =>
      cases done
      obtain ⟨tree_eq, refused⟩ := refused_of_firstMatch supplies assembling.ready matching
      refine ⟨slots, remaining.nodup, remaining.inside, ended, fun slot name found unused => ?_⟩
      rw [tree_eq]
      have item := (remaining.complete slot name found).resolve_left unused
      exact (refused _ item).within (Step.moments_first_subset _ _ state)
    | some index =>
      obtain ⟨member, taken⟩ := ended
      obtain ⟨item, listed, rfl⟩ := List.mem_map.mp member
      have parts_eq := setParts_concat set slots item.1
      rw [noSeparator, whenAsked, Option.isSome_none, if_neg Bool.false_ne_true,
        List.append_nil] at parts_eq
      rw [parts_eq] at taken
      have fewer : (available.filter (·.1 != item.1)).length < available.length :=
        List.length_filter_lt_length_iff_exists.mpr ⟨item, listed, by simp⟩
      rw [(Step.bind_of_done _ matching).2]
      dsimp only at done ⊢
      rw [noSeparator] at done ⊢
      obtain ⟨used, nodup, inside, assembled, refused⟩ :=
        inductionHypothesis (remaining.take listed) (by omega) taken done
      exact ⟨used, nodup, inside, assembled, fun slot name found unused =>
        (refused slot name found unused).within (List.subset_append_right _ _)⟩

omit supplies in
/-- A set that matches opens, takes items up to a point where no separator stands last, and
closes. -/
theorem rounds_of_performSet (done : (performSet consume set node state).outcome =
      .done true after) :
    let rounds := setRounds consume set node set.items.length (numbered set.items) false
    ∃ opened taken, (consumeOptional consume node set.opening true state).outcome =
        .done true opened ∧
      (rounds opened).outcome = .done false taken ∧
      (consumeOptional consume node set.closing true taken).outcome = .done true after ∧
      (rounds opened).trail.moments ⊆ (performSet consume set node state).trail.moments := by
  intro rounds
  rw [performSet] at done ⊢
  obtain ⟨answer, opened, opening, done⟩ := Step.done_of_bind done
  rw [(Step.bind_of_done _ opening).2]
  cases answer with
  | false => cases done
  | true =>
    have done : ((rounds >>= fun pending =>
        if pending = true then pure false else consumeOptional consume node set.closing true)
          opened).outcome = .done true after := done
    obtain ⟨pending, taken, taking, done⟩ := Step.done_of_bind done
    cases pending with
    | true => cases done
    | false =>
      refine ⟨opened, taken, opening, taking, done, ?_⟩
      exact List.Subset.trans (Step.moments_first_subset rounds _ opened)
        (List.subset_append_right _ _)

/-- The items of a set stop where the closing delimiter is asked for. -/
theorem itemsStop_of_closing (ready : Ready environment first node state)
    (done : (consumeOptional consume node set.closing true state).outcome = .done true after) :
    after.tree.itemsStop set node = state.tree.stop node := by
  rw [Tree.itemsStop]
  cases closing : set.closing with
  | none =>
    rw [closing] at done
    cases done
    rfl
  | some name =>
    rw [closing] at done
    have added := ((supplies.reliable node name state ready).returns _ _ done).added rfl
    dsimp only
    rw [added.semantic_eq, Array.back?_push, Option.map_some, Option.getD_some, added.start_eq]

/-- Without separators, a set that matches has left no item that would have matched. -/
theorem tookAll_of_performSet (noSeparator : set.separator = none)
    (assembling : Assembling environment first (.set set) node [] before state)
    (done : (performSet consume set node state).outcome = .done true after) :
    ∃ used, TookAll environment first consume set node (after.tree.itemsStop set node)
      (performSet consume set node state).trail.moments used
      (whenAsked set.opening .opening ++ separated set.separator (used.map .item) ++
        whenAsked set.closing .closing) before after := by
  have openings : (RuleKind.set set).partName? .opening = set.opening := rfl
  have closings : (RuleKind.set set).partName? .closing = set.closing := rfl
  obtain ⟨opened, taken, opening, taking, closing, among⟩ := rounds_of_performSet done
  have begun : Assembling environment first (.set set) node (setParts set []) before opened := by
    have assembled :=
      (assembles_consumeOptional supplies assembling openings true).returns _ _ opening
    rwa [if_pos rfl, List.nil_append, ← List.append_nil (whenAsked _ _)] at assembled
  obtain ⟨used, nodup, inside, assembled, refused⟩ := tookAll_of_setRounds supplies noSeparator
    (remaining_numbered set) (by simp [numbered]) begun taking
  rw [setParts, Part.followed_of_none (.inl noSeparator)] at assembled
  rw [itemsStop_of_closing supplies assembled.ready closing]
  exact ⟨used, nodup, inside,
    (assembles_consumeOptional supplies assembled closings true).returns _ _ closing,
    fun slot name found unused => (refused slot name found unused).within among⟩

end

/-! ### Requests for sets -/

/-- While there is work at a node above it, the items of a match stop where they did. -/
theorem itemsStop_grown {earlier later : Tree} {chars : List Char} {id : Nat}
    (growth : Tree.Grown parent earlier later) (intact : earlier.Intact chars) (above : parent < id)
    (inside : id < earlier.size) : later.itemsStop set id = earlier.itemsStop set id := by
  have same := growth.node_after above inside
  rw [Tree.itemsStop, Tree.itemsStop, Tree.stop, Tree.stop, same]
  cases set.closing with
  | none => rfl
  | some closing =>
    dsimp only
    cases last : (earlier.node id).semantic.back? with
    | none => rfl
    | some child =>
      have listed : child ∈ (earlier.node id).semantic := Array.mem_of_back? last
      rw [Option.map_some, Option.map_some,
        (growth.start_eq (inside_of_mem_semantic intact listed)).1]

/-- A request for a set without separators that succeeds leaves no item of the set that would have
matched. -/
theorem tookAll_of_request (faithful : environment.source.Faithful)
    (ready : Ready environment first parent state)
    (done : (consume environment (fuel + 1) parent name state).outcome = .done true after)
    (found : state.grammar.rule? name = some rule) (kind : rule.kind = .set set)
    (noSeparator : set.separator = none) :
    ∃ slots parts, set.Spells slots parts ∧
      ReadsAs state.grammar (.set set) after.tree parts
        (after.tree.node state.tree.size).semantic.toList ∧
      ∀ slot item, set.items[slot]? = some item → slot ∉ slots →
        Refused (consume environment fuel) state.tree.size
          (after.tree.itemsStop set state.tree.size)
          (consume environment (fuel + 1) parent name state).trail.moments item := by
  have supplies : Supplies environment first (consume environment fuel) :=
    supplies_consume faithful fuel
  have notToken : rule.isToken = false := by
    rw [Rule.isToken, Rule.token?, kind]
    rfl
  have notImport : rule.isImport = false := by rw [Rule.isImport, kind]
  have isMatch := (matchFrom_of_request faithful ready done found notToken notImport).2
  obtain ⟨own, entered, middle, stages⟩ := exists_stages faithful ready done
  obtain rfl := Option.some.inj (stages.found.symm.trans found)
  obtain ⟨next, performed, -, -, same⟩ := attempt_of_done notToken stages.attempted
  obtain rfl := same rfl
  have among := List.Subset.trans (moments_attempt_subset _ notToken entered) stages.within
  rw [perform, kind] at performed among
  have isOpen := stages.ready.isOpen
  have new := Tree.node_attach_new isOpen.inside (.rule own)
  have begun : Assembling environment first (.set set) entered.tree.size []
      { entered with tree := entered.tree.attach parent (.rule own) }
      { entered with tree := entered.tree.attach parent (.rule own) } :=
    ⟨.refl (ready_attach stages.ready (.rule own)), Tree.stocked_nil (by rw [new]) (by rw [new])⟩
  obtain ⟨used, nodup, inside, assembled, refused⟩ :=
    tookAll_of_performSet supplies noSeparator begun performed
  obtain ⟨skipped, skipping, settled⟩ := stages.succeeded rfl
  have blanks := skipped_of_done faithful (stages.tried.working stages.ready).1.ready skipping
  have child : entered.tree.size < middle.tree.size :=
    Nat.lt_of_lt_of_le begun.isOpen.inside assembled.grown.size_le
  rw [settled.tree_eq, ← stages.noted.tree_eq] at isMatch ⊢
  refine ⟨used, _, SetRule.spells nodup inside, ?_, fun slot item declared unused => ?_⟩
  · rw [← kind]
    refine isMatch.reads_of_stand (fun part => by rw [kind]; rfl) ?_
    rw [kind, blanks.grown.node_after isOpen.inside child]
    exact assembled.stocked.stand.imp fun _ _ stands => stands.grown blanks.grown
  · rw [itemsStop_grown blanks.grown assembled.sound.tree isOpen.inside child]
    exact (refused slot item declared unused).within among

/-- A request that is done has been made. -/
theorem mem_moments_of_done {matched : Bool}
    (done : (consume environment fuel parent name state).outcome = .done matched after) :
    ⟨.asked parent name, state⟩ ∈
      (consume environment fuel parent name state).trail.moments := by
  cases fuel with
  | zero => cases done
  | succ fuel =>
    rw [(consume_succ environment fuel parent name state).2]
    exact List.mem_cons_self

/-- All matches of sets read as they are spelled. A set without separators that matches in a state
of a parse has asked for each item that it did not take, where it stopped to take items, and the
item did not match. -/
theorem sets_read_as_spelled (input : String) (registry : Registry) (options : ParseOptions)
    (tracing : Bool) (first : Grammar) :
    let environment := Environment.ofText input registry options tracing
    OfMatches RuleKind.set environment first (fun grammar set builder id =>
      ∃ slots parts, set.Spells slots parts ∧
        ReadsAs grammar (.set set) builder.tree parts (builder.semantic id)) ∧
    ∀ start state parent, Reachable environment first start state → state.tree.Open parent →
      ∀ fuel name after,
        (consume environment (fuel + 1) parent name state).outcome = .done true after →
      ∀ rule set, state.grammar.rule? name = some rule → rule.kind = .set set →
        set.separator = none →
        let id := state.tree.size
        ∃ slots parts, set.Spells slots parts ∧
          ReadsAs state.grammar (.set set) after.tree parts (after.tree.node id).semantic.toList ∧
          ∀ slot item, set.items[slot]? = some item → slot ∉ slots → ∃ tried failed,
            ⟨.asked id item, tried⟩ ∈
              (consume environment (fuel + 1) parent name state).trail.moments ∧
            tried.tree.stop id = after.tree.itemsStop set id ∧
            (consume environment fuel id item tried).outcome = .done false failed := by
  intro environment
  have faithful := Environment.faithful_ofText input registry options tracing
  refine ⟨ofMatches_of_matchFrom faithful (fun _ _ => ⟨rfl, rfl⟩)
    fun grammar rule set tree id _ isMatch kind => ?_,
    fun start state parent reached isOpen fuel name after done rule set found kind
      noSeparator => ?_⟩
  · obtain ⟨parts, takes, reads⟩ := isMatch.reads fun part => by rw [kind]; rfl
    rw [kind] at takes reads
    obtain ⟨slots, nodup, inside, rfl⟩ := takes
    exact ⟨slots, _, SetRule.spells nodup inside, reads⟩
  · obtain ⟨slots, parts, spells, reads, refused⟩ := tookAll_of_request faithful
      ⟨reached.sound faithful, isOpen⟩ done found kind noSeparator
    refine ⟨slots, parts, spells, reads, fun slot item declared unused => ?_⟩
    obtain ⟨tried, failed, stop_eq, refusal, among⟩ := refused slot item declared unused
    exact ⟨tried, failed, among (mem_moments_of_done refusal), stop_eq, refusal⟩

/-- Some letters in any order. -/
def anyOrder (separator : Option String) : Grammar :=
  .ofCalls Workspace.compile "g" [.token "a" "a" false, .token "b" "b" false,
    .token "comma" "," false, .set "letters" { items := ["a", "b", "a"], separator },
    .startSymbol "letters"]

/-- Two letters with a separator between them are a set, and a set that takes one letter has asked
for the others. -/
theorem letters_read_as_spelled :
    (∃ result grammar, ∃ set : SetRule, ∃ slots parts,
      (run (Environment.ofText "b,a" {} {} false) 6 (anyOrder (some "comma")) none).answer =
        .parsed result ∧ set.Spells slots parts ∧ parts.length = 3 ∧
      ReadsAs grammar (.set set) result.tree parts (result.tree.node 1).semantic.toList) ∧
    ∃ after, ∃ set : SetRule, ∃ slots parts,
      (consume (Environment.ofText "a" {} {} false) 4 Tree.root "letters"
        (State.initial (anyOrder none) {})).outcome = .done true after ∧
      set.Spells slots parts ∧
      ∀ slot item, set.items[slot]? = some item → slot ∉ slots → ∃ tried failed,
        tried.tree.stop 1 = after.tree.itemsStop set 1 ∧
        (consume (Environment.ofText "a" {} {} false) 3 1 item tried).outcome =
          .done false failed := by
  constructor
  · obtain ⟨result, parsed, isSet, size_eq⟩ : ∃ result,
        (run (Environment.ofText "b,a" {} {} false) 6 (anyOrder (some "comma")) none).answer =
          .parsed result ∧ (result.tree.node 1).rule?.any (·.kind.label == "set") = true ∧
          (result.tree.node 1).semantic.size = 3 := by
      decide +kernel
    obtain ⟨rule, isRule, labelled⟩ := Match.Node.exists_rule isSet
    cases kind : rule.kind with
    | set set =>
      obtain ⟨grammar, -, -, slots, parts, spells, reads⟩ :=
        (sets_read_as_spelled "b,a" {} {} false (anyOrder (some "comma"))).1.2 6 none result parsed
          1 rule set isRule kind
      exact ⟨result, grammar, set, slots, parts, parsed, spells, reads.length_eq.trans size_eq,
        reads⟩
    | _ =>
      rw [kind] at labelled
      cases labelled
  · obtain ⟨after, matched⟩ : ∃ after, (consume (Environment.ofText "a" {} {} false) 4 Tree.root
        "letters" (State.initial (anyOrder none) {})).outcome = .done true after := ⟨_, rfl⟩
    obtain ⟨rule, set, found, kind, plain⟩ : ∃ rule, ∃ set : SetRule,
        (anyOrder none).rule? "letters" = some rule ∧ rule.kind = .set set ∧
          set.separator = none := ⟨_, _, rfl, rfl, rfl⟩
    obtain ⟨slots, parts, spells, -, refused⟩ :=
      (sets_read_as_spelled "a" {} {} false (anyOrder none)).2 "letters" _ Tree.root (.inl rfl)
        Tree.open_new 3 "letters" after matched rule set found kind plain
    refine ⟨after, set, slots, parts, matched, spells, fun slot item declared unused => ?_⟩
    obtain ⟨tried, failed, -, stop_eq, refusal⟩ := refused slot item declared unused
    exact ⟨tried, failed, stop_eq, refusal⟩

end Parse

end Rulebook
