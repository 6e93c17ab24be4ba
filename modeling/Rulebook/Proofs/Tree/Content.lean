/-
This file compares the end of the content of a node with the end of the last token that was taken
at or below it. The content of a node is found by going to the latest child that took input and
was not skipped, again and again. It ends with the last token that was taken unless the way leads
to a match that took input but no token. If nodes other than imports skip no whitespace before
they have taken something, then such a match is idle from its first byte on, and the first byte
of it was skipped by an import.
-/

import Rulebook.Proofs.Tree.Extent
import Rulebook.Proofs.Tree.Makeup

namespace Rulebook.Match

/-- An import produced the node. -/
def Node.isImport (node : Node) : Bool :=
  node.rule?.any (·.isImport)

namespace Tree

variable {chars : List Char} {tree : Tree} {id child leaf other bound : Nat}

/-! ### Below a node -/

/-- The nodes at and below a node, parents before children. -/
def below (tree : Tree) (id : Nat) : List Nat :=
  tree.descendantsWithin tree.size id

namespace Intact

variable (intact : tree.Intact chars)
include intact

theorem below_eq (inside : id < tree.size) :
    tree.below id = id :: (tree.node id).children.toList.flatMap tree.below := by
  obtain ⟨depth, size_eq⟩ : ∃ depth, tree.size = depth + 1 := ⟨tree.size - 1, by omega⟩
  rw [below, size_eq, descendantsWithin]
  refine congrArg (id :: ·) (List.flatMap_congr fun child listed => ?_)
  have less := intact.lt_of_child (Array.mem_toList_iff.mp listed)
  have childInside := intact.child_inside listed
  rw [below, size_eq, descendantsWithin_succ (fun id child listed =>
    ⟨intact.lt_of_child listed, (intact.ordered id child listed).1⟩) childInside (by omega)]

theorem mem_below_self (inside : id < tree.size) : id ∈ tree.below id := by
  rw [intact.below_eq inside]
  exact List.mem_cons_self

theorem mem_below_of_child (listed : child ∈ (tree.node id).children.toList)
    (member : other ∈ tree.below child) : other ∈ tree.below id := by
  rw [intact.below_eq (intact.parent_inside listed)]
  exact List.mem_cons_of_mem _ (List.mem_flatMap.mpr ⟨child, listed, member⟩)

/-- What is true of a node if it is true of its children is true of every node. -/
theorem induction_below {motive : Nat → Prop}
    (node : ∀ id, (∀ child ∈ (tree.node id).children.toList, motive child) → motive id)
    (id : Nat) : motive id := by
  -- Children come after their parent, so the induction is on the number of nodes that follow.
  induction remaining : tree.size - id using Nat.strongRecOn generalizing id with
  | ind remaining inductionHypothesis =>
    refine node id fun child listed => ?_
    have less := intact.lt_of_child (Array.mem_toList_iff.mp listed)
    have inside := intact.child_inside listed
    exact inductionHypothesis (tree.size - child) (by omega) child rfl

end Intact

/-! ### Tokens that were taken -/

/-- A token has matched at a node, and the node counts as content. -/
def isTaken (tree : Tree) (id : Nat) : Bool :=
  (tree.node id).terminal && tree.isContent id

/-- The tokens at and below a node that took input and were not skipped. -/
def taken (tree : Tree) (id : Nat) : List Nat :=
  (tree.below id).filter tree.isTaken

/-- Where the last of the tokens ends that were taken at or below a node, or else where the node
starts. -/
def lastTaken (tree : Tree) (id : Nat) : Nat :=
  ((tree.taken id).map tree.stop).max?.getD (tree.node id).start

theorem lastTaken_of_none (none : tree.taken id = []) :
    tree.lastTaken id = (tree.node id).start := by
  rw [lastTaken, none]
  rfl

/-- The last of some tokens ends where none ends later. -/
theorem lastTaken_eq (member : leaf ∈ tree.taken id)
    (last : ∀ other ∈ tree.taken id, tree.stop other ≤ tree.stop leaf) :
    tree.lastTaken id = tree.stop leaf := by
  have greatest : ((tree.taken id).map tree.stop).max? = some (tree.stop leaf) :=
    List.max?_eq_some_iff.mpr ⟨List.mem_map_of_mem member, List.forall_mem_map.mpr last⟩
  rw [lastTaken, greatest, Option.getD_some]

/-- If tokens were taken, then there is a last one. -/
theorem exists_lastTaken (some : tree.taken id ≠ []) : ∃ leaf ∈ tree.taken id,
    tree.stop leaf = tree.lastTaken id ∧
      ∀ other ∈ tree.taken id, tree.stop other ≤ tree.stop leaf := by
  obtain ⟨greatest, found⟩ : ∃ greatest, ((tree.taken id).map tree.stop).max? = .some greatest :=
    Option.ne_none_iff_exists'.mp fun none =>
      some (List.map_eq_nil_iff.mp (List.max?_eq_none_iff.mp none))
  obtain ⟨member, last⟩ := List.max?_eq_some_iff.mp found
  obtain ⟨leaf, listed, rfl⟩ := List.mem_map.mp member
  have last := List.forall_mem_map.mp last
  exact ⟨leaf, listed, (lastTaken_eq listed last).symm, last⟩

/-- Tokens that end before an offset, at a node that starts before it. -/
theorem lastTaken_le (starts : (tree.node id).start ≤ bound)
    (early : ∀ leaf ∈ tree.taken id, tree.stop leaf ≤ bound) : tree.lastTaken id ≤ bound := by
  by_cases none : tree.taken id = []
  · rwa [lastTaken_of_none none]
  · obtain ⟨leaf, member, stop_eq, -⟩ := exists_lastTaken none
    rw [← stop_eq]
    exact early leaf member

namespace Intact

variable (intact : tree.Intact chars)
include intact

/-- Below a node at which no token has matched, tokens were taken below its children. -/
theorem taken_eq (inside : id < tree.size) (unmatched : (tree.node id).terminal = false) :
    tree.taken id = (tree.node id).children.toList.flatMap tree.taken := by
  rw [taken, intact.below_eq inside, List.filter_cons, isTaken, unmatched, Bool.false_and,
    if_neg Bool.false_ne_true, List.filter_flatMap]
  rfl

/-- Where a token has matched, it is the only one. -/
theorem taken_of_terminal (inside : id < tree.size) (terminal : (tree.node id).terminal = true) :
    tree.taken id = if tree.isContent id then [id] else [] := by
  rw [taken, intact.below_eq inside, (intact.terminal id terminal).1, List.filter_cons, isTaken,
    terminal, Bool.true_and]
  rfl

/-- A token that was taken below a node lies in the stretch of the node, and it is not empty. -/
theorem taken_within (inside : id < tree.size) : ∀ leaf ∈ tree.taken id,
    (tree.node id).start < tree.stop leaf ∧ tree.stop leaf ≤ tree.stop id := by
  induction id using intact.induction_below with | node id onChildren =>
  intro leaf member
  cases terminal : (tree.node id).terminal with
  | true =>
    rw [intact.taken_of_terminal inside terminal] at member
    split at member
    · rename_i counts
      obtain rfl := List.mem_singleton.mp member
      have consumed := of_decide_eq_true (Bool.and_eq_true_iff.mp counts).2
      rw [Node.consumed] at consumed
      rw [stop]
      omega
    · cases member
  | false =>
    rw [intact.taken_eq inside terminal] at member
    obtain ⟨child, listed, member⟩ := List.mem_flatMap.mp member
    obtain ⟨starts, stops⟩ := ((intact.filled id inside terminal).within
      (intact.spans_children id)).2 child listed
    obtain ⟨after, before⟩ := onChildren child listed (intact.child_inside listed) leaf member
    omega

/-- A node that was not skipped and does not count as content is empty. -/
theorem stop_of_not_content (inside : id < tree.size)
    (unskipped : (tree.node id).whitespace = false) (notContent : tree.isContent id = false) :
    tree.stop id = (tree.node id).start := by
  have spans := (intact.spans id inside).2.2
  rw [isContent, unskipped, Bool.not_false, Bool.true_and, decide_eq_false_iff_not,
    Node.consumed] at notContent
  rw [stop] at spans ⊢
  omega

/-- No tokens were taken at or below a node that does not count as content. -/
theorem taken_of_not_content (made : tree.WellMade id) (inside : id < tree.size)
    (notContent : tree.isContent id = false) : tree.taken id = [] := by
  cases skipped : (tree.node id).whitespace with
  | true =>
    rw [intact.taken_of_terminal inside (made.skipped skipped), notContent]
    rfl
  | false =>
    have empty := intact.stop_of_not_content inside skipped notContent
    refine List.eq_nil_iff_forall_not_mem.mpr fun leaf member => ?_
    have within := intact.taken_within inside leaf member
    omega

theorem start_le_lastTaken (inside : id < tree.size) :
    (tree.node id).start ≤ tree.lastTaken id := by
  by_cases none : tree.taken id = []
  · rw [lastTaken_of_none none]
  · obtain ⟨leaf, member, stop_eq, -⟩ := exists_lastTaken none
    rw [← stop_eq]
    exact Nat.le_of_lt (intact.taken_within inside leaf member).1

section

variable (made : ∀ id, tree.WellMade id)
include made

/-- What was taken at or below a node was taken at or below its latest child that counts, or it
ends before that child. -/
theorem taken_eq_of_latest (inside : id < tree.size)
    (unmatched : (tree.node id).terminal = false) {earlier later : List Nat}
    (split : (tree.node id).children.toList = earlier ++ child :: later)
    (others : ∀ other ∈ later, tree.isContent other = false) :
    ∃ early, tree.taken id = early ++ tree.taken child ∧
      ∀ leaf ∈ early, tree.stop leaf ≤ (tree.node child).start := by
  have filled := intact.filled id inside unmatched
  have spans := intact.spans_children id
  have inner : ∀ other ∈ (tree.node id).children.toList, other < tree.size :=
    fun _ listed => intact.child_inside listed
  rw [split] at filled spans inner
  refine ⟨earlier.flatMap tree.taken, ?_, fun leaf member => ?_⟩
  · have noLater : later.flatMap tree.taken = [] :=
      List.flatMap_eq_nil_iff.mpr fun other member =>
        intact.taken_of_not_content (made other) (inner other (by simp [member]))
          (others other member)
    rw [intact.taken_eq inside unmatched, split, List.flatMap_append, List.flatMap_cons, noLater,
      List.append_nil]
  · obtain ⟨other, among, member⟩ := List.mem_flatMap.mp member
    obtain ⟨middle, left, starts, -⟩ := tiles_append.mp filled
    have ends := ((left.within fun id member =>
      spans id (List.mem_append_left _ member)).2 other among).2
    have within := (intact.taken_within (inner other (List.mem_append_left _ among)) leaf
      member).2
    omega

/-- The last token that was taken at or below a node is that of the latest child that counts, if
this child has one; if not, then it ends before the child. -/
theorem lastTaken_of_latest (inside : id < tree.size)
    (unmatched : (tree.node id).terminal = false) {earlier later : List Nat}
    (split : (tree.node id).children.toList = earlier ++ child :: later)
    (others : ∀ other ∈ later, tree.isContent other = false) :
    tree.lastTaken id ≤ tree.lastTaken child ∧
      (tree.taken child ≠ [] → tree.lastTaken id = tree.lastTaken child) := by
  obtain ⟨early, taken_eq, before⟩ := intact.taken_eq_of_latest made inside unmatched split others
  have listed : child ∈ (tree.node id).children.toList := by
    rw [split]
    exact List.mem_append_right _ List.mem_cons_self
  have starts := (((intact.filled id inside unmatched).within
    (intact.spans_children id)).2 child listed).1
  have start_le := intact.start_le_lastTaken (intact.child_inside listed)
  by_cases none : tree.taken child = []
  · refine ⟨lastTaken_le (Nat.le_trans starts start_le) fun leaf member => ?_,
      fun some => absurd none some⟩
    rw [taken_eq, none, List.append_nil] at member
    exact Nat.le_trans (before leaf member) start_le
  · obtain ⟨last, member, stop_eq, greatest⟩ := exists_lastTaken none
    have lastTaken_eq : tree.lastTaken id = tree.stop last := by
      refine lastTaken_eq (by rw [taken_eq]; exact List.mem_append_right _ member) ?_
      rw [taken_eq]
      refine List.forall_mem_append.mpr ⟨fun leaf member => ?_, greatest⟩
      have le := before leaf member
      omega
    exact ⟨Nat.le_of_eq (lastTaken_eq.trans stop_eq), fun _ => lastTaken_eq.trans stop_eq⟩

end

end Intact

/-! ### Whitespace before the first token -/

/-- No whitespace was skipped at a node before the node had taken something. -/
def Tight (tree : Tree) (id : Nat) : Prop :=
  ∀ child ∈ (tree.node id).children, (tree.node child).whitespace = true →
    (tree.node id).start < (tree.node child).start

/-- Only imports skip whitespace at a node before it has taken something. -/
def Trim (tree : Tree) (id : Nat) : Prop :=
  (tree.node id).isImport = true ∨ tree.Tight id

theorem tight_of_childless (childless : (tree.node id).children = #[]) : tree.Tight id := by
  intro child listed
  rw [childless] at listed
  exact absurd listed (Array.not_mem_empty child)

theorem trim_of_childless (childless : (tree.node id).children = #[]) : tree.Trim id :=
  .inr (tight_of_childless childless)

/-- A node that has just been attached has no children. -/
theorem childless_attach {parent : Nat} {origin : Origin} (inside : parent < tree.size)
    (new : tree.size ≤ id) : ((tree.attach parent origin).node id).children = #[] := by
  rcases Nat.eq_or_lt_of_le new with rfl | less
  · rw [node_attach_new inside]
  · rw [node_of_size_le (by rw [size_attach]; exact less)]
    rfl

theorem Tiles.stop_unique {nodes : List Nat} {start stop stop' : Nat}
    (tiles : tree.Tiles start nodes stop) (tiles' : tree.Tiles start nodes stop') :
    stop = stop' := by
  induction nodes generalizing start with
  | nil => exact Eq.trans (Eq.symm tiles) tiles'
  | cons first rest inductionHypothesis => exact inductionHypothesis tiles.2 tiles'.2

section

variable {node : Nat} {before after : Tree} {origin : Origin} (intact : before.Intact chars)
include intact

/-- A child that was there before was a child before. -/
theorem Grown.child_of_old (intact' : after.Intact chars) (grown : Grown node before after)
    (listed : child ∈ (after.node node).children) (old : child < before.size) :
    child ∈ (before.node node).children := by
  have found := (intact'.ordered node child listed).2
  rw [grown.parent_eq old] at found
  obtain ⟨parent, among⟩ := intact.listed old
    (Nat.ne_of_gt (Nat.zero_lt_of_lt (intact'.lt_of_child listed)))
  have same := (intact.ordered parent child among).2
  rw [found] at same
  rwa [Option.some.inj same]

/-- At a node that is given children, whitespace has to be looked for among these alone. -/
theorem Tight.grown (tight : before.Tight node) (intact' : after.Intact chars)
    (grown : Grown node before after)
    (new : ∀ child ∈ (after.node node).children, before.size ≤ child →
      (after.node child).whitespace = true →
        (before.node node).start < (after.node child).start) : after.Tight node := by
  intro child listed skipped
  rw [(grown.start_eq grown.inside).1]
  by_cases old : child < before.size
  · have same := grown.node_after (intact'.lt_of_child listed) old
    rw [same] at skipped ⊢
    exact tight child (grown.child_of_old intact intact' listed old) skipped
  · exact new child listed (Nat.le_of_not_lt old) skipped

/-- Nothing changes at nodes that come after a node while there is work at it. -/
theorem Trim.grown (trim : before.Trim id) (grown : Grown node before after) (above : node < id)
    (inside : id < before.size) : after.Trim id := by
  have same := grown.node_after above inside
  rw [Trim, Tight, same]
  refine trim.imp_right fun tight child listed skipped => ?_
  obtain ⟨childInside, -⟩ := intact.ordered id child listed
  have childSame := grown.node_after (Nat.lt_trans above (intact.lt_of_child listed)) childInside
  rw [childSame] at skipped ⊢
  exact tight child listed skipped

theorem Trim.grown_of_childless (grown : Grown node before after)
    (childless : ∀ id, before.size ≤ id → (after.node id).children = #[]) (above : node < id)
    (trim : before.Trim id) : after.Trim id := by
  by_cases inside : id < before.size
  · exact trim.grown intact grown above inside
  · exact trim_of_childless (childless id (Nat.le_of_not_lt inside))

/-- A match is not skipped whitespace. -/
theorem Tight.grown_child (tight : before.Tight node) (intact' : after.Intact chars)
    (inside : node < before.size)
    (grown : Grown before.size (before.attach node origin) after) : after.Tight node := by
  refine tight.grown intact intact' (grown.of_child intact.rising inside)
    fun child listed new skipped => ?_
  rw [grown.node_parent intact.rising inside] at listed
  rcases Array.mem_push.mp listed with old | rfl
  · exact absurd (intact.ordered node child old).1 (Nat.not_lt_of_le new)
  · have unskipped := (grown.start_eq (by rw [size_attach]; exact Nat.lt_succ_self _)).2.2
    rw [skipped, node_attach_new inside] at unskipped
    cases unskipped

/-- What is skipped at the end of a node starts where the node ended, or later. -/
theorem Trailed.stop_le_start (trailed : Trailed node before after) (isOpen : before.Open node)
    (intact' : after.Intact chars) (isOpen' : after.Open node) (grown : Grown node before after)
    (listed : child ∈ (after.node node).children) (new : before.size ≤ child) :
    before.stop node ≤ (after.node child).start := by
  obtain ⟨blanks, children_eq, -⟩ := trailed
  have filled := intact'.filled node isOpen'.inside isOpen'.unmatched
  have spans := intact'.spans_children node
  rw [children_eq] at listed
  rw [children_eq, Array.toList_append] at filled spans
  rw [(grown.start_eq grown.inside).1] at filled
  obtain ⟨middle, left, right⟩ := tiles_append.mp filled
  have left : before.Tiles (before.node node).start (before.node node).children.toList middle := by
    refine (tiles_congr fun other member => ?_).mp left
    have ordered := intact.ordered node other (Array.mem_toList_iff.mp member)
    have same := grown.node_after
      (intact.lt_of_child (Array.mem_toList_iff.mp member)) ordered.1
    rw [stop, stop, same]
    exact ⟨rfl, rfl⟩
  rw [(intact.filled node isOpen.inside isOpen.unmatched).stop_unique left]
  rcases Array.mem_append.mp listed with old | late
  · exact absurd (intact.ordered node child old).1 (Nat.not_lt_of_le new)
  · exact ((right.within fun id member => spans id (List.mem_append_right _ member)).2 child
      (Array.mem_toList_iff.mpr late)).1

/-- Whitespace may be skipped at a node that has taken something. -/
theorem Tight.trailed (tight : before.Tight node) (trailed : Trailed node before after)
    (isOpen : before.Open node) (intact' : after.Intact chars) (isOpen' : after.Open node)
    (grown : Grown node before after) (taken : (before.node node).start < before.stop node) :
    after.Tight node :=
  tight.grown intact intact' grown fun _ listed new _ =>
    Nat.lt_of_lt_of_le taken
      (trailed.stop_le_start intact isOpen intact' isOpen' grown listed new)

/-- What is skipped has no children. -/
theorem Trailed.childless (trailed : Trailed node before after) (intact' : after.Intact chars)
    (grown : Grown node before after) (new : before.size ≤ id) :
    (after.node id).children = #[] := by
  by_cases inside : id < after.size
  · exact (intact'.terminal id (trailed.terminal_of_new intact grown intact' new inside)).1
  · rw [node_of_size_le (Nat.le_of_not_lt inside)]
    rfl

end

/-- An import has taken input, but no token. -/
structure IsIdle (tree : Tree) (id : Nat) : Prop where
  isImport : (tree.node id).isImport = true
  isContent : tree.isContent id = true
  taken_eq : tree.taken id = []

/-- The first of some nodes that takes input starts where all of them start. -/
theorem Tiles.exists_first {nodes : List Nat} {start stop : Nat}
    (tiles : tree.Tiles start nodes stop) (nonempty : start < stop) :
    ∃ child ∈ nodes, (tree.node child).start = start ∧ tree.stop child ≠ start := by
  induction nodes generalizing start with
  | nil => exact absurd tiles (Nat.ne_of_lt nonempty)
  | cons first rest inductionHypothesis =>
    obtain ⟨starts, later⟩ := tiles
    by_cases same : tree.stop first = start
    · rw [same] at later
      obtain ⟨child, member, found⟩ := inductionHypothesis later nonempty
      exact ⟨child, List.mem_cons_of_mem _ member, found⟩
    · exact ⟨first, List.mem_cons_self, starts, same⟩

namespace Intact

variable (intact : tree.Intact chars) (trim : ∀ id, id ≠ root → tree.Trim id)
include intact trim

/-- If a match took input but no token, then an import did so from the same offset on. -/
theorem exists_idle (inside : id < tree.size) (notRoot : id ≠ root)
    (counts : tree.isContent id = true) (none : tree.taken id = []) :
    ∃ idle ∈ tree.below id, tree.IsIdle idle ∧
      (tree.node idle).start = (tree.node id).start := by
  induction id using intact.induction_below with | node id onChildren =>
  rcases trim id notRoot with isImport | tight
  · exact ⟨id, intact.mem_below_self inside, ⟨isImport, counts, none⟩, rfl⟩
  · have consumed := of_decide_eq_true (Bool.and_eq_true_iff.mp counts).2
    rw [Node.consumed] at consumed
    cases terminal : (tree.node id).terminal with
    | true =>
      rw [intact.taken_of_terminal inside terminal, counts, if_pos rfl] at none
      cases none
    | false =>
      obtain ⟨child, listed, starts, further⟩ :=
        (intact.filled id inside terminal).exists_first (by rw [stop]; omega)
      have childInside := intact.child_inside listed
      have less := intact.lt_of_child (Array.mem_toList_iff.mp listed)
      have spans := (intact.spans child childInside).2.2
      -- A blank would start behind the start of the node.
      have unskipped : (tree.node child).whitespace = false := by
        refine Bool.eq_false_iff.mpr fun skipped => ?_
        have behind := tight child (Array.mem_toList_iff.mp listed) skipped
        omega
      have childCounts : tree.isContent child = true := by
        rw [isContent, unskipped, Node.consumed]
        rw [stop] at further spans
        exact decide_eq_true (by omega)
      rw [intact.taken_eq inside terminal] at none
      obtain ⟨idle, member, isIdle, start_eq⟩ := onChildren child listed childInside
        (by rw [root] at notRoot ⊢; omega) childCounts
        (List.flatMap_eq_nil_iff.mp none child listed)
      exact ⟨idle, intact.mem_below_of_child listed member, isIdle, start_eq.trans starts⟩

/-- The content of a node that was not skipped ends with the last token that was taken at or below
it, or else it ends later, where an import begins that took input but no token. -/
theorem contentEnd_eq_or (made : ∀ id, tree.WellMade id) (inside : id < tree.size)
    (unskipped : (tree.node id).whitespace = false) :
    tree.contentEnd id = tree.lastTaken id ∨
    ∃ idle ∈ tree.below id, tree.IsIdle idle ∧
      tree.contentEnd id = (tree.node idle).start ∧ tree.lastTaken id < (tree.node idle).start := by
  induction id using intact.induction_below with | node id onChildren =>
  cases terminal : (tree.node id).terminal with
  | true =>
    refine .inl ?_
    have taken_eq := intact.taken_of_terminal inside terminal
    rw [contentEnd_of_terminal terminal]
    cases counts : tree.isContent id with
    | true =>
      rw [counts, if_pos rfl] at taken_eq
      refine (lastTaken_eq (by rw [taken_eq]; exact List.mem_singleton_self id) ?_).symm
      rw [taken_eq]
      exact List.forall_mem_singleton.mpr (Nat.le_refl _)
    | false =>
      rw [counts, if_neg Bool.false_ne_true] at taken_eq
      rw [lastTaken_of_none taken_eq]
      exact intact.stop_of_not_content inside unskipped counts
  | false =>
    rcases intact.contentEnd_cases inside terminal with
      ⟨earlier, child, later, split, counts, others, content_eq⟩ | ⟨empty, content_eq⟩
    · have listed : child ∈ (tree.node id).children.toList := by
        rw [split]
        exact List.mem_append_right _ List.mem_cons_self
      have childInside := intact.child_inside listed
      obtain ⟨atMost, same⟩ := intact.lastTaken_of_latest made inside terminal split others
      rw [content_eq]
      rcases onChildren child listed childInside
          ((Bool.not_eq_true' _).mp (Bool.and_eq_true_iff.mp counts).1) with
        childEnd_eq | ⟨idle, member, isIdle, idle_eq, less⟩
      · by_cases none : tree.taken child = []
        · have notRoot : child ≠ root :=
            Nat.ne_of_gt (Nat.zero_lt_of_lt (intact.lt_of_child (Array.mem_toList_iff.mp listed)))
          obtain ⟨idle, member, isIdle, start_eq⟩ :=
            intact.exists_idle trim childInside notRoot counts none
          rw [lastTaken_of_none none, ← start_eq] at childEnd_eq atMost
          rw [childEnd_eq]
          exact (Nat.eq_or_lt_of_le atMost).imp Eq.symm fun less =>
            ⟨idle, intact.mem_below_of_child listed member, isIdle, rfl, less⟩
        · exact .inl (childEnd_eq.trans (same none).symm)
      · exact .inr ⟨idle, intact.mem_below_of_child listed member, isIdle, idle_eq,
          Nat.lt_of_le_of_lt atMost less⟩
    · refine .inl ?_
      rw [content_eq, lastTaken_of_none]
      rw [intact.taken_eq inside terminal]
      exact List.flatMap_eq_nil_iff.mpr fun child listed =>
        intact.taken_of_not_content (made child) (intact.child_inside listed) (empty child listed)

end Intact

end Tree

end Rulebook.Match
