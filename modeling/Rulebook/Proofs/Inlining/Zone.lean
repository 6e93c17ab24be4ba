/-
This file says when one grammar may do the work of several. Every rule of theirs has a rule
standing for it there, the whitespace and the limits are the same, and an import leads from one
of them to another. While a grammar is at work, rules of other grammars may be being matched
above; an operator must not find itself among them.

It also says what is true of the states in between, and that whitespace comes to the same in
all of the grammars. Once it is skipped there is none left to skip for any other of them.
-/

import Rulebook.Proofs.Inlining.Recast

namespace Rulebook.Parse

open Match (Origin Tree)

variable {environment : Environment} {first merged grammar : Grammar} {above : String → Prop}
  {before state after : State} {node parent : Nat} {rule : Rule} {name : String}

/-! ### Zones -/

/-- Some grammars, each with names that rules of other grammars may have that are being matched
above it. -/
abbrev Zone := Grammar → (String → Prop) → Prop

/-- One grammar may do the work of all grammars of a zone. -/
structure Merges (environment : Environment) (merged : Grammar) (zone : Zone) : Prop where
  depthLimit_eq : ∀ {grammar above}, zone grammar above →
    merged.depthLimit = grammar.depthLimit
  whitespaceDisabled_eq : ∀ {grammar above}, zone grammar above →
    merged.whitespaceDisabled = grammar.whitespaceDisabled
  whitespaceTokens_eq : ∀ {grammar above}, zone grammar above →
    merged.whitespaceTokens = grammar.whitespaceTokens.map merged.counterpart
  standsFor : ∀ {grammar above}, zone grammar above → ∀ {name rule},
    grammar.rule? name = some rule → merged.StandsFor rule
  /-- The rules that a rule asks for are there. -/
  closed : ∀ {grammar above}, zone grammar above → ∀ {name rule},
    grammar.rule? name = some rule → rule.isImport = false →
      ∀ reference ∈ rule.kind.references, grammar.contains reference = true
  /-- No operator has a name that may be above it. -/
  foreign : ∀ {grammar above}, zone grammar above → ∀ {name rule}, above name →
    grammar.rule? name = some rule → rule.isOperator = false
  /-- An import leads to a rule of a grammar of the zone. -/
  leads : ∀ {grammar above}, zone grammar above → ∀ {name rule target},
    grammar.rule? name = some rule → rule.kind = .imported target →
      ∃ guest beyond, environment.registry.lookup? target.grammar = some guest ∧
        guest.contains target.rule = true ∧ zone guest beyond ∧
          ∀ name, above name ∨ grammar.contains name = true → beyond name

/-- A grammar alone, with nothing above it. -/
def alone (grammar : Grammar) : Zone := fun other above => other = grammar ∧ ∀ name, ¬ above name

/-- A grammar that does not import does its own work. -/
theorem merges_alone (environment : Environment) (closed : grammar.Closed)
    (plain : ∀ name rule, grammar.rule? name = some rule → rule.isImport = false) :
    Merges environment grammar (alone grammar) where
  depthLimit_eq := by
    rintro _ above ⟨rfl, -⟩
    rfl
  whitespaceDisabled_eq := by
    rintro _ above ⟨rfl, -⟩
    rfl
  whitespaceTokens_eq := by
    rintro _ above ⟨rfl, -⟩
    exact Grammar.whitespaceTokens_eq_of_names rfl
  standsFor := by
    rintro _ above ⟨rfl, -⟩ name rule found
    have like := rule.kind.like_inlined
    rw [Rule.inlined_eq (plain name rule found)] at like
    exact ⟨rule, Grammar.rule?_self found, like⟩
  closed := by
    rintro _ above ⟨rfl, -⟩ name rule found
    exact closed name rule found
  foreign := by
    rintro _ above ⟨rfl, none⟩ name rule isAbove
    exact absurd isAbove (none name)
  leads := by
    rintro _ above ⟨rfl, -⟩ name rule target found kind
    have isPlain := plain name rule found
    rw [Rule.isImport, kind] at isPlain
    cases isPlain

/-! ### Rules of the tree -/

/-- A tree without rules is settled. -/
theorem settled_new (merged : Grammar) : Tree.new.Settled merged := by
  intro id rule found
  have absurd : (Tree.new.node id).rule? = none := by
    cases id <;> rfl
  rw [absurd] at found
  cases found

theorem settled_of_pruned {tree later : Tree} (pruned : tree.Pruned later)
    (settled : tree.Settled merged) : later.Settled merged := by
  intro id rule found
  by_cases inside : id < later.size
  · rw [pruned.rule?_eq inside] at found
    exact settled id rule found
  · rw [Tree.node_of_size_le (Nat.le_of_not_lt inside)] at found
    cases found

theorem settled_attach {tree : Tree} (rising : tree.Rising) (inside : parent < tree.size)
    (settled : tree.Settled merged) {origin : Origin}
    (standsFor : ∀ rule, origin = .rule rule → merged.StandsFor rule) :
    (tree.attach parent origin).Settled merged := by
  have sprouted := Tree.sprouted_attach rising inside origin
  intro id rule found
  rcases Nat.lt_trichotomy id tree.size with old | rfl | outside
  · rw [sprouted.rule?_eq old] at found
    exact settled id rule found
  · rw [Match.Node.rule?, sprouted.new_origin] at found
    cases origin with
    | rule self => exact standsFor rule (congrArg Origin.rule (Option.some.inj found))
    | _ => cases found
  · rw [Tree.node_of_size_le (by rw [sprouted.size_eq]; omega)] at found
    cases found

/-- Whether a match is marked as skipped whitespace has nothing to do with its rule. -/
theorem settled_skipLast {tree : Tree} (settled : tree.Settled merged) (parent : Nat) :
    (tree.skipLast parent).Settled merged := by
  have kept : ∀ {tree : Tree} {id : Nat} {change : Match.Node → Match.Node},
      (∀ node, (change node).origin = node.origin) → tree.Settled merged →
        (tree.update id change).Settled merged := by
    intro tree id change blind settled other rule found
    refine settled other rule ?_
    by_cases inside : other < tree.size
    · by_cases same : other = id
      · rw [same] at inside found ⊢
        rw [Tree.node_update_self inside, Match.Node.rule?, blind] at found
        exact found
      · rw [Tree.node_update_other _ same] at found
        exact found
    · rw [Tree.node_of_size_le (by rw [Tree.size_update]; exact Nat.le_of_not_lt inside)] at found
      cases found
  rw [Tree.skipLast]
  cases (tree.node parent).children.back? with
  | none => exact settled
  | some child =>
    refine kept (fun node => ?_) (kept (fun _ => rfl) settled)
    rw [Match.Node.hideLast]
    split <;> rfl

theorem settled_attach_matchToken {tree : Tree} (rising : tree.Rising)
    (inside : parent < tree.size) (settled : tree.Settled merged)
    (standsFor : merged.StandsFor rule) (length : Nat) :
    ((tree.attach parent (.rule rule)).matchToken tree.size length).Settled merged := by
  have attached := settled_attach rising inside settled
    fun other same => Origin.rule.inj same ▸ standsFor
  exact settled_of_pruned (Tree.pruned_matchToken (Tree.rising_attach rising inside)
    (by rw [Tree.size_attach]; exact Nat.lt_succ_self _) length) attached

/-- The rules being matched at a node are rules of a grammar that do not import, and above
them only rules with certain names. -/
def Chained (grammar : Grammar) (above : String → Prop) (tree : Tree) (node : Nat) : Prop :=
  ∃ inner outer, tree.lineage node = inner ++ outer ∧
    (∀ id ∈ inner, ∃ rule, (tree.node id).rule? = some rule ∧
      grammar.rule? rule.name = some rule ∧ rule.isImport = false) ∧
    ∀ id ∈ outer, ∀ rule, (tree.node id).rule? = some rule → above rule.name

/-- Rules stay what they are while a tree grows. -/
theorem Chained.of_sameOutline {tree later : Tree} (chained : Chained grammar above tree node)
    (rising : tree.Rising) (inside : node < tree.size) (same : tree.SameOutline tree.size later) :
    Chained grammar above later node := by
  obtain ⟨inner, outer, lineage_eq, declared, foreign⟩ := chained
  have old : ∀ id ∈ inner ++ outer, (later.node id).rule? = (tree.node id).rule? := by
    intro id member
    rw [← lineage_eq] at member
    exact same.rule?_eq (Tree.lt_of_mem_lineage rising inside member)
  refine ⟨inner, outer, ?_, fun id member => ?_, fun id member => ?_⟩
  · rw [same.lineage_eq rising inside, lineage_eq]
  · rw [old id (List.mem_append_left _ member)]
    exact declared id member
  · rw [old id (List.mem_append_right _ member)]
    exact foreign id member

section

variable {tree : Tree} (rising : tree.Rising) (inside : parent < tree.size)
  (chained : Chained grammar above tree parent) (found : grammar.rule? rule.name = some rule)
include rising inside chained found

/-- A rule that does not import may be matched below. -/
theorem Chained.attach (notImport : rule.isImport = false) :
    Chained grammar above (tree.attach parent (.rule rule)) tree.size := by
  have sprouted := Tree.sprouted_attach rising inside (.rule rule)
  obtain ⟨inner, outer, lineage_eq, declared, foreign⟩ :=
    chained.of_sameOutline rising inside sprouted.toSameOutline
  refine ⟨tree.size :: inner, outer, ?_, fun id member => ?_, foreign⟩
  · rw [Tree.lineage_attach_new rising inside, List.cons_append, ← lineage_eq,
      sprouted.lineage_eq rising inside]
  · rcases List.mem_cons.mp member with rfl | earlier
    · refine ⟨rule, ?_, found, notImport⟩
      rw [Match.Node.rule?, sprouted.new_origin]
    · exact declared id earlier

/-- Below an import, the rules of the grammar are rules of another one. -/
theorem Chained.attach_beyond {beyond : String → Prop} (guest : Grammar)
    (covers : ∀ name, above name ∨ grammar.contains name = true → beyond name) :
    Chained guest beyond (tree.attach parent (.rule rule)) tree.size := by
  have sprouted := Tree.sprouted_attach rising inside (.rule rule)
  have contained : ∀ {other : Rule}, grammar.rule? other.name = some other →
      beyond other.name := fun found => covers _ (.inr (by rw [Grammar.contains, found]; rfl))
  obtain ⟨inner, outer, lineage_eq, declared, foreign⟩ :=
    chained.of_sameOutline rising inside sprouted.toSameOutline
  refine ⟨[], tree.size :: (inner ++ outer), ?_, fun _ absurd => (nomatch absurd), ?_⟩
  · rw [Tree.lineage_attach_new rising inside, List.nil_append, ← lineage_eq,
      sprouted.lineage_eq rising inside]
  · intro id member other isOther
    rcases List.mem_cons.mp member with rfl | earlier
    · rw [Match.Node.rule?, sprouted.new_origin] at isOther
      rw [← Option.some.inj isOther]
      exact contained found
    · rcases List.mem_append.mp earlier with here | outside
      · obtain ⟨known, isKnown, foundKnown, -⟩ := declared id here
        rw [isKnown] at isOther
        rw [← Option.some.inj isOther]
        exact contained foundKnown
      · exact covers _ (.inl (foreign id outside other isOther))

end

/-! ### The search of an operator for itself -/

/-- An operator is not found among rules with other names. -/
theorem isRepeating_of_foreign {tree : Tree} {ids : List Nat}
    (foreign : ∀ id ∈ ids, ∀ other, (tree.node id).rule? = some other → other.name ≠ rule.name) :
    isRepeating tree rule ids = false := by
  induction ids with
  | nil => rfl
  | cons id rest inductionHypothesis =>
    rw [isRepeating]
    cases found : (tree.node id).rule? with
    | none => rfl
    | some other =>
      have different : other.same rule = false := by
        rw [Rule.same, beq_false_of_ne (foreign id List.mem_cons_self other found),
          Bool.false_and]
      have above := inductionHypothesis fun id member =>
        foreign id (List.mem_cons_of_mem _ member)
      simp only [different, above]
      split <;> rfl

theorem isTransparent_of_like {kind other : RuleKind} (like : kind.Like other)
    (notImport : ∀ target, kind ≠ .imported target) : isTransparent other = isTransparent kind := by
  cases like with
  | imported target => exact absurd rfl (notImport target)
  | _ => rfl

variable {zone : Zone}

/-- An operator finds itself under the one grammar if and only if it does so under the other.
A choice in the place of an import is looked through, but there is nothing to be found above. -/
theorem isRepeating_relabel (merges : Merges environment merged zone)
    (inZone : zone grammar above) (found : grammar.rule? rule.name = some rule)
    (isOperator : rule.isOperator = true) {tree : Tree}
    (chained : Chained grammar above tree node) :
    isRepeating (tree.relabel merged.counterpart) (merged.counterpart rule) (tree.lineage node) =
      isRepeating tree rule (tree.lineage node) := by
  obtain ⟨inner, outer, lineage_eq, declared, foreign⟩ := chained
  rw [lineage_eq]
  clear lineage_eq
  have standing : ∀ {other : Rule}, grammar.rule? other.name = some other →
      merged.rule? (merged.counterpart other).name = some (merged.counterpart other) := by
    intro other found
    obtain ⟨counterpart, found', -⟩ := merges.standsFor inZone found
    rw [Grammar.counterpart_of_rule? found', Grammar.rule?_self found']
  induction inner with
  | nil =>
    have other : ∀ id ∈ outer, ∀ other, (tree.node id).rule? = some other →
        other.name ≠ rule.name := by
      intro id member other isOther named
      have none := merges.foreign inZone (named ▸ foreign id member other isOther) found
      rw [none] at isOperator
      cases isOperator
    rw [List.nil_append, isRepeating_of_foreign other, isRepeating_of_foreign]
    intro id member changed isChanged
    rw [Tree.rule?_relabel] at isChanged
    obtain ⟨original, isOriginal, rfl⟩ := Option.map_eq_some_iff.mp isChanged
    rw [merged.counterpart_name, merged.counterpart_name]
    exact other id member original isOriginal
  | cons id rest inductionHypothesis =>
    obtain ⟨other, isOther, found', notImport⟩ := declared id List.mem_cons_self
    have transparent := isTransparent_of_like (merges.standsFor inZone found').like
      fun target imported => by
        rw [Rule.isImport, imported] at notImport
        cases notImport
    have consumed_eq : ((tree.relabel merged.counterpart).node id).consumed =
        (tree.node id).consumed := by
      rw [Tree.node_relabel]
      rfl
    have same_eq : (merged.counterpart other).same (merged.counterpart rule) =
        other.same rule := by
      rw [Grammar.same_of_rule? (standing found) (standing found'),
        Grammar.same_of_rule? found found', merged.counterpart_name, merged.counterpart_name]
    rw [List.cons_append, isRepeating, isRepeating, Tree.rule?_relabel, isOther,
      Option.map_some, consumed_eq]
    simp only [transparent, same_eq,
      inductionHypothesis fun id member => declared id (List.mem_cons_of_mem _ member)]

/-! ### States -/

/-- What is remembered is true, and the rules of the tree have rules standing for them. -/
structure Tidy (environment : Environment) (merged : Grammar) (state : State) : Prop where
  truthful : Truthful environment merged state.memo
  settled : state.tree.Settled merged

/-- Work may go on at a node under a grammar of a zone, and there is no whitespace there. -/
structure Fits (environment : Environment) (first merged active : Grammar)
    (above : String → Prop) (node : Nat) (state : State) : Prop
    extends Ready environment first node state, Tidy environment merged state where
  grammar_eq : state.grammar = active
  chained : Chained active above state.tree node
  rested : Rested environment merged (state.tree.stop node)

theorem Fits.working (fits : Fits environment first merged grammar above node state)
    (working : Working environment first node state after)
    (tidy : Tidy environment merged after)
    (rested : Rested environment merged (after.tree.stop node)) :
    Fits environment first merged grammar above node after :=
  ⟨working.ready, tidy, working.grammar_eq.trans fits.grammar_eq,
    fits.chained.of_sameOutline fits.tree.rising fits.isOpen.inside working.grown.sameOutline,
    rested⟩

/-- Bookkeeping makes no difference. -/
theorem Fits.still (fits : Fits environment first merged grammar above node state)
    (still : Still environment first state after) (memo_eq : after.memo = state.memo) :
    Fits environment first merged grammar above node after :=
  ⟨still.ready fits.toReady, ⟨memo_eq ▸ fits.truthful, still.tree_eq ▸ fits.settled⟩,
    still.grammar_eq.trans fits.grammar_eq, still.tree_eq ▸ fits.chained,
    still.tree_eq ▸ fits.rested⟩

section

variable (merges : Merges environment merged zone) (inZone : zone grammar above)
  (fits : Fits environment first merged grammar above node state)
  (found : grammar.rule? rule.name = some rule)
include merges inZone fits found

theorem Fits.tidy_attach : Tidy environment merged
    { state with tree := state.tree.attach node (.rule rule) } :=
  ⟨fits.truthful, settled_attach fits.tree.rising fits.isOpen.inside fits.settled
    fun _ same => Origin.rule.inj same ▸ merges.standsFor inZone found⟩

/-- Below a rule that does not import, work goes on under the same grammar. -/
theorem Fits.attach (notImport : rule.isImport = false) :
    Fits environment first merged grammar above state.tree.size
      { state with tree := state.tree.attach node (.rule rule) } where
  toReady := ready_attach fits.toReady (.rule rule)
  toTidy := fits.tidy_attach merges inZone found
  grammar_eq := fits.grammar_eq
  chained := fits.chained.attach fits.tree.rising fits.isOpen.inside found notImport
  rested := by
    dsimp only
    rw [Tree.stop_attach_new fits.isOpen.inside]
    exact fits.rested

/-- Below an import, work goes on under another grammar. -/
theorem Fits.attach_beyond {guest : Grammar} {beyond : String → Prop}
    (active : Active environment first guest)
    (covers : ∀ name, above name ∨ grammar.contains name = true → beyond name) :
    Fits environment first merged guest beyond state.tree.size
      { state with tree := state.tree.attach node (.rule rule), grammar := guest } where
  tree := (ready_attach fits.toReady (.rule rule)).tree
  grammar := active
  memoizing := fits.memoizing
  memo := fits.memo
  isOpen := (ready_attach fits.toReady (.rule rule)).isOpen
  truthful := fits.truthful
  settled := (fits.tidy_attach merges inZone found).settled
  grammar_eq := rfl
  chained := fits.chained.attach_beyond fits.tree.rising fits.isOpen.inside found guest covers
  rested := by
    dsimp only
    rw [Tree.stop_attach_new fits.isOpen.inside]
    exact fits.rested

end

/-! ### Whitespace -/

theorem firstBlank?_counterpart (source : Source) (offset : Nat) {tokens : List Rule}
    (standsFor : ∀ rule ∈ tokens, merged.StandsFor rule) :
    firstBlank? source offset (tokens.map merged.counterpart) =
      (firstBlank? source offset tokens).map fun found =>
        (merged.counterpart found.1, found.2) := by
  induction tokens with
  | nil => rfl
  | cons rule rest inductionHypothesis =>
    have matched : (merged.counterpart rule).token?.bind (·.matchAt? source offset) =
        rule.token?.bind (·.matchAt? source offset) := by
      have like := (standsFor rule List.mem_cons_self).like
      rw [Rule.token?, Rule.token?]
      generalize rule.kind = left, (merged.counterpart rule).kind = right at like
      cases like with
      | token matchAt?_eq => exact matchAt?_eq source offset
      | _ => rfl
    rw [List.map_cons, firstBlank?, firstBlank?, matched]
    split
    · rfl
    · exact inductionHypothesis fun rule member => standsFor rule (List.mem_cons_of_mem _ member)

section

variable (faithful : environment.source.Faithful)
  (ready : Ready environment first parent state) (tidy : Tidy environment merged state)
  {tokens : List Rule} (known : ∀ rule ∈ tokens, Known environment first rule)
  (standsFor : ∀ rule ∈ tokens, merged.StandsFor rule)
include faithful ready tidy known standsFor

theorem recasts_skipOne :
    Outcome.Recasts merged (fun skipped after => SkippedOne environment first parent state skipped
        after ∧ Tidy environment merged after ∧ (skipped = false →
          firstBlank? environment.source (state.tree.stop parent)
            (tokens.map merged.counterpart) = none))
      (skipOne environment parent tokens state).outcome
      (skipOne environment.plain parent (tokens.map merged.counterpart)
        (state.recast merged)).outcome := by
  have rising := ready.tree.rising
  have inside := ready.isOpen.inside
  obtain ⟨memo, truthful, -, ended⟩ :=
    outcome_skipOne standsFor tidy.truthful rising inside
  have forgotten : Truthful environment.plain merged (state.recast merged).memo := by
    intro known absurd
    cases absurd
  have standing : ∀ other ∈ tokens.map merged.counterpart, merged.StandsFor other := by
    intro other member
    obtain ⟨rule, isToken, rfl⟩ := List.mem_map.mp member
    exact (standsFor rule isToken).counterpart
  obtain ⟨memo', -, none, ended'⟩ := outcome_skipOne standing forgotten (rising_recast rising)
    (show parent < (state.tree.relabel merged.counterpart).size from
      Tree.size_relabel.symm ▸ inside)
  have memo_eq : memo' = Option.none := Option.isNone_iff_eq_none.mp
    (by rw [← Option.not_isSome, none]; rfl)
  subst memo_eq
  have met : Run.Meets _ _ True _ := meets_skipOne faithful ready known
  have first_eq := firstBlank?_counterpart (environment.source) (state.tree.stop parent) standsFor
  refine ⟨?_, fun skipped after done => ⟨met.returns skipped after done, ?_⟩⟩
  · have source_eq : environment.plain.source = environment.source := rfl
    rw [ended, ended', blankOutcome, blankOutcome]
    dsimp only
    rw [stop_recast, source_eq, first_eq]
    cases firstBlank? environment.source (state.tree.stop parent) tokens with
    | none => rfl
    | some found =>
      simp only [Option.map_some, Outcome.mapState, State.recast, Tree.relabel_skipLast,
        Tree.relabel_matchToken, Tree.relabel_attach, Tree.size_relabel]
      rfl
  · rw [ended, blankOutcome] at done
    dsimp only at done
    rw [first_eq]
    cases found : firstBlank? environment.source (state.tree.stop parent) tokens with
    | none =>
      rw [found] at done
      cases done
      exact ⟨⟨truthful, tidy.settled⟩, fun _ => rfl⟩
    | some blank =>
      obtain ⟨rule, length⟩ := blank
      rw [found] at done
      dsimp only at done
      obtain ⟨rfl, rfl⟩ := Outcome.done.inj done
      have standing := standsFor rule (mem_of_firstBlank? found)
      have settled := settled_skipLast
        (settled_attach_matchToken rising inside tidy.settled standing length) parent
      refine ⟨⟨truthful, ?_⟩, fun untaken => (Bool.true_eq_false.mp untaken).elim⟩
      dsimp only
      exact settled

theorem recasts_skipAll (rounds : Nat) :
    Outcome.Recasts merged (fun _ after => Tidy environment merged after ∧
        firstBlank? environment.source (after.tree.stop parent)
          (tokens.map merged.counterpart) = none)
      (skipAll environment parent tokens rounds state).outcome
      (skipAll environment.plain parent (tokens.map merged.counterpart) rounds
        (state.recast merged)).outcome := by
  induction rounds generalizing state with
  | zero => exact .exhausted
  | succ rounds inductionHypothesis =>
    rw [skipAll, skipAll]
    refine (recasts_skipOne faithful ready tidy known standsFor).bind fun skipped next ended => ?_
    obtain ⟨round, tidy, rested⟩ := ended
    cases skipped with
    | false =>
      rw [← (round.rests rfl).tree_eq] at rested
      exact .done ⟨tidy, rested rfl⟩
    | true => exact inductionHypothesis (round.skipped ready).ready tidy

end

theorem Merges.standsFor_whitespaceTokens (merges : Merges environment merged zone)
    (inZone : zone grammar above) : ∀ rule ∈ grammar.whitespaceTokens, merged.StandsFor rule := by
  intro rule member
  obtain ⟨name, -, found⟩ := List.mem_filterMap.mp member
  exact merges.standsFor inZone found

/-- Whitespace comes to the same, and then there is none left. -/
theorem recasts_skipWhitespace (merges : Merges environment merged zone)
    (inZone : zone grammar above) (faithful : environment.source.Faithful)
    (ready : Ready environment first parent state) (tidy : Tidy environment merged state)
    (grammar_eq : state.grammar = grammar) :
    Outcome.Recasts merged (fun _ after => Tidy environment merged after ∧
        Rested environment merged (after.tree.stop parent))
      (skipWhitespace environment parent state).outcome
      (skipWhitespace environment.plain parent (state.recast merged)).outcome := by
  have disabled_eq := merges.whitespaceDisabled_eq inZone
  have tokens_eq := merges.whitespaceTokens_eq inZone
  have known := known_whitespaceTokens ready.grammar
  rw [grammar_eq] at known
  have standsFor := merges.standsFor_whitespaceTokens inZone
  rw [skipWhitespace, skipWhitespace, Step.outcome_read_bind, Step.outcome_read_bind, grammar_eq]
  show Outcome.Recasts merged _ _ ((if !merged.whitespaceDisabled then skipAll environment.plain
    parent merged.whitespaceTokens (environment.source.size + 1) else pure () : Step Unit)
      (state.recast merged)).outcome
  unfold Rested
  rw [disabled_eq, tokens_eq]
  cases grammar.whitespaceDisabled with
  | true => exact .done ⟨tidy, fun absurd => nomatch absurd⟩
  | false =>
    exact (recasts_skipAll faithful ready tidy known standsFor _).imp fun _ _ ended =>
      ⟨ended.1, fun _ => ended.2⟩

/-- Where no whitespace is left, none is skipped under another grammar of the zone either. -/
theorem outcome_skipWhitespace_of_rested (merges : Merges environment merged zone)
    (inZone : zone grammar above) (truthful : Truthful environment merged state.memo)
    (rising : state.tree.Rising) (inside : parent < state.tree.size)
    (grammar_eq : state.grammar = grammar)
    (rested : Rested environment merged (state.tree.stop parent)) :
    ∃ memo, Truthful environment merged memo ∧ memo.isSome = state.memo.isSome ∧
      (skipWhitespace environment parent state).outcome = .done () { state with memo } := by
  subst grammar_eq
  have standsFor := merges.standsFor_whitespaceTokens inZone
  rw [skipWhitespace, Step.outcome_read_bind]
  unfold Rested at rested
  rw [merges.whitespaceDisabled_eq inZone, merges.whitespaceTokens_eq inZone,
    firstBlank?_counterpart _ _ standsFor, Option.map_eq_none_iff] at rested
  cases disabled : state.grammar.whitespaceDisabled with
  | true => exact ⟨state.memo, truthful, rfl, rfl⟩
  | false =>
    obtain ⟨memo, truthful, isSome_eq, ended⟩ :=
      outcome_skipOne standsFor truthful rising inside
    rw [blankOutcome, rested disabled] at ended
    refine ⟨memo, truthful, isSome_eq, ?_⟩
    show (skipAll environment parent state.grammar.whitespaceTokens
      (environment.source.size + 1) state).outcome = _
    rw [skipAll, (Step.bind_of_done _ ended).1]
    rfl

end Rulebook.Parse
