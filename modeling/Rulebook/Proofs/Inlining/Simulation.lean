/-
This file lets a parse with several grammars, where rules of one are imported into another, go
along with a parse under one grammar that holds the rules of all of them. An import swaps the
grammar and skips whitespace before it asks for its rule; a choice in its place does neither,
and is looked through where an import is not. None of this is seen: the rules are the same
under both grammars, there is no whitespace left where a rule is asked for, and no operator of
the imported grammar is being matched above the import.

Each kind of rule goes along if the operation with which it asks for other rules does.
-/

import Rulebook.Proofs.Inlining.Zone
import Rulebook.Proofs.Parse.Request

namespace Rulebook.Parse

open Match (Origin Tree)

variable {environment : Environment} {first merged grammar : Grammar} {above : String → Prop}
  {zone : Zone} {consume consume' : Consume} {state : State} {node parent : Nat} {rule : Rule}
  {name : String}

/-- A way of matching rules that can be relied on, and that goes along with another one. -/
structure Simulates (environment : Environment) (first merged : Grammar) (zone : Zone)
    (consume consume' : Consume) : Prop where
  reliable : Reliable environment first (fun _ => True) consume
  recasts : ∀ {grammar above}, zone grammar above → ∀ {node name state},
    grammar.contains name = true → Fits environment first merged grammar above node state →
      Outcome.Recasts merged (fun _ after => Tidy environment merged after ∧
          Rested environment merged (after.tree.stop node))
        (consume node name state).outcome (consume' node name (state.recast merged)).outcome

/-- Work goes on at a node. -/
def Stays (environment : Environment) (first merged active : Grammar) (above : String → Prop)
    (node : Nat) {Value : Type} (_ : Value) (after : State) : Prop :=
  Fits environment first merged active above node after

variable (simulates : Simulates environment first merged zone consume consume')
  (inZone : zone grammar above)
  (fits : Fits environment first merged grammar above node state)

section

include simulates inZone fits

theorem Simulates.stays (found : grammar.contains name = true) :
    Outcome.Recasts merged (Stays environment first merged grammar above node)
      (consume node name state).outcome (consume' node name (state.recast merged)).outcome := by
  have met := simulates.reliable.working (.refl fits.toReady) name
  exact ((simulates.recasts inZone found fits).and met).imp fun _ _ ended =>
    fits.working ended.1 ended.2.1 ended.2.2

theorem stays_consumeOptional {optional : Option String} (otherwise : Bool)
    (closed : ∀ name ∈ optional, grammar.contains name = true) :
    Outcome.Recasts merged (Stays environment first merged grammar above node)
      (consumeOptional consume node optional otherwise state).outcome
      (consumeOptional consume' node optional otherwise (state.recast merged)).outcome := by
  cases optional with
  | none => exact .done fits
  | some name => exact simulates.stays inZone fits (closed name rfl)

end

/-! ### Bookkeeping -/

section

include fits

theorem stays_setAlternative (index : Nat) :
    Outcome.Recasts merged (Stays environment first merged grammar above node)
      (Step.setAlternative index state).outcome
      (Step.setAlternative index (state.recast merged)).outcome := by
  refine recasts_change rfl (fits.still (.of_eq fits.toSound rfl rfl ?_ ?_ rfl) rfl) <;>
    cases state.stack <;> rfl

theorem stays_log (event : Log.Event) :
    Outcome.Recasts merged (Stays environment first merged grammar above node)
      (Step.log event state).outcome (Step.log event (state.recast merged)).outcome :=
  recasts_change rfl (fits.still (.of_eq fits.toSound rfl rfl rfl rfl rfl) rfl)

theorem stays_leaveOut (name : String) :
    Outcome.Recasts merged (Stays environment first merged grammar above node)
      (leaveOut environment node name state).outcome
      (leaveOut environment.plain node name (state.recast merged)).outcome := by
  have attached : Fits environment first merged grammar above node
      { state with tree := state.tree.attach node (.lambda name) } := by
    refine fits.working (working_attach (.refl fits.toReady) (.lambda name))
      ⟨fits.truthful, ?_⟩ ?_
    · exact settled_attach fits.tree.rising fits.isOpen.inside fits.settled
        fun _ absurd => nomatch absurd
    · dsimp only
      rw [Tree.stop_attach fits.isOpen.inside]
      exact fits.rested
  unfold leaveOut
  refine recasts_change_bind (recast_attach state node (.lambda name)).symm ?_
  · show Outcome.Recasts merged _ _ ((if environment.tracing then _ else _ : Step Unit) _).outcome
    cases environment.tracing with
    | false => exact .done attached
    | true => exact recasts_read_bind rfl (stays_log attached _)

end

/-! ### Sequences and choices -/

section

include simulates inZone fits

theorem stays_performSequence (index : Nat) (items : List SequenceItem)
    (closed : ∀ item ∈ items, grammar.contains item.rule = true) :
    Outcome.Recasts merged (Stays environment first merged grammar above node)
      (performSequence environment consume node index items state).outcome
      (performSequence environment.plain consume' node index items
        (state.recast merged)).outcome := by
  induction items generalizing index state with
  | nil => exact .done fits
  | cons item rest inductionHypothesis =>
    have rest_closed := fun item member => closed item (List.mem_cons_of_mem _ member)
    rw [performSequence, performSequence]
    refine (stays_setAlternative fits index).bind fun _ _ fits => ?_
    refine (simulates.stays inZone fits (closed item List.mem_cons_self)).bind
      fun matched _ fits => ?_
    cases matched with
    | true => exact inductionHypothesis fits (index + 1) rest_closed
    | false =>
      cases item.required with
      | true => exact .done fits
      | false =>
        exact (stays_leaveOut fits item.rule).bind fun _ _ fits =>
          inductionHypothesis fits (index + 1) rest_closed

theorem stays_performChoice (index : Nat) (alternatives : List String)
    (closed : ∀ name ∈ alternatives, grammar.contains name = true) :
    Outcome.Recasts merged (Stays environment first merged grammar above node)
      (performChoice consume node index alternatives state).outcome
      (performChoice consume' node index alternatives (state.recast merged)).outcome := by
  induction alternatives generalizing index state with
  | nil => exact .done fits
  | cons alternative rest inductionHypothesis =>
    rw [performChoice, performChoice]
    refine (stays_setAlternative fits index).bind fun _ _ fits => ?_
    refine (simulates.stays inZone fits (closed alternative List.mem_cons_self)).bind
      fun matched _ fits => ?_
    cases matched with
    | true => exact .done fits
    | false =>
      exact inductionHypothesis fits (index + 1) fun name member =>
        closed name (List.mem_cons_of_mem _ member)

/-! ### Lists -/

theorem stays_listRounds (name : String) (rule : ListRule)
    (closed : ∀ name ∈ (RuleKind.list rule).references, grammar.contains name = true)
    (budget round : Nat) (last : Option Nat) :
    Outcome.Recasts merged (Stays environment first merged grammar above node)
      (listRounds environment consume name rule node budget round last state).outcome
      (listRounds environment.plain consume' name rule node budget round last
        (state.recast merged)).outcome := by
  have separators : ∀ name ∈ rule.separator, grammar.contains name = true := fun name member =>
    closed name (by simp [RuleKind.references, Option.mem_def.mp member])
  have closings : ∀ name ∈ rule.closing, grammar.contains name = true := fun name member =>
    closed name (by simp [RuleKind.references, Option.mem_def.mp member])
  induction budget generalizing round last state with
  | zero => exact .exhausted
  | succ budget inductionHypothesis =>
    rw [listRounds, listRounds]
    refine (stays_consumeOptional simulates inZone fits true separators).bind
      fun separated _ fits => ?_
    cases separated with
    | false => exact stays_consumeOptional simulates inZone fits true closings
    | true =>
      refine recasts_read_bind (stop_recast _ _) ?_
      split
      · exact recasts_abort _ _
      · refine (stays_setAlternative fits _).bind fun _ _ fits => ?_
        refine (stays_consumeOptional simulates inZone fits false closings).bind
          fun closing _ fits => ?_
        cases closing with
        | true => exact .done fits
        | false =>
          refine (simulates.stays inZone fits (closed rule.item List.mem_cons_self)).bind
            fun matched _ fits => ?_
          cases matched with
          | false => exact .done fits
          | true => exact inductionHypothesis fits _ _

theorem stays_performList (budget : Nat) (name : String) (rule : ListRule)
    (closed : ∀ name ∈ (RuleKind.list rule).references, grammar.contains name = true) :
    Outcome.Recasts merged (Stays environment first merged grammar above node)
      (performList environment consume budget name rule node state).outcome
      (performList environment.plain consume' budget name rule node
        (state.recast merged)).outcome := by
  have openings : ∀ name ∈ rule.opening, grammar.contains name = true := fun name member =>
    closed name (by simp [RuleKind.references, Option.mem_def.mp member])
  have closings : ∀ name ∈ rule.closing, grammar.contains name = true := fun name member =>
    closed name (by simp [RuleKind.references, Option.mem_def.mp member])
  unfold performList
  refine (stays_consumeOptional simulates inZone fits true openings).bind fun opened _ fits => ?_
  cases opened with
  | false => exact .done fits
  | true =>
    refine (stays_consumeOptional simulates inZone fits false closings).bind
      fun closing _ fits => ?_
    cases closing with
    | true => exact .done fits
    | false =>
      refine (simulates.stays inZone fits (closed rule.item List.mem_cons_self)).bind
        fun matched _ fits => ?_
      cases matched with
      | false => exact .done fits
      | true => exact stays_listRounds simulates inZone fits name rule closed budget 0 none

/-! ### Sets -/

theorem stays_firstMatch (items : List (Nat × String))
    (closed : ∀ item ∈ items, grammar.contains item.2 = true) :
    Outcome.Recasts merged (Stays environment first merged grammar above node)
      (firstMatch consume node items state).outcome
      (firstMatch consume' node items (state.recast merged)).outcome := by
  induction items generalizing state with
  | nil => exact .done fits
  | cons item rest inductionHypothesis =>
    rw [firstMatch, firstMatch]
    refine (stays_setAlternative fits item.1).bind fun _ _ fits => ?_
    refine (simulates.stays inZone fits (closed item List.mem_cons_self)).bind
      fun matched _ fits => ?_
    cases matched with
    | true => exact .done fits
    | false =>
      exact inductionHypothesis fits fun item member => closed item (List.mem_cons_of_mem _ member)

theorem stays_setRounds (rule : SetRule)
    (separators : ∀ name ∈ rule.separator, grammar.contains name = true) (rounds : Nat)
    (available : List (Nat × String))
    (closed : ∀ item ∈ available, grammar.contains item.2 = true) (pending : Bool) :
    Outcome.Recasts merged (Stays environment first merged grammar above node)
      (setRounds consume rule node rounds available pending state).outcome
      (setRounds consume' rule node rounds available pending (state.recast merged)).outcome := by
  induction rounds generalizing available pending state with
  | zero => exact .done fits
  | succ rounds inductionHypothesis =>
    rw [setRounds, setRounds]
    refine (stays_firstMatch simulates inZone fits available closed).bind
      fun matched _ fits => ?_
    cases matched with
    | none => exact .done fits
    | some index =>
      have fewer : ∀ item ∈ available.filter (·.1 != index),
          grammar.contains item.2 = true := fun item member =>
        closed item (List.mem_of_mem_filter member)
      cases separated : rule.separator with
      | none => exact inductionHypothesis fits _ fewer _
      | some separator =>
        refine (simulates.stays inZone fits (separators separator separated)).bind
          fun matched _ fits => ?_
        cases matched with
        | true => exact inductionHypothesis fits _ fewer _
        | false => exact .done fits

theorem stays_performSet (rule : SetRule)
    (closed : ∀ name ∈ (RuleKind.set rule).references, grammar.contains name = true) :
    Outcome.Recasts merged (Stays environment first merged grammar above node)
      (performSet consume rule node state).outcome
      (performSet consume' rule node (state.recast merged)).outcome := by
  have openings : ∀ name ∈ rule.opening, grammar.contains name = true := fun name member =>
    closed name (by simp [RuleKind.references, Option.mem_def.mp member])
  have separators : ∀ name ∈ rule.separator, grammar.contains name = true := fun name member =>
    closed name (by simp [RuleKind.references, Option.mem_def.mp member])
  have closings : ∀ name ∈ rule.closing, grammar.contains name = true := fun name member =>
    closed name (by simp [RuleKind.references, Option.mem_def.mp member])
  have items : ∀ item ∈ numbered rule.items, grammar.contains item.2 = true := fun item member =>
    closed item.2 (by simp [RuleKind.references, (List.of_mem_zip member).2])
  unfold performSet
  refine (stays_consumeOptional simulates inZone fits true openings).bind fun opened _ fits => ?_
  cases opened with
  | false => exact .done fits
  | true =>
    refine (stays_setRounds simulates inZone fits rule separators _ _ items _).bind
      fun pending _ fits => ?_
    cases pending with
    | true => exact .done fits
    | false => exact stays_consumeOptional simulates inZone fits true closings

/-! ### Operators -/

theorem stays_operatorRounds (rule : OperatorRule)
    (closed : ∀ name ∈ (RuleKind.operator rule).references, grammar.contains name = true)
    (budget : Nat) :
    Outcome.Recasts merged (Stays environment first merged grammar above node)
      (operatorRounds consume rule node budget state).outcome
      (operatorRounds consume' rule node budget (state.recast merged)).outcome := by
  induction budget generalizing state with
  | zero => exact .exhausted
  | succ budget inductionHypothesis =>
    rw [operatorRounds, operatorRounds]
    refine (simulates.stays inZone fits (closed rule.operator List.mem_cons_self)).bind
      fun found _ fits => ?_
    cases found with
    | false => exact .done fits
    | true =>
      have operand_closed := closed rule.operand (by simp [RuleKind.references])
      refine (simulates.stays inZone fits operand_closed).bind fun matched _ fits => ?_
      cases matched with
      | false => exact .done fits
      | true => exact inductionHypothesis fits

theorem stays_performOperator (rule : OperatorRule)
    (closed : ∀ name ∈ (RuleKind.operator rule).references, grammar.contains name = true)
    (budget : Nat) {self : Rule}
    (search_eq : isRepeating (state.tree.relabel merged.counterpart) (merged.counterpart self)
      (state.tree.lineage node).tail = isRepeating state.tree self (state.tree.lineage node).tail) :
    Outcome.Recasts merged (Stays environment first merged grammar above node)
      (performOperator consume budget self rule node state).outcome
      (performOperator consume' budget (merged.counterpart self) rule node
        (state.recast merged)).outcome := by
  unfold performOperator
  refine recasts_read_bind ?_ ?_
  · rw [State.recast, Tree.lineage_relabel]
    exact search_eq
  · split
    · exact .done fits
    · have operand_closed := closed rule.operand (by simp [RuleKind.references])
      refine (simulates.stays inZone fits operand_closed).bind fun matched _ fits => ?_
      cases matched with
      | false => exact .done fits
      | true => exact stays_operatorRounds simulates inZone fits rule closed budget

end

/-! ### Tokens -/

theorem recasts_performToken {token token' : TokenRule}
    (same : ∀ source offset, token'.matchAt? source offset = token.matchAt? source offset)
    (tidy : Tidy environment merged state) (rising : state.tree.Rising)
    (inside : node < state.tree.size) :
    Outcome.Recasts merged (fun _ after => Tidy environment merged after)
      (performToken environment token node state).outcome
      (performToken environment.plain token' node (state.recast merged)).outcome := by
  have source_eq : environment.plain.source = environment.source := rfl
  rw [outcome_performToken, outcome_performToken, same, stop_recast, source_eq]
  cases token.matchAt? environment.source (state.tree.stop node) with
  | none => exact .done tidy
  | some length =>
    have settled := settled_of_pruned (Tree.pruned_matchToken rising inside length) tidy.settled
    have matched : Tidy environment merged
        { state with tree := state.tree.matchToken node length } := ⟨tidy.truthful, settled⟩
    dsimp only
    rw [← recast_matchToken]
    exact .done matched

/-! ### Imports -/

/-- No part of the innermost rule has been tried yet. -/
def Fresh (state : State) : Prop :=
  ∃ frame rest, state.stack = frame :: rest ∧ frame.alternative = 0

theorem Fresh.setAlternative (fresh : Fresh state) :
    (Step.setAlternative 0 state).outcome = .done () state := by
  obtain ⟨frame, rest, stack_eq, first_eq⟩ := fresh
  have same : { frame with alternative := 0 } = frame := by
    rw [← first_eq]
  rw [Step.setAlternative, Step.change, stack_eq]
  dsimp only
  rw [same, ← stack_eq]

/-- A choice of one alternative asks for it. -/
theorem outcome_performChoice_singleton (fresh : Fresh state) (consume : Consume) (node : Nat)
    (name : String) :
    (performChoice consume node 0 [name] state).outcome = (consume node name state).outcome := by
  rw [performChoice, (Step.bind_of_done _ fresh.setAlternative).1]
  refine outcome_bind_return fun matched next => ?_
  cases matched <;> rfl

section

variable (merges : Merges environment merged zone) (faithful : environment.source.Faithful)
  (found : grammar.rule? rule.name = some rule)
include merges faithful simulates inZone fits found

/-- An import goes along with a choice of the rule that it stands for. -/
theorem recasts_performImport {target : ImportRule} (kind : rule.kind = .imported target)
    (fresh : Fresh state) :
    Outcome.Recasts merged (fun _ after => Tidy environment merged after)
      (performImport environment consume target state.tree.size
        { state with tree := state.tree.attach node (.rule rule) }).outcome
      (performChoice consume' state.tree.size 0 [target.rule]
        (({ state with tree := state.tree.attach node (.rule rule) } : State).recast
          merged)).outcome := by
  obtain ⟨guest, beyond, published, contained, isGuest, covers⟩ := merges.leads inZone found kind
  have inner := fits.attach_beyond merges inZone found (.inr ⟨_, published⟩) covers
  obtain ⟨memo, truthful, -, skipped⟩ := outcome_skipWhitespace_of_rested merges isGuest
    inner.truthful inner.tree.rising inner.isOpen.inside rfl inner.rested
  have met : Run.Meets _ _ True _ := meets_skipWhitespace faithful inner.toReady
  have inner := inner.working (met.returns _ _ skipped).toWorking ⟨truthful, inner.settled⟩
    inner.rested
  have recasts := simulates.recasts isGuest contained inner
  have stillFresh : Fresh (({ state with tree := state.tree.attach node (.rule rule) } :
      State).recast merged) := fresh
  rw [outcome_performChoice_singleton stillFresh, performImport, published]
  have outcome_eq : (Step.withGrammar guest (do
      skipWhitespace environment state.tree.size
      consume state.tree.size target.rule)
        { state with tree := state.tree.attach node (.rule rule) }).outcome =
      (consume state.tree.size target.rule
        { state with tree := state.tree.attach node (.rule rule), grammar := guest, memo }
        ).outcome.mapState fun last => { last with grammar := state.grammar } := by
    show Outcome.mapState _ ((skipWhitespace environment state.tree.size >>= fun _ => consume
      state.tree.size target.rule) _).outcome = _
    rw [(Step.bind_of_done _ skipped).1]
  rw [outcome_eq]
  exact recasts.mapState_unseen (fun _ => rfl) fun _ _ ended =>
    ⟨ended.1.truthful, ended.1.settled⟩

/-! ### Any rule -/

theorem recasts_perform (budget : Nat) (fresh : Fresh state) :
    Outcome.Recasts merged (fun _ after => Tidy environment merged after)
      (perform environment consume budget rule state.tree.size
        { state with tree := state.tree.attach node (.rule rule) }).outcome
      (perform environment.plain consume' budget (merged.counterpart rule) state.tree.size
        (({ state with tree := state.tree.attach node (.rule rule) } : State).recast
          merged)).outcome := by
  have tidy : ∀ {outcome other : Outcome Bool},
      Outcome.Recasts merged (Stays environment first merged grammar above state.tree.size)
        outcome other →
      Outcome.Recasts merged (fun _ after => Tidy environment merged after) outcome other :=
    fun stays => stays.imp fun _ _ fits => fits.toTidy
  have rising := fits.tree.rising
  have inside := fits.isOpen.inside
  have attached := ready_attach fits.toReady (.rule rule)
  have sprouted := Tree.sprouted_attach rising inside (.rule rule)
  have like := (merges.standsFor inZone found).like
  have closed := merges.closed inZone found
  have inner := fits.attach merges inZone found
  rw [perform, perform, merged.counterpart_name]
  rw [Rule.isImport] at closed inner
  generalize kind : rule.kind = left, (merged.counterpart rule).kind = right at *
  cases like with
  | token matchAt?_eq =>
    exact recasts_performToken matchAt?_eq (fits.tidy_attach merges inZone found)
      attached.tree.rising attached.isOpen.inside
  | sequence items =>
    exact tidy (stays_performSequence simulates inZone (inner rfl) 0 items fun item member =>
      closed rfl _ (List.mem_map_of_mem member))
  | choice choice =>
    exact tidy (stays_performChoice simulates inZone (inner rfl) 0 choice.alternatives (closed rfl))
  | list list =>
    exact tidy (stays_performList simulates inZone (inner rfl) budget rule.name list (closed rfl))
  | set set => exact tidy (stays_performSet simulates inZone (inner rfl) set (closed rfl))
  | operator operator =>
    refine tidy (stays_performOperator simulates inZone (inner rfl) operator (closed rfl) budget ?_)
    dsimp only
    rw [Tree.lineage_attach_new rising inside, List.tail_cons, ← sprouted.lineage_eq rising inside]
    exact isRepeating_relabel merges inZone found (by rw [Rule.isOperator, kind])
      (fits.chained.of_sameOutline rising inside sprouted.toSameOutline)
  | imported target =>
    exact recasts_performImport simulates inZone fits merges faithful found kind fresh

/-! ### Attempts -/

theorem recasts_attemptWith (budget : Nat) (fresh : Fresh state) :
    Outcome.Recasts merged (fun _ after => Tidy environment merged after)
      (attemptWith rule node (perform environment consume budget rule) state).outcome
      (attemptWith (merged.counterpart rule) node
        (perform environment.plain consume' budget (merged.counterpart rule))
          (state.recast merged)).outcome := by
  have rising := fits.tree.rising
  have inside := fits.isOpen.inside
  have new := Tree.node_attach_new inside (.rule rule)
  have met : Run.Meets _ _ True _ := meets_perform faithful simulates.reliable budget
    (ready_attach fits.toReady (.rule rule)) (by rw [new]) (by rw [new]) (.inl trivial)
  unfold attemptWith
  refine recasts_read_bind Tree.size_relabel ?_
  refine recasts_change_bind (recast_attach state node (.rule rule)).symm ?_
  refine ((recasts_perform simulates inZone fits merges faithful found budget fresh).and
    met).bind fun matched after ended => ?_
  obtain ⟨worked, tidy⟩ := ended
  cases matched with
  | true => exact .done tidy
  | false =>
    refine recasts_change_bind (recast_discardLast after node).symm (.done ⟨tidy.truthful, ?_⟩)
    dsimp only
    rw [worked.grown.discardLast_eq rising inside]
    exact fits.settled

/-- The memo may answer for a token on the first side. -/
theorem recasts_attemptMemoized (budget : Nat) (fresh : Fresh state) :
    Outcome.Recasts merged (fun _ after => Tidy environment merged after)
      (attemptMemoized rule node (attemptWith rule node
        (perform environment consume budget rule)) state).outcome
      (attemptMemoized (merged.counterpart rule) node (attemptWith (merged.counterpart rule) node
        (perform environment.plain consume' budget (merged.counterpart rule)))
          (state.recast merged)).outcome := by
  have standsFor := merges.standsFor inZone found
  rw [outcome_attemptMemoized_recast]
  cases isToken : rule.token? with
  | none =>
    rw [outcome_attemptMemoized, Rule.isToken, isToken, Option.isSome_none, Bool.and_false]
    exact recasts_attemptWith simulates inZone fits merges faithful found budget fresh
  | some token =>
    have rising := fits.tree.rising
    have inside := fits.isOpen.inside
    obtain ⟨token', -, isToken', same⟩ := token?_counterpart standsFor isToken
    obtain ⟨memo, truthful, -, ended⟩ := outcome_attemptMemoized_of_truthful fits.truthful
      standsFor isToken rising inside fun state rising inside =>
        outcome_attemptWith_token rising inside
    rw [perform_of_token? isToken, perform_of_token? isToken', ended,
      outcome_attemptWith_token (rising_recast rising)
        (show node < (state.tree.relabel merged.counterpart).size from
          Tree.size_relabel.symm ▸ inside)]
    refine ⟨tokenOutcome_recast same { state with memo }, fun matched after done => ?_⟩
    rw [tokenOutcome] at done
    dsimp only at done
    cases answered : token.matchAt? environment.source (state.tree.stop node) with
    | none =>
      rw [answered] at done
      cases done
      exact ⟨truthful, fits.settled⟩
    | some length =>
      rw [answered] at done
      cases done
      exact ⟨truthful, settled_attach_matchToken rising inside fits.settled standsFor length⟩

end

/-! ### The operation itself -/

theorem recasts_traceAttempt (property : State → Prop) (offset : Nat)
    (event : Position → Nat → Log.Event) (holds : ∀ log, property { state with log }) :
    Outcome.Recasts merged (fun _ => property) (traceAttempt environment offset event state).outcome
      (traceAttempt environment.plain offset event (state.recast merged)).outcome := by
  unfold traceAttempt
  show Outcome.Recasts merged _ _ ((if environment.tracing then _ else _ : Step Unit) _).outcome
  cases environment.tracing with
  | false => exact .done (holds state.log)
  | true => exact recasts_read_bind rfl (recasts_change rfl (holds _))

section

variable (merges : Merges environment merged zone) (faithful : environment.source.Faithful)
include merges faithful simulates inZone fits

theorem recasts_pursue (found : grammar.rule? name = some rule) (budget offset : Nat)
    (fresh : Fresh state) :
    Outcome.Recasts merged (fun _ after => Tidy environment merged after ∧
        Rested environment merged (after.tree.stop node))
      (pursue environment (fun rule parent =>
        attemptWith rule parent (perform environment consume budget rule)) node name offset rule
          state).outcome
      (pursue environment.plain (fun rule parent =>
        attemptWith rule parent (perform environment.plain consume' budget rule)) node name offset
          (merged.counterpart rule) (state.recast merged)).outcome := by
  have self := Grammar.rule?_self found
  have limit_eq : exceededLimit? environment.plain (state.recast merged) =
      exceededLimit? environment state := by
    rw [exceededLimit?, exceededLimit?, fits.grammar_eq, ← merges.depthLimit_eq inZone]
    rfl
  unfold pursue
  refine recasts_read_bind limit_eq ?_
  cases exceededLimit? environment state with
  | some limit => exact recasts_abort _ _
  | none =>
    refine (recasts_traceAttempt (fun next =>
      Fits environment first merged grammar above node next ∧ Fresh next) offset _ fun log =>
        ⟨fits.still (.of_eq fits.toSound rfl rfl rfl rfl rfl) rfl, fresh⟩).bind
      fun _ next ended => ?_
    obtain ⟨fits, fresh⟩ := ended
    have active := fits.toReady.grammar
    have tries : Tries environment first next.grammar (fun _ => True) rule node
        (attemptWith rule node (perform environment consume budget rule)) :=
      tries_perform faithful simulates.reliable next.grammar budget rule node fun _ =>
        .inl trivial
    have met : Run.Meets _ _ True _ := meets_attemptMemoized faithful fits.toReady
      ⟨grammar, name, fits.grammar_eq ▸ active, found⟩ tries
    refine ((recasts_attemptMemoized simulates inZone fits merges faithful self budget fresh).and
      met).bind fun matched after ended => ?_
    obtain ⟨tried, tidy⟩ := ended
    cases matched with
    | false =>
      refine recasts_change_bind rfl (.done ⟨⟨tidy.truthful, tidy.settled⟩, ?_⟩)
      dsimp only
      rw [tried.restored rfl]
      exact fits.rested
    | true =>
      refine (recasts_skipWhitespace merges inZone faithful (tried.working fits.toReady).1.ready
        tidy (tried.grammar_eq.trans fits.grammar_eq)).bind fun _ last skipped => ?_
      refine recasts_change_bind rfl ?_
      refine .bind (recasts_traceAttempt (fun last => Tidy environment merged last ∧
        Rested environment merged (last.tree.stop node)) offset _ fun log => ?_)
          fun _ _ ended => .done ended
      exact ⟨⟨skipped.1.truthful, skipped.1.settled⟩, skipped.2⟩

end

theorem record_counterpart (standsFor : merged.StandsFor rule) (diagnostics : Diagnostics)
    (offset : Nat) (stack : List Frame) :
    diagnostics.record offset (merged.counterpart rule) stack =
      diagnostics.record offset rule stack := by
  rw [Diagnostics.record, Diagnostics.record, Rule.isToken_of_like standsFor.like,
    merged.counterpart_name]

/-- However much work is allowed, a parse with imports goes along with one under a grammar that
has the imported rules. -/
theorem simulates_consume (merges : Merges environment merged zone)
    (faithful : environment.source.Faithful) (fuel : Nat) :
    Simulates environment first merged zone (Parse.consume environment fuel)
      (Parse.consume environment.plain fuel) := by
  refine ⟨reliable_consume faithful (excuses_always environment first) fuel, ?_⟩
  induction fuel with
  | zero => exact fun _ _ _ _ _ _ => .exhausted
  | succ fuel inductionHypothesis =>
    intro grammar above inZone node name state contained fits
    have simulates : Simulates environment first merged zone (Parse.consume environment fuel)
        (Parse.consume environment.plain fuel) :=
      ⟨reliable_consume faithful (excuses_always environment first) fuel, inductionHypothesis⟩
    obtain ⟨rule, found⟩ := Option.isSome_iff_exists.mp contained
    have standsFor := merges.standsFor inZone found
    have found' : (state.recast merged).grammar.rule? name = some (merged.counterpart rule) := by
      obtain ⟨other, found', -⟩ := standsFor
      rw [Grammar.counterpart_of_rule? found', ← Grammar.rule?_name found]
      exact found'
    rw [(consume_succ environment fuel node name state).1,
      (consume_succ environment.plain fuel node name (state.recast merged)).1,
      (invoke_of_found environment _ node (fits.grammar_eq ▸ found)).1,
      (invoke_of_found environment.plain _ node found').1]
    have entered : Fits environment first merged grammar above node
        (state.entered node name rule) :=
      ⟨fits.toReady.entered name rule, ⟨fits.truthful, fits.settled⟩, fits.grammar_eq,
        fits.chained, fits.rested⟩
    have entered_eq : (state.recast merged).entered node name (merged.counterpart rule) =
        (state.entered node name rule).recast merged := by
      rw [State.entered, record_counterpart standsFor, stop_recast]
      rfl
    rw [entered_eq, stop_recast]
    exact (recasts_pursue simulates inZone entered merges faithful found fuel _
      ⟨_, _, rfl, rfl⟩).mapState (fun _ => rfl) fun _ _ ended =>
        ⟨⟨ended.1.truthful, ended.1.settled⟩, ended.2⟩

/-! ### A whole parse -/

theorem recasts_begin (merges : Merges environment merged zone)
    (faithful : environment.source.Faithful) (inZone : zone first above) (fuel : Nat)
    {start : String} (contained : first.contains start = true) :
    Outcome.Recasts merged (fun _ after => Tidy environment merged after)
      (begin environment fuel start (State.initial first environment.options)).outcome
      (begin environment.plain fuel start
        (State.initial merged environment.plain.options)).outcome := by
  have ready := ready_initial environment first
  have initial_eq : State.initial merged environment.plain.options =
      (State.initial first environment.options).recast merged := by
    have tree_eq : Tree.new.relabel merged.counterpart = Tree.new := Tree.relabel_new
    rw [State.recast, State.initial, State.initial, tree_eq]
    rfl
  have tidy : Tidy environment merged (State.initial first environment.options) := by
    refine ⟨fun memo present key outcome known => ?_, settled_new merged⟩
    have empty : memo = {} := by
      rw [State.initial] at present
      split at present
      · exact (Option.some.inj present).symm
      · cases present
    rw [empty, Std.HashMap.getElem?_empty] at known
    cases known
  have chained : Chained first above (State.initial first environment.options).tree Tree.root :=
    ⟨[], [Tree.root], rfl, List.forall_mem_nil _, fun id member rule found => by
      rw [List.mem_singleton.mp member] at found
      cases found⟩
  have met : Run.Meets _ _ True _ := meets_skipWhitespace faithful ready
  rw [begin, begin, initial_eq]
  refine ((recasts_skipWhitespace merges inZone faithful ready tidy rfl).and met).bind
    fun _ next ended => ?_
  obtain ⟨skipped, tidy, rested⟩ := ended
  have fits : Fits environment first merged first above Tree.root next :=
    ⟨skipped.ready, tidy, skipped.grammar_eq,
      chained.of_sameOutline ready.tree.rising ready.isOpen.inside skipped.grown.sameOutline,
      rested⟩
  exact ((simulates_consume merges faithful fuel).recasts inZone contained fits).imp
    fun _ _ ended => ended.1

/-! ### Answers -/

/-- Two answers are the same in what a parse is asked for: the text, its syntax tree and how
often rules were asked for, matched and did not match, or the failure. -/
inductive Answer.Like : Answer → Answer → Prop where
  | parsed {left right : ParseTree} (source_eq : right.source = left.source)
    (ast_eq : right.toAst = left.toAst)
    (calls_eq : right.statistics.calls = left.statistics.calls)
    (found_eq : right.statistics.found = left.statistics.found)
    (notFound_eq : right.statistics.notFound = left.statistics.notFound) :
    Like (.parsed left) (.parsed right)
  | failed (error : ParseError) : Like (.failed error) (.failed error)
  | exhausted : Like .exhausted .exhausted

/-- Answers that are like the same answer are alike. -/
theorem Answer.Like.trans_symm {left middle right : Answer} (first : left.Like middle)
    (second : right.Like middle) : left.Like right := by
  cases first with
  | parsed source_eq ast_eq calls_eq found_eq notFound_eq =>
    cases second with
    | parsed source_eq' ast_eq' calls_eq' found_eq' notFound_eq' =>
      exact .parsed (source_eq'.symm.trans source_eq) (ast_eq'.symm.trans ast_eq)
        (calls_eq'.symm.trans calls_eq) (found_eq'.symm.trans found_eq)
        (notFound_eq'.symm.trans notFound_eq)
  | failed error =>
    cases second
    exact .failed error
  | exhausted =>
    cases second
    exact .exhausted

theorem totals_recast (merged : Grammar) (state : State) :
    (state.recast merged).totals.calls = state.totals.calls ∧
      (state.recast merged).totals.found = state.totals.found ∧
        (state.recast merged).totals.notFound = state.totals.notFound := by
  rw [State.totals, State.totals]
  cases state.memo <;> exact ⟨rfl, rfl, rfl⟩

theorem like_conclude {outcome other : Outcome Bool}
    (recasts : Outcome.Recasts merged (fun _ after => Tidy environment merged after) outcome
      other) :
    (conclude environment outcome).answer.Like (conclude environment.plain other).answer := by
  rw [recasts.other_eq]
  cases ended : outcome with
  | exhausted => exact .exhausted
  | aborted error state => exact .failed error
  | done matched state =>
    have tidy := recasts.returns matched state ended
    cases matched with
    | false => exact .failed _
    | true =>
      rw [Outcome.mapState, conclude, conclude, stop_recast]
      dsimp only
      have source_eq : environment.plain.source = environment.source := rfl
      rw [source_eq]
      split
      · exact .failed _
      · obtain ⟨calls_eq, found_eq, notFound_eq⟩ := totals_recast merged state
        have ast_eq : (Ast.Builder.recast ⟨environment.source, state.tree⟩ merged).build
            Tree.root = Ast.Builder.build ⟨environment.source, state.tree⟩ Tree.root :=
          Ast.Builder.build_recast tidy.settled Tree.root
        exact .parsed rfl ast_eq calls_eq found_eq notFound_eq

/-- A parse with imports answers like one under a grammar that has the imported rules. -/
theorem like_run (merges : Merges environment merged zone)
    (faithful : environment.source.Faithful) (inZone : zone first above) (fuel : Nat)
    {start : String} (contained : first.contains start = true) :
    (run environment fuel first (some start)).answer.Like
      (run environment.plain fuel merged (some start)).answer :=
  like_conclude (recasts_begin merges faithful inZone fuel contained)

end Rulebook.Parse
