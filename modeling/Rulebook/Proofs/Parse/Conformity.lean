/-
This file follows the kinds of rules with a law in mind. The small steps of a parse conform to
every law of parses, and so do its tokens and its whitespace. A kind of rule conforms if the
operation does with which it asks for the rules it names.
-/

import Rulebook.Proofs.Parse.Law

namespace Rulebook.Parse

open Match (Origin Tree)

variable {environment : Environment} {first : Grammar} {law : Law} {called : Option Rule}
  {consume : Consume} {before after state next : State} {node parent : Nat} {rule self : Rule}
  {token : TokenRule} {name : String} {matched : Bool} {excused : Nat → Prop}

/-! ### Steps that matter little -/

theorem Attempted.continues (ready : Ready environment first parent before)
    (attempted : Attempted environment first rule parent before matched after) :
    Continues environment first parent before after := by
  cases matched with
  | true => exact (attempted.working ready).1.continues
  | false =>
    have still : Still environment first before after :=
      ⟨attempted.toKept, attempted.restored rfl⟩
    exact ((Working.refl ready).still still).continues

/-- Detaching a child at which work was done. -/
theorem slight_discardLast (ready : Ready environment first parent state)
    (worked : Worked environment first state.tree.size (state.attached parent rule) next) :
    Slight environment first parent next { next with tree := next.tree.discardLast parent } := by
  have inside := ready.isOpen.inside
  have attached := (ready_attach ready (.rule rule)).toSound
  have kept : Kept environment first state next :=
    (Kept.of_tree ready.toSound attached.tree).trans worked.toKept
  have still := still_discardLast ready kept worked.grown
  have pruned := worked.grown.pruned_discardLast ready.tree.rising inside
  refine ⟨⟨still.ready ready, rfl, rfl, rfl, pruned.mono ?_⟩, rfl, pruned⟩
  have tree_eq : next.tree.discardLast parent = state.tree := still.tree_eq
  rw [tree_eq]
  exact inside

/-- Attaching a node without children. -/
theorem sprouting_attach (ready : Ready environment first node state) {origin : Origin}
    (childless : Childless origin) :
    Sprouting environment first node state
      { state with tree := state.tree.attach node origin } :=
  ⟨(working_attach (.refl ready) origin).continues, rfl, origin, childless,
    Tree.sprouted_attach ready.tree.rising ready.isOpen.inside origin⟩

section

variable (lawful : Lawful environment first law)
include lawful

section

variable (ready : Ready environment first node state)
include ready

theorem conforms_books {step : Step Unit} (books : Bookkeeping environment first state step) :
    Conforms environment first law called node state [] (step state) := by
  obtain ⟨update, rfl, still, diagnostics_eq⟩ := books
  exact conforms_change lawful ready (still.slight ready diagnostics_eq)

theorem conforms_setAlternative (index : Nat) :
    Conforms environment first law called node state []
      (Step.setAlternative index state) :=
  conforms_books lawful ready (bookkeeping_setAlternative ready.toSound index)

theorem conforms_traceAttempt (offset : Nat) (event : Position → Nat → Log.Event) :
    Conforms environment first law called node state []
      (traceAttempt environment offset event state) := by
  unfold traceAttempt
  cases environment.tracing with
  | false => exact conforms_pure lawful ready _
  | true => exact .read_bind (conforms_books lawful ready (bookkeeping_log ready.toSound _))

theorem conforms_leaveOut (name : String) :
    Conforms environment first law called node state []
      (leaveOut environment node name state) := by
  unfold leaveOut
  refine .bind lawful ready
    (conforms_sprout lawful ready (sprouting_attach ready (.lambda name))) fun _ next here => ?_
  cases environment.tracing with
  | false => exact conforms_pure lawful here.toReady _
  | true => exact .read_bind (conforms_books lawful here.toReady (bookkeeping_log here.toSound _))

end

/-! ### Tokens and whitespace -/

/-- A token works at a node of its own, which is attached for it at the parent. -/
theorem conforms_performToken (faithful : environment.source.Faithful)
    (ready : Ready environment first parent state) (isToken : rule.token? = some token) :
    Conforms environment first law called parent (state.attached parent rule) []
      (performToken environment token state.tree.size (state.attached parent rule)) := by
  have attached := ready_attach ready (.rule rule)
  have new := Tree.node_attach_new ready.isOpen.inside (.rule rule)
  have here := (working_attach (.refl ready) (.rule rule)).ready
  unfold performToken
  refine .read_bind ?_
  cases found : token.matchAt? environment.source
      ((state.attached parent rule).tree.stop state.tree.size) with
  | none => exact conforms_pure lawful here _
  | some length =>
    have worked := worked_matchToken attached (by rw [new]) (by rw [new])
      (Rule.isToken_of_token? isToken) (token.boundary_of_matchAt? faithful found).2
    have pruned := Tree.pruned_matchToken attached.tree.rising attached.isOpen.inside length
    exact .bind lawful here (conforms_change lawful here ⟨worked.continues ready, rfl, pruned⟩)
      fun _ next later => conforms_pure lawful later.toReady _

theorem conforms_attemptToken (faithful : environment.source.Faithful)
    (ready : Ready environment first parent state) (isToken : rule.token? = some token) :
    Conforms environment first law called parent state []
      (attemptWith rule parent (performToken environment token) state) := by
  have attached := ready_attach ready (.rule rule)
  have new := Tree.node_attach_new ready.isOpen.inside (.rule rule)
  have performs : Run.Meets _ _ True _ := meets_performToken faithful attached
    (by rw [new]) (by rw [new]) isToken
  have sprouting := sprouting_attach ready (.token (Rule.isToken_of_token? isToken))
  unfold attemptWith
  refine .read_bind (.bind_of_done lawful ready (conforms_sprout lawful ready sprouting)
    fun _ next done here => ?_)
  cases done
  refine .bind_of_done lawful here.toReady (conforms_performToken lawful faithful ready isToken)
    fun matched next done here => ?_
  cases matched with
  | true => exact conforms_pure lawful here.toReady _
  | false =>
    have worked := performs.returns false next done
    exact .bind lawful here.toReady
      (conforms_change lawful here.toReady (slight_discardLast ready worked))
      fun _ last there => conforms_pure lawful there.toReady _

theorem conforms_consult (ready : Ready environment first node state) (key : MemoKey) :
    Conforms environment first law called node state [] (consult key state) := by
  have meets : Run.Meets _ _ True _ := meets_consult ready.toSound key
  unfold consult at meets ⊢
  cases present : state.memo with
  | none => exact conforms_silent lawful ready fun _ same => (Option.some.inj same).symm
  | some memo =>
    rw [present] at meets
    have still := (meets.returns _ _ rfl).1
    exact conforms_single
      (lawful.slight ready (still.slight ready rfl) fun _ _ absurd => nomatch absurd)
      (still.slight ready rfl).toContinues

theorem conforms_attemptRemembering (faithful : environment.source.Faithful)
    (ready : Ready environment first parent state) (known : Known environment first rule)
    (isToken : rule.isToken = true) {attempt : Step Bool}
    (tries : Tries environment first state.grammar excused rule parent attempt)
    (conforms : ∀ next, Ready environment first parent next →
      Conforms environment first law called parent next [] (attempt next)) :
    Conforms environment first law called parent state []
      (attemptRemembering rule parent attempt state) := by
  have consults : Run.Meets _ _ True _ := meets_consult ready.toSound
    ⟨rule.grammar, state.tree.stop parent, rule.name⟩
  unfold attemptRemembering
  refine .read_bind (.bind_of_done lawful ready (conforms_consult lawful ready _)
    fun answer next done here => ?_)
  obtain ⟨still, recalls⟩ := consults.returns answer next done
  have nextReady := here.toReady
  match answer with
  | some (some length) =>
    obtain ⟨other, token, -, -, -, -, remembered⟩ := recalls (some length) rfl
    rw [← still.tree_eq] at remembered
    have attempted := attempted_matchToken nextReady isToken
      (token.boundary_of_matchAt? faithful remembered).2
    have sprouted := Tree.sprouted_attach_matchToken nextReady.tree.rising
      nextReady.isOpen.inside (.rule rule) length
    exact .read_bind (.bind lawful nextReady (conforms_sprout lawful nextReady
      ⟨attempted.continues nextReady, rfl, _, .token isToken, sprouted⟩)
      fun _ last there => conforms_pure lawful there.toReady _)
  | some none => exact conforms_pure lawful nextReady _
  | none =>
    refine .bind_of_done lawful nextReady (conforms next nextReady)
      fun matched last ended there => .read_bind ?_
    have recalls := tries.recalls nextReady known isToken ended
    rw [still.tree_eq] at recalls
    have remembers : Run.Meets _ _ True _ := meets_remember there.toSound recalls
    exact .bind lawful there.toReady
      (conforms_books lawful there.toReady ⟨_, rfl, remembers.returns _ _ rfl, rfl⟩)
      fun _ final beyond => conforms_pure lawful beyond.toReady _

theorem conforms_attemptMemoized (faithful : environment.source.Faithful)
    (ready : Ready environment first parent state) (known : Known environment first rule)
    {attempt : Step Bool}
    (tries : Tries environment first state.grammar excused rule parent attempt)
    (conforms : ∀ next, Ready environment first parent next →
      Conforms environment first law called parent next [] (attempt next)) :
    Conforms environment first law called parent state []
      (attemptMemoized rule parent attempt state) := by
  unfold attemptMemoized
  refine .bind_of_done lawful ready
    (conforms_note lawful ready fun _ _ absurd => nomatch absurd) fun _ next done here => ?_
  cases done
  refine .read_bind ?_
  cases both : state.memo.isSome && rule.isToken with
  | false => exact conforms state ready
  | true =>
    have isToken := (Bool.and_eq_true_iff.mp both).2
    exact conforms_attemptRemembering lawful faithful ready known isToken tries conforms

theorem conforms_attemptBlank (faithful : environment.source.Faithful)
    (ready : Ready environment first parent state) (known : Known environment first rule) :
    Conforms environment first law called parent state []
      (attemptBlank environment parent rule state) := by
  unfold attemptBlank
  cases isToken : rule.token? with
  | none => exact conforms_pure lawful ready _
  | some token =>
    have tries : Tries environment first state.grammar (fun _ => True) rule parent
        (attemptWith rule parent (performToken environment token)) :=
      tries_token faithful isToken
    exact conforms_attemptMemoized lawful faithful ready known tries fun next ready =>
      conforms_attemptToken lawful faithful ready isToken

theorem conforms_skipOne (faithful : environment.source.Faithful)
    (ready : Ready environment first parent state) {tokens : List Rule}
    (known : ∀ rule ∈ tokens, Known environment first rule) :
    Conforms environment first law called parent state []
      (skipOne environment parent tokens state) := by
  induction tokens generalizing state with
  | nil => exact conforms_pure lawful ready _
  | cons rule rest inductionHypothesis =>
    have rest_known := fun rule member => known rule (List.mem_cons_of_mem _ member)
    have attempts : Run.Meets _ _ True _ :=
      meets_attemptBlank faithful ready (known rule List.mem_cons_self)
    rw [skipOne]
    refine .read_bind (.bind_of_done lawful ready
      (conforms_attemptBlank lawful faithful ready (known rule List.mem_cons_self))
      fun matched next done here => ?_)
    cases matched with
    | false => exact inductionHypothesis here.toReady rest_known
    | true =>
      have attempted := attempts.returns true next done
      refine .read_bind ?_
      split
      · have skipped := skipped_skipLast ready attempted.toAttempted (attempted.terminal rfl)
        have pruned := Tree.pruned_skipLast here.tree parent
        have slight : Slight environment first parent next
            { next with tree := next.tree.skipLast parent } :=
          ⟨⟨skipped.ready, rfl, rfl, rfl, pruned.mono skipped.isOpen.inside⟩, rfl, pruned⟩
        exact .bind lawful here.toReady (conforms_change lawful here.toReady slight)
          fun _ last there => conforms_pure lawful there.toReady _
      · have kept : Kept environment first (state.attached parent rule) next :=
          ⟨attempted.sound, attempted.grammar_eq, attempted.tail_eq, attempted.height_eq⟩
        exact .bind lawful here.toReady (conforms_change lawful here.toReady
          (slight_discardLast ready ⟨kept, attempted.grown rfl⟩))
          fun _ last there => inductionHypothesis there.toReady rest_known

theorem conforms_skipAll (faithful : environment.source.Faithful)
    (ready : Ready environment first parent state) {tokens : List Rule}
    (known : ∀ rule ∈ tokens, Known environment first rule) (rounds : Nat) :
    Conforms environment first law called parent state []
      (skipAll environment parent tokens rounds state) := by
  induction rounds generalizing state with
  | zero => exact conforms_exhausted lawful ready
  | succ rounds inductionHypothesis =>
    rw [skipAll]
    refine .bind lawful ready (conforms_skipOne lawful faithful ready known)
      fun skipped next here => ?_
    cases skipped with
    | false => exact conforms_pure lawful here.toReady _
    | true => exact inductionHypothesis here.toReady

theorem conforms_skipWhitespace (faithful : environment.source.Faithful)
    (ready : Ready environment first parent state) :
    Conforms environment first law called parent state []
      (skipWhitespace environment parent state) := by
  unfold skipWhitespace
  refine .read_bind ?_
  cases state.grammar.whitespaceDisabled with
  | true => exact conforms_pure lawful ready _
  | false =>
    exact conforms_skipAll lawful faithful ready (known_whitespaceTokens ready.grammar) _

end

/-! ### Kinds of rules -/

/-- A node at which rules of some names may be asked for. -/
structure Hosts (environment : Environment) (first : Grammar) (names : List String) (node : Nat)
    (state : State) : Prop extends Ready environment first node state where
  mentions : ∀ name ∈ names, Mentions state.tree node name

/-- A way of matching rules that can be relied on and obeys a law. -/
structure Serves (environment : Environment) (first : Grammar) (law : Law)
    (consume : Consume) : Prop where
  reliable : Reliable environment first (fun _ => True) consume
  conforms : ∀ node name state, Ready environment first node state →
    Mentions state.tree node name →
      Conforms environment first law none node state [] (consume node name state)

theorem hosts_of_rule (ready : Ready environment first node state)
    (isRule : (state.tree.node node).origin = .rule rule) :
    Hosts environment first rule.kind.references node state where
  toReady := ready
  mentions name member other found := by
    rw [Match.Node.rule?, isRule] at found
    exact Option.some.inj found ▸ member

theorem Hosts.continues {names : List String}
    (hosts : Hosts environment first names node state)
    (here : Continues environment first node state next) :
    Hosts environment first names node next where
  toReady := here.toReady
  mentions name member other found := by
    rw [here.outline.rule?_eq (Nat.lt_succ_self node)] at found
    exact hosts.mentions name member other found

theorem Serves.hosted (serves : Serves environment first law consume) {names : List String}
    (hosts : Hosts environment first names node state) (member : name ∈ names) :
    Conforms environment first law none node state [] (consume node name state) :=
  serves.conforms node name state hosts.toReady (hosts.mentions name member)

section

variable (lawful : Lawful environment first law) (serves : Serves environment first law consume)
include lawful serves

theorem conforms_consumeOptional {names : List String}
    (hosts : Hosts environment first names node state) (asked : Option String)
    (listed : ∀ name ∈ asked, name ∈ names) (otherwise : Bool) :
    Conforms environment first law none node state []
      (consumeOptional consume node asked otherwise state) := by
  cases asked with
  | none => exact conforms_pure lawful hosts.toReady _
  | some name => exact serves.hosted hosts (listed name rfl)

theorem conforms_performSequence {names : List String}
    (hosts : Hosts environment first names node state) (index : Nat)
    {items : List SequenceItem} (listed : ∀ item ∈ items, item.rule ∈ names) :
    Conforms environment first law none node state []
      (performSequence environment consume node index items state) := by
  induction items generalizing index state with
  | nil => exact conforms_pure lawful hosts.toReady _
  | cons item rest inductionHypothesis =>
    have rest_listed := fun item member => listed item (List.mem_cons_of_mem _ member)
    rw [performSequence]
    refine .bind lawful hosts.toReady (conforms_setAlternative lawful hosts.toReady index)
      fun _ next here => ?_
    have hosts := hosts.continues here
    refine .bind lawful hosts.toReady (serves.hosted hosts (listed item List.mem_cons_self))
      fun matched next here => ?_
    have hosts := hosts.continues here
    cases matched with
    | true => exact inductionHypothesis hosts (index + 1) rest_listed
    | false =>
      cases item.required with
      | true => exact conforms_pure lawful hosts.toReady _
      | false =>
        exact .bind lawful hosts.toReady (conforms_leaveOut lawful hosts.toReady item.rule)
          fun _ _ here => inductionHypothesis (hosts.continues here) (index + 1) rest_listed

theorem conforms_performChoice {names : List String}
    (hosts : Hosts environment first names node state) (index : Nat)
    {alternatives : List String} (listed : ∀ name ∈ alternatives, name ∈ names) :
    Conforms environment first law none node state []
      (performChoice consume node index alternatives state) := by
  induction alternatives generalizing index state with
  | nil => exact conforms_pure lawful hosts.toReady _
  | cons alternative rest inductionHypothesis =>
    rw [performChoice]
    refine .bind lawful hosts.toReady (conforms_setAlternative lawful hosts.toReady index)
      fun _ next here => ?_
    have hosts := hosts.continues here
    refine .bind lawful hosts.toReady
      (serves.hosted hosts (listed alternative List.mem_cons_self)) fun matched next here => ?_
    have hosts := hosts.continues here
    cases matched with
    | true => exact conforms_pure lawful hosts.toReady _
    | false =>
      exact inductionHypothesis hosts (index + 1) fun name member =>
        listed name (List.mem_cons_of_mem _ member)

/-! ### Lists -/

omit lawful serves in
theorem mem_references_list (rule : ListRule) :
    rule.item ∈ (RuleKind.list rule).references ∧
      (∀ name ∈ rule.separator, name ∈ (RuleKind.list rule).references) ∧
        (∀ name ∈ rule.opening, name ∈ (RuleKind.list rule).references) ∧
          ∀ name ∈ rule.closing, name ∈ (RuleKind.list rule).references := by
  simp +contextual [RuleKind.references]

theorem conforms_listRounds (name : String) (rule : ListRule)
    (hosts : Hosts environment first (RuleKind.list rule).references node state)
    (budget round : Nat) (last : Option Nat) :
    Conforms environment first law none node state []
      (listRounds environment consume name rule node budget round last state) := by
  obtain ⟨item, separator, -, closing⟩ := mem_references_list rule
  induction budget generalizing round last state with
  | zero => exact conforms_exhausted lawful hosts.toReady
  | succ budget inductionHypothesis =>
    rw [listRounds]
    refine .bind lawful hosts.toReady
      (conforms_consumeOptional lawful serves hosts rule.separator separator true)
      fun separated next here => ?_
    have hosts := hosts.continues here
    cases separated with
    | false => exact conforms_consumeOptional lawful serves hosts rule.closing closing true
    | true =>
      refine .read_bind ?_
      split
      · exact conforms_abort lawful hosts.toReady _
      · refine .bind lawful hosts.toReady (conforms_setAlternative lawful hosts.toReady _)
          fun _ next here => ?_
        have hosts := hosts.continues here
        refine .bind lawful hosts.toReady
          (conforms_consumeOptional lawful serves hosts rule.closing closing false)
          fun closed next here => ?_
        have hosts := hosts.continues here
        cases closed with
        | true => exact conforms_pure lawful hosts.toReady _
        | false =>
          refine .bind lawful hosts.toReady (serves.hosted hosts item) fun matched next here => ?_
          have hosts := hosts.continues here
          cases matched with
          | true => exact inductionHypothesis hosts _ _
          | false => exact conforms_pure lawful hosts.toReady _

theorem conforms_performList (budget : Nat) (name : String) (rule : ListRule)
    (hosts : Hosts environment first (RuleKind.list rule).references node state) :
    Conforms environment first law none node state []
      (performList environment consume budget name rule node state) := by
  obtain ⟨item, -, opening, closing⟩ := mem_references_list rule
  unfold performList
  refine .bind lawful hosts.toReady
    (conforms_consumeOptional lawful serves hosts rule.opening opening true)
    fun opened next here => ?_
  have hosts := hosts.continues here
  cases opened with
  | false => exact conforms_pure lawful hosts.toReady _
  | true =>
    refine .bind lawful hosts.toReady
      (conforms_consumeOptional lawful serves hosts rule.closing closing false)
      fun closed next here => ?_
    have hosts := hosts.continues here
    cases closed with
    | true => exact conforms_pure lawful hosts.toReady _
    | false =>
      refine .bind lawful hosts.toReady (serves.hosted hosts item) fun matched next here => ?_
      have hosts := hosts.continues here
      cases matched with
      | false => exact conforms_pure lawful hosts.toReady _
      | true => exact conforms_listRounds lawful serves name rule hosts budget 0 none

/-! ### Sets -/

omit lawful serves in
theorem mem_references_set (rule : SetRule) :
    (∀ name ∈ rule.items, name ∈ (RuleKind.set rule).references) ∧
      (∀ name ∈ rule.separator, name ∈ (RuleKind.set rule).references) ∧
        (∀ name ∈ rule.opening, name ∈ (RuleKind.set rule).references) ∧
          ∀ name ∈ rule.closing, name ∈ (RuleKind.set rule).references := by
  simp +contextual [RuleKind.references]

theorem conforms_firstMatch {names : List String}
    (hosts : Hosts environment first names node state) {items : List (Nat × String)}
    (listed : ∀ item ∈ items, item.2 ∈ names) :
    Conforms environment first law none node state [] (firstMatch consume node items state) := by
  induction items generalizing state with
  | nil => exact conforms_pure lawful hosts.toReady _
  | cons item rest inductionHypothesis =>
    rw [firstMatch]
    refine .bind lawful hosts.toReady (conforms_setAlternative lawful hosts.toReady item.1)
      fun _ next here => ?_
    have hosts := hosts.continues here
    refine .bind lawful hosts.toReady (serves.hosted hosts (listed item List.mem_cons_self))
      fun matched next here => ?_
    have hosts := hosts.continues here
    cases matched with
    | true => exact conforms_pure lawful hosts.toReady _
    | false =>
      exact inductionHypothesis hosts fun item member =>
        listed item (List.mem_cons_of_mem _ member)

theorem conforms_setRounds (rule : SetRule)
    (hosts : Hosts environment first (RuleKind.set rule).references node state) (rounds : Nat)
    {available : List (Nat × String)}
    (listed : ∀ item ∈ available, item.2 ∈ (RuleKind.set rule).references) (pending : Bool) :
    Conforms environment first law none node state []
      (setRounds consume rule node rounds available pending state) := by
  obtain ⟨-, separators, -, -⟩ := mem_references_set rule
  induction rounds generalizing available pending state with
  | zero => exact conforms_pure lawful hosts.toReady _
  | succ rounds inductionHypothesis =>
    rw [setRounds]
    refine .bind lawful hosts.toReady (conforms_firstMatch lawful serves hosts listed)
      fun matched next here => ?_
    have hosts := hosts.continues here
    cases matched with
    | none => exact conforms_pure lawful hosts.toReady _
    | some index =>
      have still_listed : ∀ item ∈ available.filter (·.1 != index),
          item.2 ∈ (RuleKind.set rule).references := fun item member =>
        listed item (List.mem_of_mem_filter member)
      cases found : rule.separator with
      | none => exact inductionHypothesis hosts still_listed false
      | some separator =>
        refine .bind lawful hosts.toReady (serves.hosted hosts (separators separator found))
          fun separated next here => ?_
        have hosts := hosts.continues here
        cases separated with
        | true => exact inductionHypothesis hosts still_listed true
        | false => exact conforms_pure lawful hosts.toReady _

theorem conforms_performSet (rule : SetRule)
    (hosts : Hosts environment first (RuleKind.set rule).references node state) :
    Conforms environment first law none node state [] (performSet consume rule node state) := by
  obtain ⟨items, -, opening, closing⟩ := mem_references_set rule
  unfold performSet
  refine .bind lawful hosts.toReady
    (conforms_consumeOptional lawful serves hosts rule.opening opening true)
    fun opened next here => ?_
  have hosts := hosts.continues here
  cases opened with
  | false => exact conforms_pure lawful hosts.toReady _
  | true =>
    have listed : ∀ item ∈ numbered rule.items, item.2 ∈ (RuleKind.set rule).references :=
      fun item member => items item.2 (List.of_mem_zip member).2
    refine .bind lawful hosts.toReady
      (conforms_setRounds lawful serves rule hosts _ listed false) fun pending next here => ?_
    have hosts := hosts.continues here
    cases pending with
    | true => exact conforms_pure lawful hosts.toReady _
    | false => exact conforms_consumeOptional lawful serves hosts rule.closing closing true

/-! ### Operators -/

theorem conforms_operatorRounds (rule : OperatorRule)
    (hosts : Hosts environment first (RuleKind.operator rule).references node state)
    (budget : Nat) :
    Conforms environment first law none node state []
      (operatorRounds consume rule node budget state) := by
  induction budget generalizing state with
  | zero => exact conforms_exhausted lawful hosts.toReady
  | succ budget inductionHypothesis =>
    rw [operatorRounds]
    refine .bind lawful hosts.toReady (serves.hosted hosts (by simp [RuleKind.references]))
      fun found next here => ?_
    have hosts := hosts.continues here
    cases found with
    | false => exact conforms_pure lawful hosts.toReady _
    | true =>
      refine .bind lawful hosts.toReady (serves.hosted hosts (by simp [RuleKind.references]))
        fun matched next here => ?_
      have hosts := hosts.continues here
      cases matched with
      | true => exact inductionHypothesis hosts
      | false => exact conforms_pure lawful hosts.toReady _

theorem conforms_performOperator (budget : Nat) (self : Rule) (rule : OperatorRule)
    (hosts : Hosts environment first (RuleKind.operator rule).references node state) :
    Conforms environment first law none node state []
      (performOperator consume budget self rule node state) := by
  unfold performOperator
  refine .read_bind ?_
  split
  · exact conforms_pure lawful hosts.toReady _
  · refine .bind lawful hosts.toReady (serves.hosted hosts (by simp [RuleKind.references]))
      fun matched next here => ?_
    have hosts := hosts.continues here
    cases matched with
    | false => exact conforms_pure lawful hosts.toReady _
    | true => exact conforms_operatorRounds lawful serves rule hosts budget

/-! ### Imports -/

omit serves in
/-- While another grammar is at work, a part of the parse comes back to the node; afterwards
the grammar is what it was. -/
theorem conforms_withGrammar (ready : Ready environment first node state)
    (isRule : (state.tree.node node).origin = .rule self) {target : ImportRule}
    (kind : self.kind = .imported target) {grammar : Grammar}
    (found : environment.registry.lookup? target.grammar = some grammar) {body : Step Bool}
    (conforms : Conforms environment first law none node { state with grammar } []
      (body { state with grammar })) :
    Conforms environment first law none node state []
      (Step.withGrammar grammar body state) where
  obeys := by
    have switched := lawful.switch ready isRule kind found conforms.obeys
    rw [← Outcome.ending_mapState, Outcome.trail_ending] at switched
    unfold Step.withGrammar
    rw [Step.moments_read_bind, Step.moments_change_bind, Step.moments_ensuring]
    exact switched
  continues value last done := by
    obtain ⟨next, ended, rfl⟩ := Outcome.mapState_eq_done.mp done
    have here := conforms.continues value next ended
    exact ⟨⟨⟨here.tree, ready.grammar, here.memoizing, here.memo⟩, here.isOpen⟩, rfl,
      here.tail_eq, here.height_eq, here.outline⟩

theorem conforms_performImport (faithful : environment.source.Faithful)
    (ready : Ready environment first node state)
    (isRule : (state.tree.node node).origin = .rule self) {target : ImportRule}
    (kind : self.kind = .imported target) :
    Conforms environment first law none node state []
      (performImport environment consume target node state) := by
  unfold performImport
  cases found : environment.registry.lookup? target.grammar with
  | none => exact conforms_abort lawful ready _
  | some grammar =>
    have inner : Ready environment first node { state with grammar } :=
      ⟨⟨ready.tree, .inr ⟨_, found⟩, ready.memoizing, ready.memo⟩, ready.isOpen⟩
    have hosts := hosts_of_rule inner isRule
    rw [kind] at hosts
    exact conforms_withGrammar lawful ready isRule kind found (.bind lawful inner
      (conforms_skipWhitespace lawful faithful inner) fun _ next here =>
        serves.hosted (hosts.continues here) (by simp [RuleKind.references]))

/-! ### Any rule -/

theorem conforms_perform (faithful : environment.source.Faithful) (budget : Nat)
    (ready : Ready environment first node state)
    (isRule : (state.tree.node node).origin = .rule rule) (notToken : rule.isToken = false) :
    Conforms environment first law none node state []
      (perform environment consume budget rule node state) := by
  have hosts := hosts_of_rule ready isRule
  unfold perform
  cases kind : rule.kind with
  | token token =>
    have isToken : rule.token? = some token := by rw [Rule.token?, kind]
    rw [Rule.isToken_of_token? isToken] at notToken
    cases notToken
  | sequence items =>
    rw [kind] at hosts
    exact conforms_performSequence lawful serves hosts 0 fun item member =>
      List.mem_map_of_mem member
  | choice choice =>
    rw [kind] at hosts
    exact conforms_performChoice lawful serves hosts 0 fun _ member => member
  | list list =>
    rw [kind] at hosts
    exact conforms_performList lawful serves budget rule.name list hosts
  | set set =>
    rw [kind] at hosts
    exact conforms_performSet lawful serves set hosts
  | operator operator =>
    rw [kind] at hosts
    exact conforms_performOperator lawful serves budget rule operator hosts
  | imported target =>
    exact conforms_performImport lawful serves faithful ready isRule kind

omit lawful serves in
/-- An operator that is being matched already fails at once. -/
theorem performOperator_of_repeating (consume : Consume) (budget : Nat) (self : Rule)
    (rule : OperatorRule)
    (repeating : isRepeating state.tree self (state.tree.lineage node).tail = true) :
    (performOperator consume budget self rule node state).outcome = .done false state ∧
      (performOperator consume budget self rule node state).trail.moments = [] := by
  unfold performOperator
  rw [Step.outcome_read_bind, Step.moments_read_bind, if_pos repeating]
  exact ⟨rfl, Trail.moments_empty⟩

omit lawful serves in
/-- When a rule fails at the node attached for it, the node is detached. -/
theorem attemptWith_of_failed {perform : Nat → Step Bool}
    (failed : (perform state.tree.size (state.attached parent rule)).outcome =
      .done false next) :
    (attemptWith rule parent perform state).outcome =
        .done false { next with tree := next.tree.discardLast parent } ∧
      (attemptWith rule parent perform state).trail.moments =
        ⟨.changed, state.attached parent rule⟩ ::
          ((perform state.tree.size (state.attached parent rule)).trail.moments ++
            [⟨.changed, { next with tree := next.tree.discardLast parent }⟩]) := by
  have rest := Step.bind_of_done (fun matched => do
    if !matched then Step.changeTree (·.discardLast parent)
    return matched) failed
  have discarded : ((do
      Step.changeTree (·.discardLast parent)
      return false : Step Bool) next).trail.moments =
        [⟨.changed, { next with tree := next.tree.discardLast parent }⟩] := by
    rw [Step.changeTree, Step.moments_change_bind]
    exact congrArg (_ :: ·) Trail.moments_empty
  constructor
  · exact rest.1
  · unfold attemptWith
    rw [Step.moments_read_bind, Step.changeTree, Step.moments_change_bind]
    exact congrArg (_ :: ·) (rest.2.trans (congrArg (_ ++ ·) discarded))

omit serves in
theorem conforms_refused (budget : Nat) (ready : Ready environment first parent state)
    {operator : OperatorRule} (kind : rule.kind = .operator operator)
    (repeating : isRepeating (state.attached parent rule).tree rule
      ((state.attached parent rule).tree.lineage state.tree.size).tail = true) :
    Conforms environment first law (some rule) parent state []
      (attemptWith rule parent (perform environment consume budget rule) state) := by
  have isOperator : rule.isOperator = true := by rw [Rule.isOperator, kind]
  have refused : (perform environment consume budget rule state.tree.size
        (state.attached parent rule)).outcome = .done false (state.attached parent rule) ∧
      (perform environment consume budget rule state.tree.size
        (state.attached parent rule)).trail.moments = [] := by
    unfold perform
    rw [kind]
    exact performOperator_of_repeating consume budget rule operator repeating
  have undone : { state.attached parent rule with
      tree := (state.attached parent rule).tree.discardLast parent } = state := by
    have restored : (state.attached parent rule).tree.discardLast parent = state.tree :=
      Tree.discardLast_attach ready.tree.rising ready.isOpen.inside (.rule rule)
    rw [restored]
    rfl
  obtain ⟨outcome_eq, moments_eq⟩ := attemptWith_of_failed refused.1
  rw [refused.2, undone] at moments_eq
  rw [undone] at outcome_eq
  constructor
  · rw [outcome_eq, moments_eq]
    exact lawful.refuse ready isOperator repeating
  · intro matched last done
    rw [outcome_eq] at done
    cases done
    exact .refl ready

/-- A rule that is no token works at a node of its own. -/
theorem conforms_attemptChild (faithful : environment.source.Faithful) (budget : Nat)
    (ready : Ready environment first parent state) (notToken : rule.isToken = false)
    (notRepeating : rule.isOperator = true → isRepeating (state.attached parent rule).tree rule
      ((state.attached parent rule).tree.lineage state.tree.size).tail = false) :
    Conforms environment first law (some rule) parent state []
      (attemptWith rule parent (perform environment consume budget rule) state) := by
  have attached := ready_attach ready (.rule rule)
  have new := Tree.node_attach_new ready.isOpen.inside (.rule rule)
  have isRule : ((state.attached parent rule).tree.node state.tree.size).origin = .rule rule := by
    show ((state.tree.attach parent (.rule rule)).node state.tree.size).origin = .rule rule
    rw [new]
  have performs := meets_perform faithful serves.reliable budget attached (by rw [new]) isRule
    (.inl trivial)
  have inner := conforms_perform lawful serves faithful budget attached isRule notToken
  have here := (working_attach (.refl ready) (.rule rule)).continues
  have works : Conforms environment first law (some rule) parent state
      [⟨.changed, state.attached parent rule⟩]
      (perform environment consume budget rule state.tree.size
        (state.attached parent rule)) := by
    refine ⟨lawful.child ready notToken notRepeating inner.obeys, fun matched next done => ?_⟩
    exact here.trans ((performs.returns matched next done).continues ready)
  unfold attemptWith
  refine .read_bind (.change_bind (.bind_of_done lawful ready works fun matched next done there =>
    ?_))
  cases matched with
  | true => exact conforms_pure lawful there.toReady _
  | false =>
    exact .bind lawful there.toReady (conforms_change lawful there.toReady
      (slight_discardLast ready (performs.returns false next done)))
      fun _ last beyond => conforms_pure lawful beyond.toReady _

theorem conforms_attempt (faithful : environment.source.Faithful) (budget : Nat)
    (ready : Ready environment first parent state) (rule : Rule) :
    Conforms environment first law (some rule) parent state []
      (attemptWith rule parent (perform environment consume budget rule) state) := by
  cases isToken : rule.token? with
  | some token =>
    rw [perform_of_token? isToken]
    exact conforms_attemptToken lawful faithful ready isToken
  | none =>
    have notToken : rule.isToken = false := by rw [Rule.isToken, isToken]; rfl
    by_cases repeating : isRepeating (state.attached parent rule).tree rule
        ((state.attached parent rule).tree.lineage state.tree.size).tail = true
    · cases kind : rule.kind with
      | operator operator => exact conforms_refused lawful budget ready kind repeating
      | _ =>
        refine conforms_attemptChild lawful serves faithful budget ready notToken fun absurd => ?_
        rw [Rule.isOperator, kind] at absurd
        cases absurd
    · exact conforms_attemptChild lawful serves faithful budget ready notToken
        fun _ => Bool.eq_false_iff.mpr repeating

end

end Rulebook.Parse
