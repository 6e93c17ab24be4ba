/-
This file shows that matching is free of context. If no grammar has operators, nothing is
remembered and no limit applies, then what comes of asking for a rule depends on the grammar,
the offset and the name of the rule, and a recognizer that knows nothing else tells it: whether
the rule matches, where the match ends, for what cause the parse fails, and whether there is an
end at all.

One kind of rule follows its recognizer if the operation with which it asks for other rules
does. So the operation itself follows, by induction on the work that is allowed.
-/

import Rulebook.Proofs.Grammar.References
import Rulebook.Proofs.Parse.Request
import Rulebook.Proofs.Parse.Restoration
import Rulebook.Proofs.Recognition.Allowance
import Rulebook.Proofs.Recognition.Following

namespace Rulebook.Parse

open Match (Tree)
open Recognition (Ask Verdict accept afterBlanks recognize)

variable {environment : Environment} {first grammar : Grammar} {consume : Consume}
  {ask : Grammar → Ask} {node parent offset : Nat} {state : State}

/-- A way of matching rules that can be relied on, and that follows a recognizer. -/
structure Mirrors (environment : Environment) (first : Grammar) (consume : Consume)
    (ask : Grammar → Ask) : Prop where
  reliable : Reliable environment first (fun _ => True) consume
  follows : ∀ node name state, Ready environment first node state →
    Outcome.Follows (Ends node) (consume node name state).outcome
      (ask state.grammar (state.tree.stop node) name)

/-- A request for a rule goes on where it lands. -/
theorem Mirrors.lands (mirrors : Mirrors environment first consume ask)
    (here : Situated environment first grammar node offset state) (name : String) :
    Outcome.Follows (Lands environment first grammar node offset)
      (consume node name state).outcome (ask grammar offset name) := by
  have follows := mirrors.follows node name state here.toReady
  rw [here.grammar_eq, here.stop_eq] at follows
  refine follows.imp fun matched after answer done ends => ?_
  exact here.answered ((mirrors.reliable node name state here.toReady).returns _ _ done) ends

theorem Lands.ends {matched : Bool} {after : State} {answer : Option Nat}
    (lands : Lands environment first grammar node offset matched after answer) :
    Ends node matched after answer := by
  cases lands with
  | matched here => exact congrArg some here.stop_eq.symm
  | unmatched here => rfl

theorem follows_consumeOptional (mirrors : Mirrors environment first consume ask)
    (here : Situated environment first grammar node offset state) (rule : Option String)
    (otherwise : Bool) :
    Outcome.Follows (Lands environment first grammar node offset)
      (consumeOptional consume node rule otherwise state).outcome
      (Recognition.optional (ask grammar) rule otherwise offset) := by
  cases rule with
  | none => exact .gives (here.lands otherwise)
  | some name => exact mirrors.lands here name

/-- The last request decides. -/
theorem follows_optional_ends (mirrors : Mirrors environment first consume ask)
    (here : Situated environment first grammar node offset state) (rule : Option String)
    (otherwise : Bool) :
    Outcome.Follows (Ends node) (consumeOptional consume node rule otherwise state).outcome
      (Recognition.optional (ask grammar) rule otherwise offset) :=
  (follows_consumeOptional mirrors here rule otherwise).imp fun _ _ _ _ lands => lands.ends

/-! ### Tokens, sequences and choices -/

theorem follows_performToken (here : Situated environment first grammar node offset state)
    (token : TokenRule) :
    Outcome.Follows (Ends node) (performToken environment token node state).outcome
      (.gives ((token.matchAt? environment.source offset).map (offset + ·))) := by
  rw [outcome_performToken, here.stop_eq]
  cases token.matchAt? environment.source offset with
  | none => exact .gives rfl
  | some length =>
    refine .gives (congrArg some ?_)
    dsimp only
    rw [Tree.stop_matchToken here.tree.rising here.isOpen.inside,
      if_pos (Tree.mem_lineage_self _ _), here.stop_eq]

theorem follows_performSequence (mirrors : Mirrors environment first consume ask)
    (here : Situated environment first grammar node offset state) (index : Nat)
    (items : List SequenceItem) :
    Outcome.Follows (Ends node) (performSequence environment consume node index items
      state).outcome (Recognition.sequence (ask grammar) items offset) := by
  induction items generalizing index state offset with
  | nil => exact .gives (here.ends true)
  | cons item rest inductionHypothesis =>
    rw [performSequence, Recognition.sequence]
    refine .after (here.setAlternative index) fun _ here => ?_
    refine (mirrors.lands here item.rule).bind fun matched _ answer lands => ?_
    cases lands with
    | matched here => exact inductionHypothesis here (index + 1)
    | unmatched here =>
      cases item.required with
      | true => exact .gives rfl
      | false =>
        exact .after (here.leaveOut item.rule) fun _ here => inductionHypothesis here (index + 1)

theorem follows_performChoice (mirrors : Mirrors environment first consume ask)
    (here : Situated environment first grammar node offset state) (index : Nat)
    (alternatives : List String) :
    Outcome.Follows (Ends node) (performChoice consume node index alternatives state).outcome
      (Recognition.choice (ask grammar) offset alternatives) := by
  induction alternatives generalizing index state with
  | nil => exact .gives rfl
  | cons alternative rest inductionHypothesis =>
    rw [performChoice, Recognition.choice]
    refine .after (here.setAlternative index) fun _ here => ?_
    refine (mirrors.lands here alternative).bind fun matched _ answer lands => ?_
    cases lands with
    | matched here => exact .gives (here.ends true)
    | unmatched here => exact inductionHypothesis here (index + 1)

/-! ### Lists -/

theorem follows_listRounds (mirrors : Mirrors environment first consume ask)
    (here : Situated environment first grammar node offset state) (name : String)
    (rule : ListRule) (budget round : Nat) (last : Option Nat) :
    Outcome.Follows (Ends node)
      (listRounds environment consume name rule node budget round last state).outcome
      (Recognition.listRounds (ask grammar) name rule budget last offset) := by
  induction budget generalizing round last state offset with
  | zero => exact .exhausted
  | succ budget inductionHypothesis =>
    rw [listRounds, Recognition.listRounds]
    refine (follows_consumeOptional mirrors here rule.separator true).bind
      fun separated next answer lands => ?_
    cases lands with
    | unmatched here => exact follows_optional_ends mirrors here rule.closing true
    | @matched start _ here =>
      refine .read_bind ?_
      simp only [here.stop_eq]
      split
      · exact .aborts _ _
      · refine .after (here.setAlternative (round + 1)) fun _ here => ?_
        refine (follows_consumeOptional mirrors here rule.closing false).bind
          fun closed _ answer lands => ?_
        cases lands with
        | matched here => exact .gives (here.ends _)
        | unmatched here =>
          refine (mirrors.lands here rule.item).bind fun matched _ answer lands => ?_
          cases lands with
          | matched here => exact inductionHypothesis here (round + 1) (some start)
          | unmatched here => exact .gives (here.ends _)

theorem follows_performList (mirrors : Mirrors environment first consume ask)
    (here : Situated environment first grammar node offset state) (budget : Nat)
    (name : String) (rule : ListRule) :
    Outcome.Follows (Ends node)
      (performList environment consume budget name rule node state).outcome
      (Recognition.list (ask grammar) budget name rule offset) := by
  unfold performList Recognition.list
  refine (follows_consumeOptional mirrors here rule.opening true).bind
    fun opened _ answer lands => ?_
  cases lands with
  | unmatched here => exact .gives rfl
  | matched here =>
    refine (follows_consumeOptional mirrors here rule.closing false).bind
      fun closed _ answer lands => ?_
    cases lands with
    | matched here => exact .gives (here.ends _)
    | unmatched here =>
      refine (mirrors.lands here rule.item).bind fun matched _ answer lands => ?_
      cases lands with
      | unmatched here => exact .gives (here.ends _)
      | matched here => exact follows_listRounds mirrors here name rule budget 0 none

/-! ### Sets -/

/-- Once an item is found, the others are left. -/
theorem filter_others {passed rest : List (Nat × String)} {index : Nat} {item : String}
    (distinct : ((passed ++ (index, item) :: rest).map Prod.fst).Nodup) :
    (passed ++ (index, item) :: rest).filter (·.1 != index) = passed ++ rest := by
  rw [List.map_append, List.map_cons, List.nodup_middle, List.nodup_cons,
    ← List.map_append] at distinct
  have other : ∀ pair ∈ passed ++ rest, (pair.1 != index) = true := by
    intro pair member
    refine bne_iff_ne.mpr fun same => distinct.1 ?_
    rw [← same]
    exact List.mem_map.mpr ⟨pair, member, rfl⟩
  rw [List.filter_append, List.filter_cons_of_neg (by simp), ← List.filter_append,
    List.filter_eq_self.mpr other]

/-- An item was picked from those that were available, or none of them matched. -/
inductive Picks (environment : Environment) (first grammar : Grammar) (node offset : Nat)
    (available : List (Nat × String)) :
    Option Nat → State → Option (Nat × List String) → Prop where
  | picked {index stop : Nat} {after : State}
    (here : Situated environment first grammar node stop after) :
    Picks environment first grammar node offset available (some index) after
      (some (stop, (available.filter (·.1 != index)).map Prod.snd))
  | nothing {after : State} (here : Situated environment first grammar node offset after) :
    Picks environment first grammar node offset available none after none

theorem follows_firstMatch (mirrors : Mirrors environment first consume ask)
    (here : Situated environment first grammar node offset state)
    (passed items : List (Nat × String))
    (distinct : ((passed ++ items).map Prod.fst).Nodup) :
    Outcome.Follows (Picks environment first grammar node offset (passed ++ items))
      (firstMatch consume node items state).outcome
      (Recognition.pick (ask grammar) offset (passed.map Prod.snd) (items.map Prod.snd)) := by
  induction items generalizing passed state with
  | nil => exact .gives (.nothing here)
  | cons item rest inductionHypothesis =>
    obtain ⟨index, item⟩ := item
    rw [firstMatch, List.map_cons, Recognition.pick]
    refine .after (here.setAlternative index) fun _ here => ?_
    refine (mirrors.lands here item).bind fun matched _ answer lands => ?_
    cases lands with
    | @matched stop _ here =>
      have picked : Picks environment first grammar node offset (passed ++ (index, item) :: rest)
          (some index) _ (some (stop, _)) := .picked here
      rw [filter_others distinct, List.map_append] at picked
      exact .gives picked
    | unmatched here =>
      have moved : passed ++ (index, item) :: rest = (passed ++ [(index, item)]) ++ rest := by
        rw [List.append_assoc, List.singleton_append]
      have follows := inductionHypothesis here (passed ++ [(index, item)])
        (by rw [← moved]; exact distinct)
      rw [← moved, List.map_append] at follows
      exact follows

/-- Rounds of a set end at an offset, and a separator stands last or does not. -/
structure Pends (environment : Environment) (first grammar : Grammar) (node : Nat)
    (pending : Bool) (after : State) (answer : Nat × Bool) : Prop extends
    Situated environment first grammar node answer.1 after where
  pending_eq : answer.2 = pending

theorem follows_setRounds (mirrors : Mirrors environment first consume ask)
    (here : Situated environment first grammar node offset state) (rule : SetRule)
    (rounds : Nat) (available : List (Nat × String)) (pending : Bool)
    (distinct : (available.map Prod.fst).Nodup) :
    Outcome.Follows (Pends environment first grammar node)
      (setRounds consume rule node rounds available pending state).outcome
      (Recognition.setRounds (ask grammar) rule rounds (available.map Prod.snd) pending
        offset) := by
  induction rounds generalizing available pending state offset with
  | zero => exact .gives ⟨here, rfl⟩
  | succ rounds inductionHypothesis =>
    rw [setRounds, Recognition.setRounds]
    refine (follows_firstMatch mirrors here [] available distinct).bind
      fun found _ answer picks => ?_
    cases picks with
    | nothing here => exact .gives ⟨here, rfl⟩
    | @picked index stop _ here =>
      have fewer : ((available.filter (·.1 != index)).map Prod.fst).Nodup :=
        distinct.sublist (List.filter_sublist.map _)
      cases rule.separator with
      | none => exact inductionHypothesis here _ false fewer
      | some separator =>
        refine (mirrors.lands here separator).bind fun separated _ answer lands => ?_
        cases lands with
        | matched here => exact inductionHypothesis here _ true fewer
        | unmatched here => exact .gives ⟨here, rfl⟩

theorem map_fst_numbered (items : List String) :
    (numbered items).map Prod.fst = List.range items.length :=
  List.map_fst_zip (by rw [List.length_range])

theorem map_snd_numbered (items : List String) : (numbered items).map Prod.snd = items :=
  List.map_snd_zip (by rw [List.length_range])

theorem follows_performSet (mirrors : Mirrors environment first consume ask)
    (here : Situated environment first grammar node offset state) (rule : SetRule) :
    Outcome.Follows (Ends node) (performSet consume rule node state).outcome
      (Recognition.set (ask grammar) rule offset) := by
  unfold performSet Recognition.set
  refine (follows_consumeOptional mirrors here rule.opening true).bind
    fun opened _ answer lands => ?_
  cases lands with
  | unmatched here => exact .gives rfl
  | matched here =>
    have rounds := follows_setRounds mirrors here rule rule.items.length (numbered rule.items)
      false (by rw [map_fst_numbered]; exact List.nodup_range)
    rw [map_snd_numbered] at rounds
    refine rounds.bind fun pending _ answer pends => ?_
    obtain ⟨stop, separated⟩ := answer
    obtain ⟨here, rfl⟩ := pends
    cases separated with
    | true => exact .gives rfl
    | false => exact follows_optional_ends mirrors here rule.closing true

/-! ### Imports -/

/-- The whitespace of the other grammar is skipped first, and then its rule is asked for. -/
theorem follows_performImport (mirrors : Mirrors environment first consume ask)
    (faithful : environment.source.Faithful) (forgetful : Forgetful environment)
    (here : Situated environment first grammar node offset state) (rule : ImportRule)
    {other : Grammar} (found : environment.registry.lookup? rule.grammar = some other) :
    Outcome.Follows (Ends node) (performImport environment consume rule node state).outcome
      (ask other (afterBlanks environment.source other offset) rule.rule) := by
  have inner : Situated environment first other node offset { state with grammar := other } :=
    ⟨⟨⟨here.tree, .inr ⟨rule.grammar, found⟩, here.memoizing, here.memo⟩, here.isOpen⟩, rfl,
      here.stop_eq⟩
  have follows : Outcome.Follows (Ends node)
      ((do skipWhitespace environment node; consume node rule.rule : Step Bool)
        { state with grammar := other }).outcome
      (ask other (afterBlanks environment.source other offset) rule.rule) :=
    .after (inner.skipWhitespace faithful forgetful) fun _ there =>
      (mirrors.lands there rule.rule).imp fun _ _ _ _ lands => lands.ends
  unfold performImport
  rw [found]
  exact follows.mapState fun _ _ _ ends => ends

/-! ### Any rule -/

/-- Where matching is free of context: nothing is remembered, no limit applies, and no grammar
has operators. -/
structure ContextFree (environment : Environment) (first : Grammar) : Prop where
  forgetful : Forgetful environment
  unlimited : ∀ grammar, Active environment first grammar →
    (grammar.depthLimit <|> environment.options.maxDepth) = none
  plain : ∀ grammar, Active environment first grammar → ∀ rule ∈ grammar.rules,
    rule.isOperator = false

theorem ContextFree.exceededLimit?_eq_none (free : ContextFree environment first)
    (active : Active environment first state.grammar) :
    exceededLimit? environment state = none := by
  rw [exceededLimit?, free.unlimited state.grammar active]

theorem follows_perform (mirrors : Mirrors environment first consume ask)
    (faithful : environment.source.Faithful) (forgetful : Forgetful environment) {rule : Rule}
    (plain : rule.isOperator = false) (budget : Nat)
    (here : Situated environment first grammar node offset state) :
    Outcome.Follows (Ends node) (perform environment consume budget rule node state).outcome
      (Recognition.body environment.source environment.registry ask budget grammar offset
        rule) := by
  unfold perform Recognition.body
  cases kind : rule.kind with
  | token token => exact follows_performToken here token
  | sequence items => exact follows_performSequence mirrors here 0 items
  | choice choice => exact follows_performChoice mirrors here 0 choice.alternatives
  | list list => exact follows_performList mirrors here budget rule.name list
  | set set => exact follows_performSet mirrors here set
  | operator operator =>
    rw [Rule.isOperator, kind] at plain
    cases plain
  | imported target =>
    dsimp only
    cases found : environment.registry.lookup? target.grammar with
    | none =>
      rw [performImport, found]
      exact .aborts _ _
    | some other => exact follows_performImport mirrors faithful forgetful here target found

/-- A rule that is tried ends its parent where it ends itself. -/
theorem follows_attemptWith (ready : Ready environment first parent state) {rule : Rule}
    {perform : Nat → Step Bool} {verdict : Verdict (Option Nat)}
    (performs : (perform state.tree.size
        { state with tree := state.tree.attach parent (.rule rule) }).Meets
      (Proper environment first) True fun _ after => Worked environment first state.tree.size
        { state with tree := state.tree.attach parent (.rule rule) } after)
    (follows : Outcome.Follows (Ends state.tree.size) (perform state.tree.size
      { state with tree := state.tree.attach parent (.rule rule) }).outcome verdict) :
    Outcome.Follows (Ends parent) (attemptWith rule parent perform state).outcome verdict := by
  have follows := follows.imp fun matched after answer done ends =>
    And.intro (performs.returns matched after done) ends
  unfold attemptWith
  rw [Step.outcome_read_bind, Step.changeTree, Step.outcome_change_bind]
  refine follows.conclude fun matched after answer ended => ?_
  obtain ⟨worked, ends⟩ := ended
  rw [ends]
  cases matched with
  | false => exact ⟨false, _, rfl, rfl⟩
  | true =>
    refine ⟨true, after, rfl, ?_⟩
    rw [Ends, worked.grown.stop_parent ready.tree.rising ready.isOpen.inside]

/-- Whatever happened at the node that was attached for a rule, it is forgotten if the rule did
not match. -/
theorem follows_attempt (mirrors : Mirrors environment first consume ask)
    (faithful : environment.source.Faithful) (forgetful : Forgetful environment) {rule : Rule}
    (plain : rule.isOperator = false) (budget : Nat)
    (here : Situated environment first grammar parent offset state) :
    Outcome.Follows (Lands environment first grammar parent offset)
      (attemptWith rule parent (perform environment consume budget rule) state).outcome
      (Recognition.body environment.source environment.registry ask budget grammar offset
        rule) := by
  have new := Tree.node_attach_new here.isOpen.inside (.rule rule)
  have attached : Situated environment first grammar state.tree.size offset
      { state with tree := state.tree.attach parent (.rule rule) } :=
    ⟨ready_attach here.toReady (.rule rule), here.grammar_eq,
      (Tree.stop_attach_new here.isOpen.inside).trans here.stop_eq⟩
  have performs := meets_perform faithful mirrors.reliable budget attached.toReady (by rw [new])
    (by rw [new]) (.inl trivial)
  have follows := follows_attemptWith here.toReady performs
    (follows_perform mirrors faithful forgetful plain budget attached)
  refine follows.imp fun matched after answer done ends => ?_
  have attempted := (meets_attemptWith here.toReady performs).returns matched after done
  rw [ends]
  cases matched with
  | false => exact .unmatched (here.still ⟨attempted.toKept, attempted.restored rfl⟩)
  | true => exact .matched (here.working (attempted.working here.toReady).1 rfl)

/-! ### The operation itself -/

theorem follows_pursue (free : ContextFree environment first)
    (faithful : environment.source.Faithful)
    (mirrors : Mirrors environment first consume ask) {rule : Rule}
    (here : Situated environment first grammar parent offset state)
    (plain : rule.isOperator = false) (budget start : Nat) (name : String) :
    Outcome.Follows (Ends parent) (pursue environment (fun rule parent =>
        attemptWith rule parent (perform environment consume budget rule)) parent name start rule
          state).outcome
      (do
        let answer ← Recognition.body environment.source environment.registry ask budget grammar
          offset rule
        return answer.map (afterBlanks environment.source grammar)) := by
  unfold pursue
  refine .read_bind ?_
  rw [free.exceededLimit?_eq_none here.grammar]
  refine .after (here.traceAttempt start _) fun next here => ?_
  have attempted := follows_attempt mirrors faithful free.forgetful plain budget here
  rw [← outcome_attemptMemoized_of_forgetful free.forgetful here.toReady rule] at attempted
  refine attempted.bind fun matched _ answer lands => ?_
  cases lands with
  | unmatched here => exact .after (here.count _) fun _ _ => .gives rfl
  | matched here =>
    refine .after (here.skipWhitespace faithful free.forgetful) fun _ here => ?_
    refine .after (here.count _) fun _ here => ?_
    exact .after (here.traceAttempt start _) fun _ here => .gives (here.ends true)

/-- However much work is allowed, a parse goes as the recognizer tells. -/
theorem mirrors_consume (free : ContextFree environment first)
    (faithful : environment.source.Faithful) (fuel : Nat) :
    Mirrors environment first (Parse.consume environment fuel)
      (recognize environment.source environment.registry fuel) := by
  refine ⟨reliable_consume faithful (excuses_always environment first) fuel, ?_⟩
  induction fuel with
  | zero => exact fun _ _ _ _ => .exhausted
  | succ fuel inductionHypothesis =>
    intro node name state ready
    have mirrors : Mirrors environment first (Parse.consume environment fuel)
        (recognize environment.source environment.registry fuel) :=
      ⟨reliable_consume faithful (excuses_always environment first) fuel, inductionHypothesis⟩
    rw [(consume_succ environment fuel node name state).1, recognize]
    cases found : state.grammar.rule? name with
    | none =>
      rw [(invoke_of_absent environment _ node found).1]
      exact .aborts _ _
    | some rule =>
      rw [(invoke_of_found environment _ node found).1]
      have plain := free.plain state.grammar ready.grammar rule (Grammar.mem_rules_of_rule? found)
      have entered := (ready.entered name rule).situated
      exact (follows_pursue free faithful mirrors entered plain fuel
        (state.tree.stop node) name).mapState fun _ _ _ ends => ends

/-! ### Agreement -/

/-- What a recognizer may know of an outcome. -/
def Outcome.verdict (outcome : Outcome Bool) (node : Nat) : Verdict (Option Nat) :=
  match outcome with
  | .done matched after => .gives (accept matched (after.tree.stop node))
  | .aborted error _ => .aborts error.cause
  | .exhausted => .exhausted

theorem Outcome.Follows.verdict_eq {outcome : Outcome Bool} {verdict : Verdict (Option Nat)}
    (follows : Outcome.Follows (Ends node) outcome verdict) : outcome.verdict node = verdict := by
  cases follows with
  | gives ends => exact congrArg Verdict.gives ends.symm
  | aborts error after => rfl
  | exhausted => rfl

theorem Outcome.verdict_eq_exhausted {outcome : Outcome Bool} :
    outcome.verdict node = .exhausted ↔ outcome = .exhausted := by
  cases outcome <;> simp [verdict]

/-- In every state that a parse reaches, what comes of a request for a rule at an open node is
what the recognizer tells of the grammar, the offset at which the node ends and the name of the
rule: a match and its end, no match, or the cause of a failure. Without a match the node ends
where it did. There is no end to a request if and only if there is none to the question; and if
there is one, it is the same however much more work is allowed. -/
theorem consume_eq_recognize (input : String) (registry : Registry)
    (options : ParseOptions) (tracing : Bool) (first : Grammar) (start : String) :
    let environment := Environment.ofText input registry options tracing
    ContextFree environment first →
    ∀ state parent, Reachable environment first start state → state.tree.Open parent →
      ∀ name,
        let outcome := fun fuel => (Parse.consume environment fuel parent name state).outcome
        let verdict := fun fuel => recognize environment.source registry fuel state.grammar
          (state.tree.stop parent) name
        (∀ fuel, (outcome fuel).verdict parent = verdict fuel ∧
          ∀ after, outcome fuel = .done false after →
            after.tree.stop parent = state.tree.stop parent) ∧
        ((∀ fuel, outcome fuel = .exhausted) ↔ ∀ fuel, verdict fuel = .exhausted) ∧
        ∀ fuel more, fuel ≤ more → outcome fuel ≠ .exhausted → verdict more = verdict fuel := by
  intro environment free state parent reached isOpen name outcome verdict
  have faithful := Environment.faithful_ofText input registry options tracing
  have ready : Ready environment first parent state := ⟨reached.sound faithful, isOpen⟩
  have agree : ∀ fuel, (outcome fuel).verdict parent = verdict fuel := fun fuel =>
    ((mirrors_consume free faithful fuel).follows parent name state ready).verdict_eq
  have ends_iff : ∀ fuel, outcome fuel = .exhausted ↔ verdict fuel = .exhausted := by
    intro fuel
    rw [← agree fuel, Outcome.verdict_eq_exhausted]
  refine ⟨fun fuel => ⟨agree fuel, fun after failed => ?_⟩, forall_congr' ends_iff,
    fun fuel more le ended => ?_⟩
  · exact congrArg (·.stop parent) (tree_eq_of_consume faithful ready failed)
  · exact Recognition.recognize_eq_of_le le fun none => ended ((ends_iff fuel).mpr none)

/-- Two letters, the second of which may be missing, with blanks after them. -/
def letters : Grammar :=
  .ofCalls Workspace.compile "g" [.token "blank" " " true, .token "x" "x" false,
    .token "y" "y" false, .sequence "letters" [{ rule := "x" }, { rule := "y", required := false }]]

/-- The first letter is recognized together with the blank after it. -/
theorem letters_are_recognized :
    ContextFree (Environment.ofText "x x" {} {} false) letters ∧
    (Parse.consume (Environment.ofText "x x" {} {} false) 3 Tree.root "letters"
      (State.initial letters {})).outcome.verdict Tree.root = .gives (some 2) := by
  have free : ContextFree (Environment.ofText "x x" {} {} false) letters := by
    have active : ∀ grammar, Active (Environment.ofText "x x" {} {} false) letters grammar →
        grammar = letters := by
      rintro grammar (same | ⟨name, found⟩)
      · exact same
      · cases found
    refine ⟨rfl, fun grammar isActive => ?_, fun grammar isActive => ?_⟩
    · rw [active grammar isActive]
      rfl
    · rw [active grammar isActive]
      decide
  have general := consume_eq_recognize "x x" {} {} false letters "letters" free _ _ (.inl rfl)
    Tree.open_new "letters"
  have recognized : recognize (Source.ofString "x x") {} 3 letters 0 "letters" =
      .gives (some 2) := by decide +kernel
  exact ⟨free, (general.1 3).1.trans recognized⟩

end Rulebook.Parse
