/-
This file says how a parse skips whitespace. Nothing but skipped tokens is added to the tree, and
where whitespace ends, no whitespace token of the active grammar takes anything more. If tokens are
remembered, then this is so as far as the memo does not mistake one token for another that goes by
the same names.

In a parse without imports only one grammar is ever active, and a grammar has no two rules of one
name. So no memo can mistake its tokens, and whoever asks for a rule asks where no whitespace is
left: a rule is asked for behind whitespace that was skipped, or where an earlier request was made
that did not match.
-/

import Rulebook.Proofs.Parse.Keeping
import Rulebook.Proofs.Parse.Lexing
import Rulebook.Proofs.Pattern.Lexeme
import Rulebook.Proofs.Recognition.Blanks
import Rulebook.Workspace

namespace Rulebook

open Match (Tree)
open Recognition (Barren IsBlank)

/-! ### What is added to the tree -/

/-- What is new after whitespace was skipped are skipped tokens. -/
theorem Match.Tree.Trailed.blank_of_new {chars : List Char} {before after : Tree} {node id : Nat}
    (trailed : Tree.Trailed node before after) (intact : before.Intact chars)
    (grown : Tree.Grown node before after) (intact' : after.Intact chars)
    (new : before.size ≤ id) (inside : id < after.size) : after.Blank id := by
  obtain ⟨parent, listed⟩ := intact'.listed inside (by
    have := grown.inside
    rw [Tree.root]
    omega)
  obtain ⟨blanks, children_eq, blank⟩ := trailed
  by_cases same : parent = node
  · rw [same, children_eq] at listed
    rcases Array.mem_append.mp listed with old | late
    · exact absurd (intact.ordered node id old).1 (Nat.not_lt_of_le new)
    · exact blank id late
  · by_cases old : parent < before.size
    · rw [(grown.children_eq old same).1] at listed
      exact absurd (intact.ordered parent id listed).1 (Nat.not_lt_of_le new)
    · -- A skipped token has no children.
      have within := Nat.lt_trans (intact'.lt_of_child listed) inside
      have terminal := Tree.Trailed.terminal_of_new ⟨blanks, children_eq, blank⟩ intact grown
        intact' (Nat.le_of_not_lt old) within
      rw [(intact'.terminal parent terminal).1] at listed
      exact absurd listed (Array.not_mem_empty id)

namespace Parse

variable {Value : Type} {environment : Environment} {first : Grammar} {state after : State}
  {rule : Rule} {node parent fuel : Nat} {name : String}

/-- Where whitespace was skipped that the grammar does not disable, it is made of blanks, and no
whitespace token takes anything more. -/
theorem barren_of_skipWhitespace (faithful : environment.source.Faithful)
    (ready : Ready environment first parent state)
    (unmistaken : ∀ rule ∈ state.grammar.whitespaceTokens, Unmistaken environment first rule)
    (enabled : state.grammar.whitespaceDisabled = false)
    (done : (skipWhitespace environment parent state).outcome = .done () after) :
    Relation.ReflTransGen (IsBlank environment.source state.grammar.whitespaceTokens)
        (state.tree.stop parent) (after.tree.stop parent) ∧
      Barren environment.source state.grammar.whitespaceTokens (after.tree.stop parent) := by
  obtain ⟨_, done', ends⟩ := skipWhitespace_done faithful ready
  cases done.symm.trans done'
  have stop_eq := ends unmistaken
  have boundary := (ready.tree.spans parent ready.isOpen.inside).2.1
  rw [stop_eq, Recognition.afterBlanks, if_neg (by rw [enabled]; exact Bool.false_ne_true)]
  exact ⟨Recognition.blanksWithin_reaches _ _ _ _,
    Recognition.barren_blanksWithin faithful boundary
      (Nat.lt_of_lt_of_le (Nat.lt_succ_self _) (Nat.le_add_left _ _))⟩

/-! ### Parses without imports -/

/-- What the parse of a grammar without imports depends on: not on what is published. -/
def Environment.secluded (environment : Environment) : Environment :=
  { environment with registry := {} }

theorem active_secluded {grammar : Grammar} (active : Active environment.secluded first grammar) :
    grammar = first := by
  rcases active with same | ⟨name, found⟩
  · exact same
  · cases found

/-- A grammar has no two tokens of the same names. -/
theorem unmistaken_secluded (environment : Environment) (first : Grammar) (rule : Rule) :
    Unmistaken environment.secluded first rule := by
  intro _ token token' goesBy goesBy' offset
  obtain ⟨rule, ⟨grammar, name, active, found⟩, -, rule_name, isToken⟩ := goesBy
  obtain ⟨rule', ⟨grammar', name', active', found'⟩, -, rule_name', isToken'⟩ := goesBy'
  obtain rfl := active_secluded active
  obtain rfl := active_secluded active'
  rw [← Grammar.rule?_name found, rule_name, ← rule_name', Grammar.rule?_name found',
    found'] at found
  cases found
  rw [Option.some.inj (isToken.symm.trans isToken')]

/-- To skip whitespace is the same with and without anything published. -/
theorem skipWhitespace_secluded (environment : Environment) (parent : Nat) :
    skipWhitespace environment.secluded parent = skipWhitespace environment parent := by
  have one : ∀ tokens, skipOne environment.secluded parent tokens =
      skipOne environment parent tokens := by
    intro tokens
    induction tokens with
    | nil => rfl
    | cons rule rest inductionHypothesis =>
      rw [skipOne, skipOne, inductionHypothesis]
      rfl
  have all : ∀ tokens rounds, skipAll environment.secluded parent tokens rounds =
      skipAll environment parent tokens rounds := by
    intro tokens rounds
    induction rounds with
    | zero => rfl
    | succ rounds inductionHypothesis => rw [skipAll, skipAll, one, inductionHypothesis]
  unfold skipWhitespace
  simp only [all]
  rfl

/-- A rule is asked for at an offset at which no token of some list takes anything. Only these
tokens may be tried elsewhere. -/
structure Timely (source : Source) (tokens : List Rule) (moment : Moment) : Prop where
  asked : ∀ parent name, moment.happening = .asked parent name →
    Barren source tokens (moment.state.tree.stop parent)
  tried : ∀ parent rule, moment.happening = .tried parent rule → rule ∈ tokens ∨
    Barren source tokens (moment.state.tree.stop parent)

/-- Something may be matched as the next child of a node, with the grammar of the parse. All that is
remembered is what its own tokens do. -/
structure Alone (environment : Environment) (first : Grammar) (node : Nat) (state : State) :
    Prop extends Ready environment first node state where
  grammar_eq : state.grammar = first
  informed : state.Informed environment.secluded first

/-- And no whitespace is left there to be skipped. -/
structure Poised (environment : Environment) (first : Grammar) (node : Nat) (state : State) :
    Prop extends Alone environment first node state where
  barren : Barren environment.source first.whitespaceTokens (state.tree.stop node)

section

variable {source : Source} {tokens : List Rule}

theorem timely_changed (state : State) : Timely source tokens ⟨.changed, state⟩ :=
  ⟨nofun, nofun⟩

theorem timely_tried (timely : rule ∈ tokens ∨ Barren source tokens (state.tree.stop parent)) :
    Timely source tokens ⟨.tried parent rule, state⟩ where
  asked := nofun
  tried _ _ same := by
    cases same
    exact timely

/-! ### Steps that ask for no rule -/

theorem meets_attemptMemoized_token {attempt : Step Bool}
    (timely : rule ∈ tokens ∨ Barren source tokens (state.tree.stop parent))
    (confined : Confined (Timely source tokens) attempt) :
    (attemptMemoized rule parent attempt state).Meets (Timely source tokens) True
      fun _ _ => True := by
  refine meets_note_bind (timely_tried timely) (meets_read_bind ?_)
  split
  · exact confined_attemptRemembering timely_changed rule parent confined state
  · exact confined state

theorem confined_skipOne (environment : Environment) (parent : Nat) {blanks : List Rule}
    (among : ∀ rule ∈ blanks, rule ∈ tokens) :
    Confined (Timely source tokens) (skipOne environment parent blanks) := by
  induction blanks with
  | nil => exact confined_pure false
  | cons rule rest inductionHypothesis =>
    have attempts : Confined (Timely source tokens) (attemptBlank environment parent rule) := by
      unfold attemptBlank
      cases rule.token? with
      | none => exact confined_pure false
      | some token =>
        exact fun _ => meets_attemptMemoized_token (.inl (among rule List.mem_cons_self))
          (confined_attemptToken timely_changed rule parent token)
    have goOn := inductionHypothesis fun other member => among other (List.mem_cons_of_mem _ member)
    refine (confined_read _).bind fun before => attempts.bind fun matched => ?_
    cases matched with
    | false => exact goOn
    | true =>
      refine (confined_read _).bind fun after => ?_
      split
      · exact (confined_change timely_changed _).bind fun _ => confined_pure true
      · exact (confined_change timely_changed _).bind fun _ => goOn

/-- Nothing but whitespace tokens is tried where whitespace is skipped. -/
theorem passes_skipWhitespace (environment : Environment) (source : Source) (parent : Nat)
    (state : State) : ∀ moment ∈ (skipWhitespace environment parent state).trail.moments,
      Timely source state.grammar.whitespaceTokens moment := by
  have skips : ∀ rounds, Confined (Timely source state.grammar.whitespaceTokens)
      (skipAll environment parent state.grammar.whitespaceTokens rounds) := by
    intro rounds
    induction rounds with
    | zero => exact fun _ => meets_exhausted trivial
    | succ rounds inductionHypothesis =>
      refine (confined_skipOne environment parent fun _ member => member).bind fun skipped => ?_
      cases skipped with
      | true => exact inductionHypothesis
      | false => exact confined_pure ()
  have met : (skipWhitespace environment parent state).Meets
      (Timely source state.grammar.whitespaceTokens) True fun _ _ => True := by
    refine meets_read_bind ?_
    cases state.grammar.whitespaceDisabled with
    | true => exact meets_pure trivial
    | false => exact skips _ state
  exact met.passes

theorem confined_traceAttempt (environment : Environment) (offset : Nat)
    (event : Position → Nat → Log.Event) :
    Confined (Timely source tokens) (traceAttempt environment offset event) := by
  unfold traceAttempt
  cases environment.tracing with
  | false => exact confined_pure ()
  | true => exact (confined_read _).bind fun _ => confined_change timely_changed _

end

/-! ### The way from one request to the next -/

namespace Alone

/-- Seen from a grammar without imports, nothing else is published. -/
theorem secluded (alone : Alone environment first node state) :
    Ready environment.secluded first node state where
  tree := alone.tree
  grammar := .inl alone.grammar_eq
  memoizing := alone.memoizing
  memo memo present key outcome found :=
    alone.informed key outcome (by rw [State.recollection, present]; exact found)
  isOpen := alone.isOpen

theorem of_same (alone : Alone environment first node state) (same : SameBut state after) :
    Alone environment first node after where
  toReady := same.ready alone.toReady
  grammar_eq := same.grammar_eq.trans alone.grammar_eq
  informed key outcome found := by
    rw [State.recollection, same.memo_eq] at found
    exact alone.informed key outcome found

theorem known (alone : Alone environment first node state)
    (found : first.rule? name = some rule) :
    Known environment first rule ∧ Known environment.secluded first rule :=
  ⟨⟨first, name, alone.grammar_eq ▸ alone.grammar, found⟩, ⟨first, name, .inl rfl, found⟩⟩

end Alone

theorem Poised.of_same (poised : Poised environment first node state)
    (same : SameBut state after) : Poised environment first node after where
  toAlone := poised.toAlone.of_same same
  barren := by
    rw [same.tree_eq]
    exact poised.barren

/-- A step that asks for nothing and keeps the books. -/
theorem Poised.meets_books (poised : Poised environment first node state) {step : Step Unit}
    (confined : Confined (Timely environment.source first.whitespaceTokens) step)
    (same : ∀ after, (step state).outcome = .done () after → SameBut state after) :
    (step state).Meets (Timely environment.source first.whitespaceTokens) True fun _ after =>
      Poised environment first node after where
  passes := (confined state).passes
  returns _ after done := poised.of_same (same after done)
  fails _ _ _ := timely_changed _
  exhausts _ := trivial

/-- A missing item takes nothing. -/
theorem Poised.leftOut (poised : Poised environment first node state) (name : String) :
    Poised environment first node
      { state with tree := state.tree.attach node (.lambda name) } where
  toReady := (working_attach (.refl poised.toReady) (.lambda name)).ready
  grammar_eq := poised.grammar_eq
  informed := poised.informed
  barren := by
    show Barren _ _ ((state.tree.attach node (.lambda name)).stop node)
    rw [Tree.stop_attach poised.isOpen.inside]
    exact poised.barren

/-- A rule works at a node attached for it, and starts where it was asked for. -/
theorem Poised.attached (poised : Poised environment first node state) (rule : Rule) :
    Poised environment first state.tree.size
      { state with tree := state.tree.attach node (.rule rule) } where
  toReady := ready_attach poised.toReady (.rule rule)
  grammar_eq := poised.grammar_eq
  informed := poised.informed
  barren := by
    show Barren _ _ ((state.tree.attach node (.rule rule)).stop state.tree.size)
    rw [Tree.stop_attach_new poised.isOpen.inside]
    exact poised.barren

/-- After whitespace has been skipped, a rule may be asked for. -/
theorem Alone.meets_skipWhitespace (faithful : environment.source.Faithful)
    (enabled : first.whitespaceDisabled = false) (alone : Alone environment first node state) :
    (skipWhitespace environment node state).Meets
      (Timely environment.source first.whitespaceTokens) True fun _ after =>
        Poised environment first node after := by
  have skips : (skipWhitespace environment node state).Meets (Proper environment first) True
      fun _ after => Skipped environment first node state after :=
    Parse.meets_skipWhitespace faithful alone.toReady
  have faithful' : environment.secluded.source.Faithful := faithful
  have skips' : (skipWhitespace environment.secluded node state).Meets
      (Proper environment.secluded first) True fun _ after =>
        Skipped environment.secluded first node state after :=
    Parse.meets_skipWhitespace faithful' alone.secluded
  refine ⟨alone.grammar_eq ▸ passes_skipWhitespace environment environment.source node state,
    fun ⟨⟩ after done => ?_, fun _ _ _ => timely_changed _, fun _ => trivial⟩
  have done' : (skipWhitespace environment.secluded node state).outcome = .done () after := by
    rw [skipWhitespace_secluded]
    exact done
  have skipped := skips.returns () after done
  obtain ⟨-, barren⟩ := barren_of_skipWhitespace faithful' alone.secluded
    (fun rule _ => unmistaken_secluded environment first rule)
    (by rw [alone.grammar_eq]; exact enabled) done'
  rw [alone.grammar_eq] at barren
  exact ⟨⟨skipped.ready, skipped.grammar_eq.trans alone.grammar_eq,
    (skips'.returns () after done').sound.informed⟩, barren⟩

/-- From one poised state to the next, rules are asked for in time. -/
abbrev Punctual (environment : Environment) (first : Grammar) (node : Nat) (step : Step Value) :
    Prop :=
  Step.Upholds (Timely environment.source first.whitespaceTokens) (Poised environment first node)
    step

/-- Work at a node is punctual if requests are. -/
theorem punctual_perform
    (asking : ∀ node name, Punctual environment first node (consume environment fuel node name))
    (budget : Nat) (notToken : rule.isToken = false) (notImport : rule.isImport = false) :
    Punctual environment first node
      (perform environment (consume environment fuel) budget rule node) := by
  have upheld : UpheldAt environment (consume environment fuel) node
      (Timely environment.source first.whitespaceTokens) (Poised environment first node) := by
    refine ⟨asking node, fun index state poised => ?_, fun name state poised => ?_,
      fun state _ => timely_changed state⟩
    · exact poised.meets_books (confined_change timely_changed _) fun _ done =>
        sameBut_of_setAlternative done
    · refine meets_change_bind (timely_changed _) ?_
      have marked := poised.leftOut name
      cases environment.tracing with
      | false => exact meets_pure marked
      | true =>
        refine meets_read_bind (marked.meets_books (confined_change timely_changed _) ?_)
        intro _ done
        cases done
        exact ⟨rfl, rfl, rfl⟩
  exact upheld.perform budget notToken notImport

section

variable (faithful : environment.source.Faithful) (enabled : first.whitespaceDisabled = false)
  (importFree : ∀ name rule, first.rule? name = some rule → rule.isImport = false)
  (asking : ∀ node name, Punctual environment first node (consume environment fuel node name))
include faithful importFree asking

/-- An attempt asks in time, and it remembers nothing but what the tokens of the grammar do. -/
theorem meets_attempt (poised : Poised environment first node state)
    (found : first.rule? name = some rule) :
    (attemptMemoized rule node (attemptWith rule node
      (perform environment (consume environment fuel) fuel rule)) state).Meets
        (Timely environment.source first.whitespaceTokens) True fun matched after =>
          Tried environment first rule node state matched after ∧
            after.Informed environment.secluded first := by
  have known := poised.toAlone.known found
  have tries : Tries environment first state.grammar (fun _ => True) rule node
      (attemptWith rule node (perform environment (consume environment fuel) fuel rule)) :=
    tries_perform faithful (reliable_consume faithful (excuses_always environment first) fuel)
      _ fuel rule node fun _ => .inl trivial
  have tried := meets_attemptMemoized faithful poised.toReady known.1 tries
  have asks : (attemptMemoized rule node (attemptWith rule node
      (perform environment (consume environment fuel) fuel rule)) state).Meets
        (Timely environment.source first.whitespaceTokens) True fun _ after =>
          after.Informed environment.secluded first := by
    cases isToken : rule.isToken with
    | true =>
      obtain ⟨token, isToken⟩ := Option.isSome_iff_exists.mp isToken
      rw [perform_of_token? isToken]
      have faithful' : environment.secluded.source.Faithful := faithful
      have tries' : Tries environment.secluded first state.grammar (fun _ => True) rule node
          (attemptWith rule node (performToken environment.secluded token)) :=
        tries_token faithful' isToken
      have tried' := meets_attemptMemoized faithful' poised.toAlone.secluded known.2 tries'
      exact ⟨(meets_attemptMemoized_token (.inr poised.barren)
        (confined_attemptToken timely_changed rule node token)).passes,
        fun _ after done => (tried'.returns _ after done).sound.informed,
        fun _ _ _ => timely_changed _, fun _ => trivial⟩
    | false =>
      refine meets_note_bind (timely_tried (.inr poised.barren)) (meets_read_bind ?_)
      rw [isToken, Bool.and_false]
      refine meets_read_bind (meets_change_bind (timely_changed _) ?_)
      refine (punctual_perform asking fuel isToken (importFree name rule found) _
        (poised.attached rule)).bind fun matched next there => ?_
      cases matched with
      | true => exact meets_pure there.informed
      | false => exact meets_change_bind (timely_changed _) (meets_pure there.informed)
  exact ⟨asks.passes, fun matched after done => ⟨tried.returns matched after done,
    asks.returns matched after done⟩, asks.fails, fun _ => trivial⟩

include enabled

/-- What is done for a rule once its attempt has been noted leads to a state in which a rule may be
asked for. -/
theorem meets_pursue (poised : Poised environment first node state)
    (found : first.rule? name = some rule) (offset : Nat) :
    (pursue environment (fun rule node => attemptWith rule node
      (perform environment (consume environment fuel) fuel rule)) node name offset rule
        state).Meets (Timely environment.source first.whitespaceTokens) True fun _ after =>
          Poised environment first node after := by
  have traces : ∀ event state, Poised environment first node state →
      (traceAttempt environment offset event state).Meets
        (Timely environment.source first.whitespaceTokens) True fun _ after =>
          Poised environment first node after := fun event state poised =>
    poised.meets_books (confined_traceAttempt environment offset event) fun _ done =>
      sameBut_of_traceAttempt done
  have counts : ∀ update state, Poised environment first node state →
      (Step.count update state).Meets
        (Timely environment.source first.whitespaceTokens) True fun _ after =>
          Poised environment first node after := fun update state poised =>
    poised.meets_books (confined_change timely_changed _) fun _ done => by
      cases done
      exact ⟨rfl, rfl, rfl⟩
  refine meets_read_bind ?_
  cases exceededLimit? environment state with
  | some limit => exact meets_abort (timely_changed state)
  | none =>
    refine (traces _ state poised).bind fun _ entered poised => ?_
    refine (meets_attempt faithful importFree asking poised found).bind fun matched next ended => ?_
    obtain ⟨tried, informed⟩ := ended
    have grammar_eq := tried.grammar_eq.trans poised.grammar_eq
    cases matched with
    | false =>
      have tree_eq := tried.restored rfl
      have ready : Ready environment first node next :=
        ⟨tried.sound, by rw [tree_eq]; exact poised.isOpen⟩
      have back : Poised environment first node next :=
        ⟨⟨ready, grammar_eq, informed⟩, by rw [tree_eq]; exact poised.barren⟩
      exact (counts _ next back).bind fun _ _ back => meets_pure back
    | true =>
      have alone : Alone environment first node next :=
        ⟨(tried.working poised.toReady).1.ready, grammar_eq, informed⟩
      exact (alone.meets_skipWhitespace faithful enabled).bind fun _ _ poised =>
        (counts _ _ poised).bind fun _ _ poised =>
          (traces _ _ poised).bind fun _ _ poised => meets_pure poised

end

/-- A rule that is found where one may be asked for leads to where one may be asked for. -/
theorem meets_invoke_of_poised (faithful : environment.source.Faithful)
    (enabled : first.whitespaceDisabled = false)
    (importFree : ∀ name rule, first.rule? name = some rule → rule.isImport = false)
    (asking : ∀ node name, Punctual environment first node (consume environment fuel node name))
    (poised : Poised environment first node state) (name : String) :
    (invoke environment (fun rule node => attemptWith rule node
      (perform environment (consume environment fuel) fuel rule)) node name
        (state.pushed name)).Meets (Timely environment.source first.whitespaceTokens) True
          fun _ after => Poised environment first node after := by
  cases found : state.grammar.rule? name with
  | none =>
    obtain ⟨outcome_eq, moments_eq⟩ := invoke_of_absent environment (fun rule node =>
      attemptWith rule node (perform environment (consume environment fuel) fuel rule)) node found
    refine ⟨fun moment member => ?_, fun _ _ done => ?_, fun _ _ _ => timely_changed _,
      fun _ => trivial⟩
    · rw [moments_eq, List.mem_singleton] at member
      exact member ▸ timely_changed _
    · rw [outcome_eq] at done
      cases done
  | some rule =>
    obtain ⟨outcome_eq, moments_eq⟩ := invoke_of_found environment (fun rule node =>
      attemptWith rule node (perform environment (consume environment fuel) fuel rule)) node found
    have entered : Poised environment first node (state.entered node name rule) :=
      poised.of_same ⟨rfl, rfl, rfl⟩
    have pursued := meets_pursue faithful enabled importFree asking entered
      (poised.grammar_eq ▸ found) (state.tree.stop node)
    refine ⟨fun moment member => ?_, fun value after done => ?_, fun _ _ _ => timely_changed _,
      fun _ => trivial⟩
    · rw [moments_eq] at member
      rcases List.mem_cons.mp member with rfl | member
      · exact timely_changed _
      · rcases List.mem_cons.mp member with rfl | member
        · exact timely_changed _
        · exact pursued.passes moment member
    · rw [outcome_eq] at done
      exact pursued.returns value after done

/-- Where no whitespace is left, a rule may be asked for, and none is left when it comes back. -/
theorem punctual_consume (faithful : environment.source.Faithful)
    (enabled : first.whitespaceDisabled = false)
    (importFree : ∀ name rule, first.rule? name = some rule → rule.isImport = false)
    (fuel node : Nat) (name : String) :
    Punctual environment first node (consume environment fuel node name) := by
  induction fuel generalizing node name with
  | zero => exact fun _ _ => meets_exhausted trivial
  | succ fuel inductionHypothesis =>
    intro state poised
    have asked : Timely environment.source first.whitespaceTokens
        ⟨.asked node name, state⟩ := by
      refine ⟨fun parent other same => ?_, nofun⟩
      cases same
      exact poised.barren
    have invoked :=
      meets_invoke_of_poised faithful enabled importFree inductionHypothesis poised name
    refine meets_note_bind asked (meets_change_bind (timely_changed _) ?_)
    refine (invoked.ensuring (fun _ _ _ => timely_changed _) fun _ _ => timely_changed _).imp
      fun _ after ended => ?_
    obtain ⟨next, poised, rfl⟩ := ended
    exact poised.of_same ⟨rfl, rfl, rfl⟩

/-- In a parse without imports, rules are asked for only where no whitespace is left. -/
theorem timely_of_passes (faithful : environment.source.Faithful)
    (enabled : first.whitespaceDisabled = false)
    (importFree : ∀ name rule, first.rule? name = some rule → rule.isImport = false)
    {start : String} {moment : Moment} (passes : Passes environment first start moment) :
    Timely environment.source first.whitespaceTokens moment := by
  obtain ⟨fuel, member⟩ := passes
  have alone : Alone environment first Tree.root (State.initial first environment.options) :=
    ⟨ready_initial environment first, rfl,
      (ready_initial environment.secluded first).toSound.informed⟩
  have begins : (begin environment fuel start
      (State.initial first environment.options)).Meets
        (Timely environment.source first.whitespaceTokens) True fun _ _ => True :=
    (alone.meets_skipWhitespace faithful enabled).bind fun _ middle poised =>
      (punctual_consume faithful enabled importFree fuel Tree.root start middle poised).imp
        fun _ _ _ => trivial
  exact begins.passes moment member

/-- In every state that a parse reaches, skipping whitespace at an open node comes to an end. It
adds skipped tokens and nothing else, and changes nothing if the grammar has it disabled. If the
grammar does not, and no whitespace token is mistaken for another, then what was skipped is blank
after blank, and where it ends no whitespace token takes anything.

In a parse without imports rules are asked for, and tried, only where no whitespace token takes
anything, except that whitespace tokens are tried where whitespace is skipped. -/
theorem whitespace_is_skipped_to_its_end (input : String) (registry : Registry)
    (options : ParseOptions) (tracing : Bool) (first : Grammar) (start : String) :
    let environment := Environment.ofText input registry options tracing
    (∀ state parent, Reachable environment first start state → state.tree.Open parent →
      ∃ after, (skipWhitespace environment parent state).outcome = .done () after ∧
        (after.tree.node parent).semantic = (state.tree.node parent).semantic ∧
        (∀ id, state.tree.size ≤ id → id < after.tree.size → after.tree.Blank id) ∧
        (state.grammar.whitespaceDisabled = true → after = state) ∧
        (state.grammar.whitespaceDisabled = false →
          (∀ rule ∈ state.grammar.whitespaceTokens, Unmistaken environment first rule) →
          Relation.ReflTransGen (IsBlank environment.source state.grammar.whitespaceTokens)
              (state.tree.stop parent) (after.tree.stop parent) ∧
            Barren environment.source state.grammar.whitespaceTokens (after.tree.stop parent))) ∧
    ((∀ rule ∈ first.rules, rule.isImport = false) → first.whitespaceDisabled = false →
      ∀ state parent,
        (∀ name, Passes environment first start ⟨.asked parent name, state⟩ →
          Barren environment.source first.whitespaceTokens (state.tree.stop parent)) ∧
        ∀ rule, Passes environment first start ⟨.tried parent rule, state⟩ →
          rule ∈ first.whitespaceTokens ∨
            Barren environment.source first.whitespaceTokens (state.tree.stop parent)) := by
  intro environment
  have faithful := Environment.faithful_ofText input registry options tracing
  refine ⟨fun state parent reached isOpen => ?_, fun importFree enabled state parent => ?_⟩
  · have ready : Ready environment first parent state := ⟨reached.sound faithful, isOpen⟩
    obtain ⟨after, done, -⟩ := skipWhitespace_done faithful ready
    have met : Run.Meets _ _ True _ := meets_skipWhitespace faithful ready
    have skipped := met.returns () after done
    refine ⟨after, done, skipped.semantic_eq, fun id new inside => ?_, fun disabled => ?_,
      fun enabled unmistaken => barren_of_skipWhitespace faithful ready unmistaken enabled done⟩
    · exact skipped.trailed.blank_of_new ready.tree skipped.grown skipped.sound.tree new inside
    · rw [skipWhitespace, Step.outcome_read_bind, disabled] at done
      cases done
      rfl
  · have free : ∀ name rule, first.rule? name = some rule → rule.isImport = false :=
      fun name rule found => importFree rule (List.mem_of_find?_eq_some found)
    exact ⟨fun name passes => (timely_of_passes faithful enabled free passes).asked parent name rfl,
      fun rule passes => (timely_of_passes faithful enabled free passes).tried parent rule rfl⟩

/-! ### Whitespace tokens of the same names -/

namespace Namesakes

/-- Whitespace is one letter. -/
def blankToken (c : Char) : TokenRule :=
  ⟨String.singleton c, .oneOf (.single c), true, none⟩

def blankRule (c : Char) : Rule :=
  ⟨"ws", "g", 0, .token (blankToken c)⟩

def importRule : Rule :=
  ⟨"imp", "g", 0, .imported ⟨"g", "b", false⟩⟩

/-- A published grammar: some letters are skipped. -/
def inner : Grammar :=
  .ofCalls Workspace.compile "g" [.token "ws" "a" true, .token "b" "b" false]

/-- A grammar of the same name that skips blanks, and imports from the other. -/
def outer : Grammar :=
  .ofCalls Workspace.compile "g" [.token "ws" " " true, .imported "imp" "g" "b" false]

/-- A text is parsed with a memo. -/
def shadowed : Environment :=
  .ofText "ab" (Registry.register {} inner).1 { memoizeTokens := true } false

theorem inner_tokens : inner.whitespaceTokens = [blankRule 'a'] := rfl

theorem outer_tokens : outer.whitespaceTokens = [blankRule ' '] := rfl

/-- The letter is skipped before the rule is asked for. -/
theorem letter_is_skipped :
    let environment := Environment.ofText "ab" {} { memoizeTokens := true } false
    (∃ after, (skipWhitespace environment Tree.root
        (State.initial inner environment.options)).outcome = .done () after ∧
      Relation.ReflTransGen (IsBlank environment.source inner.whitespaceTokens) 0
        (after.tree.stop Tree.root) ∧
      Barren environment.source inner.whitespaceTokens (after.tree.stop Tree.root)) ∧
    ∃ state, Passes environment inner "b" ⟨.asked Tree.root "b", state⟩ ∧
      Barren environment.source inner.whitespaceTokens (state.tree.stop Tree.root) := by
  intro environment
  have general := whitespace_is_skipped_to_its_end "ab" {} { memoizeTokens := true } false inner "b"
  obtain ⟨after, done, -, -, -, blanks⟩ := general.1 _ Tree.root (.inl rfl) Tree.open_new
  have passes : Passes environment inner "b" ⟨.asked Tree.root "b", after⟩ := by
    refine ⟨1, ?_⟩
    rw [begin, (Step.bind_of_done _ done).2, (consume_succ environment 0 _ _ _).2]
    exact List.mem_append_right _ List.mem_cons_self
  exact ⟨⟨after, done, blanks rfl fun rule _ => unmistaken_secluded environment inner rule⟩,
    after, passes, (general.2 (by decide) rfl after Tree.root).1 "b" passes⟩

variable {c : Char}

/-- The only whitespace token is tried and does not match. -/
theorem skipWhitespace_declined (enabled : state.grammar.whitespaceDisabled = false)
    (only : state.grammar.whitespaceTokens = [blankRule c]) (rising : state.tree.Rising)
    (inside : parent < state.tree.size)
    (declined : state.answer shadowed.source (blankRule c) (blankToken c) parent =
      none) :
    ∃ after, (skipWhitespace shadowed parent state).outcome = .done () after ∧
      TokenAnswered shadowed.source (blankRule c) (blankToken c) parent state
        after := by
  obtain ⟨after, tried, answered⟩ := attemptBlank_answers shadowed rising inside
    (show (blankRule c).token? = some (blankToken c) from rfl)
  rw [declined] at tried
  refine ⟨after, ?_, answered⟩
  rw [skipWhitespace, Step.outcome_read_bind, enabled, only]
  have one : (skipOne shadowed parent [blankRule c] state).outcome =
      .done false after := skipOne_of_unmatched [] tried
  exact (Step.bind_of_done _ one).1

/-- The import has been entered: its node is attached, and the other grammar is the active one. -/
def imported (state : State) : State :=
  { state.entered Tree.root "imp" importRule with
    tree := state.tree.attach Tree.root (.rule importRule), grammar := inner }

/-- A parse enters the import once whitespace has been skipped. -/
theorem passes_imported {after : State}
    (done : (skipWhitespace shadowed Tree.root (State.initial outer shadowed.options)).outcome =
      .done () after)
    (grammar_eq : after.grammar = outer) :
    Passes shadowed outer "imp" ⟨.changed, imported after⟩ := by
  have found : after.grammar.rule? "imp" = some importRule := by
    rw [grammar_eq]
    rfl
  have published : shadowed.registry.lookup? "g" = some inner := Sorted.lookup_put_self _ _ _
  have within : exceededLimit? shadowed (after.entered Tree.root "imp" importRule) = none := by
    have unlimited : (after.entered Tree.root "imp" importRule).grammar.depthLimit = none := by
      show after.grammar.depthLimit = none
      rw [grammar_eq]
      rfl
    rw [exceededLimit?, unlimited]
    rfl
  have performed : ∀ node, ⟨.changed, imported after⟩ ∈ (perform shadowed (consume shadowed 0) 0
      importRule node { after.entered Tree.root "imp" importRule with
        tree := after.tree.attach Tree.root (.rule importRule) }).trail.moments := by
    intro node
    show _ ∈ (performImport shadowed _ ⟨"g", "b", false⟩ node _).trail.moments
    rw [performImport, published]
    dsimp only
    rw [Step.withGrammar, Step.moments_read_bind, Step.moments_change_bind]
    exact List.mem_cons_self
  have tried : ⟨.changed, imported after⟩ ∈ (attemptMemoized importRule Tree.root
      (attemptWith importRule Tree.root (perform shadowed (consume shadowed 0) 0 importRule))
      (after.entered Tree.root "imp" importRule)).trail.moments := by
    rw [attemptMemoized, Step.moments_note_bind, Step.moments_read_bind,
      show importRule.isToken = false from rfl, Bool.and_false, if_neg Bool.false_ne_true,
      attemptWith, Step.moments_read_bind, Step.changeTree, Step.moments_change_bind]
    exact .tail _ (.tail _ (Step.mem_moments_bind (performed _) _))
  have quiet : ∀ event, (traceAttempt shadowed (after.tree.stop Tree.root) event
      (after.entered Tree.root "imp" importRule)).outcome =
        .done () (after.entered Tree.root "imp" importRule) := fun _ => rfl
  refine ⟨1, ?_⟩
  rw [begin, (Step.bind_of_done _ done).2, (consume_succ _ 0 _ _ _).2,
    (invoke_of_found shadowed _ Tree.root found).2, pursue, Step.moments_read_bind, within]
  dsimp only
  rw [(Step.bind_of_done _ (quiet _)).2]
  exact List.mem_append_right _ (.tail _ (.tail _ (List.mem_append_left _ (.tail _ (.tail _
    (List.mem_append_right _ (Step.mem_moments_bind tried _)))))))

/-- A parse may reach a state in which skipping whitespace ends where a whitespace token matches.
What is remembered of a token of the same names answers for it. -/
theorem blank_is_left_over : ∃ state after, Reachable shadowed outer "imp" state ∧
    state.tree.Open 1 ∧ state.grammar.whitespaceDisabled = false ∧
    (skipWhitespace shadowed 1 state).outcome = .done () after ∧
    ¬ Barren shadowed.source state.grammar.whitespaceTokens (after.tree.stop 1) := by
  obtain ⟨initial, initial_eq⟩ : ∃ initial, initial = State.initial outer shadowed.options :=
    ⟨_, rfl⟩
  have ready : Ready shadowed outer Tree.root initial := initial_eq ▸ ready_initial shadowed outer
  have grammar_eq : initial.grammar = outer := by
    rw [initial_eq]
    rfl
  have tree_eq : initial.tree = Tree.new := by
    rw [initial_eq]
    rfl
  have key_eq : initial.tokenKey (blankRule ' ') Tree.root = ⟨"g", 0, "ws"⟩ := by
    rw [State.tokenKey, tree_eq]
    rfl
  have declined : initial.answer shadowed.source (blankRule ' ') (blankToken ' ') Tree.root =
      none := by
    have untold : initial.recollection ⟨"g", 0, "ws"⟩ = none := by
      rw [initial_eq]
      exact Std.HashMap.getElem?_empty
    rw [State.answer, key_eq, untold, tree_eq]
    rfl
  obtain ⟨middle, skipped, answered⟩ := skipWhitespace_declined
    (by rw [grammar_eq]; rfl) (by rw [grammar_eq, outer_tokens]) ready.tree.rising
    ready.isOpen.inside declined
  have middle_eq : middle.tree = Tree.new := by
    rw [answered.tree_eq, declined, tree_eq]
    rfl
  -- The memo knows under the common names that there is no blank.
  have told : middle.recollection ⟨"g", 0, "ws"⟩ = some none := by
    rw [answered.recollection_eq, ready.memoizing, key_eq, declined]
    rfl
  have reached : Reachable shadowed outer "imp" (imported middle) :=
    .inr ⟨.changed, passes_imported (initial_eq ▸ skipped) (answered.grammar_eq.trans grammar_eq)⟩
  have imported_eq : (imported middle).tree = Tree.new.attach Tree.root (.rule importRule) :=
    congrArg (·.attach Tree.root (.rule importRule)) middle_eq
  have isOpen : (imported middle).tree.Open 1 := by
    have attached := (ready_attach ready (.rule importRule)).isOpen
    dsimp only at attached
    rw [tree_eq] at attached
    rw [imported_eq]
    exact attached
  have declined' : (imported middle).answer shadowed.source (blankRule 'a') (blankToken 'a') 1 =
      none := by
    have key_eq : (imported middle).tokenKey (blankRule 'a') 1 = ⟨"g", 0, "ws"⟩ := by
      rw [State.tokenKey, imported_eq]
      rfl
    have told' : (imported middle).recollection ⟨"g", 0, "ws"⟩ = some none := told
    rw [State.answer, key_eq, told', Option.getD_some]
  have enabled : (imported middle).grammar.whitespaceDisabled = false := rfl
  obtain ⟨after, left, answered'⟩ := skipWhitespace_declined enabled
    inner_tokens (reached.sound (Source.faithful_ofString "ab")).tree.rising isOpen.inside declined'
  refine ⟨imported middle, after, reached, isOpen, rfl, left, fun barren => ?_⟩
  have stop_eq : after.tree.stop 1 = 0 := by
    rw [answered'.tree_eq, declined', imported_eq]
    rfl
  rw [stop_eq] at barren
  have taken : (blankToken 'a').matchAt? shadowed.source 0 = some 1 := rfl
  exact absurd (barren (blankRule 'a') List.mem_cons_self (blankToken 'a') rfl 1 taken) (by decide)

end Namesakes

end Parse

end Rulebook
