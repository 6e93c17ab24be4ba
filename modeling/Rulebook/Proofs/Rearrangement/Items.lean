/-
This file shows that it does not matter in which order some items are tried, if they are tokens of
which no two match at the same offset. An item that does not match leaves nothing behind but what is
remembered of it, so the search for an item goes on as if it had begun with the next one. Whatever
the order is, it ends at the one item that matches.
-/

import Rulebook.Proofs.Parse.Termination
import Rulebook.Proofs.Rearrangement.Abreast

namespace Rulebook.Parse

open Match (Origin Tree)

variable {environment other : Environment} {first grammar : Grammar} {registry : Registry}
  {before middle after state : State} {rule : Rule} {token : TokenRule} {name : String}
  {node parent fuel : Nat} {items : List String}

/-! ### Requests -/

theorem done_traceAttempt (environment : Environment) (offset : Nat)
    (event : Position → Nat → Log.Event) (state : State) :
    ∃ log, (traceAttempt environment offset event state).outcome =
      .done () { state with log } := by
  unfold traceAttempt
  cases environment.tracing with
  | false => exact ⟨state.log, rfl⟩
  | true => exact ⟨_, rfl⟩

/-- Beyond the limit, a request for a rule ends the parse. -/
theorem consume_exceeds (fuel node : Nat) (found : state.grammar.rule? name = some rule)
    {limit : Nat} (exceeded : exceededLimit? environment (state.pushed name) = some limit) :
    ∃ error last, (consume environment (fuel + 1) node name state).outcome =
      .aborted error last := by
  have entered : exceededLimit? environment (state.entered node name rule) = some limit := exceeded
  rw [(consume_succ environment fuel node name state).1,
    (invoke_of_found environment _ node found).1, pursue, Step.outcome_read_bind, entered]
  exact ⟨_, _, rfl⟩

section

variable (fuel) (found : state.grammar.rule? name = some rule) (isToken : rule.token? = some token)
  (within : exceededLimit? environment (state.pushed name) = none)
  (rising : state.tree.Rising) (inside : node < state.tree.size)
include found isToken within rising inside

/-- Within the limit, a request for a token comes to what is remembered of it or what it does. If it
matches, there is whitespace to be skipped. -/
theorem outcome_consume_token :
    ∃ tried : State, TokenAnswered environment.source rule token node state
        { tried with stack := state.stack } ∧
      tried.stack.tail = state.stack ∧
      (consume environment (fuel + 1) node name state).outcome =
        ((if (state.answer environment.source rule token node).isSome then do
            skipWhitespace environment node
            Step.count fun statistics => { statistics with found := statistics.found + 1 }
            traceAttempt environment (state.tree.stop node) (.matched · · name)
            return true
          else do
            Step.count fun statistics => { statistics with notFound := statistics.notFound + 1 }
            return false : Step Bool) tried).outcome.mapState State.popped := by
  have entered : exceededLimit? environment (state.entered node name rule) = none := within
  obtain ⟨log, traced⟩ := done_traceAttempt environment (state.tree.stop node) (.tried · · name)
    (state.entered node name rule)
  have tokenOutcome_eq : ∀ state : State, state.tree.Rising → node < state.tree.size →
      (attemptWith rule node (perform environment (consume environment fuel) fuel rule)
        state).outcome = tokenOutcome environment rule token node state := by
    intro state rising inside
    rw [perform_of_token? isToken]
    exact outcome_attemptWith_token rising inside
  obtain ⟨tried, done, answered⟩ := tokenAnswered_attemptMemoized
    { state.entered node name rule with log } isToken rising inside tokenOutcome_eq
  refine ⟨tried, ⟨answered.tree_eq, answered.grammar_eq, rfl, answered.memoizing_eq,
    answered.recollection_eq⟩, congrArg List.tail answered.stack_eq, ?_⟩
  rw [(consume_succ environment fuel node name state).1,
    (invoke_of_found environment _ node found).1, pursue, Step.outcome_read_bind, entered]
  dsimp only
  rw [(Step.bind_of_done _ traced).1, (Step.bind_of_done _ done).1]
  rfl

/-- A token that does not match leaves nothing behind but what is remembered of it. -/
theorem consume_declines (declined : state.answer environment.source rule token node = none) :
    ∃ last, (consume environment (fuel + 1) node name state).outcome = .done false last ∧
      TokenAnswered environment.source rule token node state last := by
  obtain ⟨tried, answered, tail_eq, outcome_eq⟩ :=
    outcome_consume_token fuel found isToken within rising inside
  rw [declined, Option.isSome_none, if_neg Bool.false_ne_true] at outcome_eq
  refine ⟨_, outcome_eq, ?_⟩
  exact ⟨answered.tree_eq, answered.grammar_eq, tail_eq, answered.memoizing_eq,
    answered.recollection_eq⟩

/-- A token that matches does not fail. -/
theorem consume_accepts {length : Nat}
    (accepted : state.answer environment.source rule token node = some length) (last : State) :
    (consume environment (fuel + 1) node name state).outcome ≠ .done false last := by
  obtain ⟨tried, -, -, outcome_eq⟩ :=
    outcome_consume_token fuel found isToken within rising inside
  rw [accepted, Option.isSome_some, if_pos rfl] at outcome_eq
  intro done
  obtain ⟨popped, done, -⟩ := Outcome.mapState_eq_done.mp (outcome_eq.symm.trans done)
  obtain ⟨_, _, -, done⟩ := Step.done_of_bind done
  obtain ⟨_, _, -, done⟩ := Step.done_of_bind done
  obtain ⟨_, _, -, done⟩ := Step.done_of_bind done
  cases done

/-- If there is no whitespace, then a token leaves nothing else behind. -/
theorem consume_answers (quiet : environment.tracing = false)
    (blank : state.grammar.whitespace = []) :
    ∃ last, (consume environment (fuel + 1) node name state).outcome =
        .done (state.answer environment.source rule token node).isSome last ∧
      TokenAnswered environment.source rule token node state last := by
  cases answer : state.answer environment.source rule token node with
  | none => exact consume_declines fuel found isToken within rising inside answer
  | some length =>
    obtain ⟨tried, answered, tail_eq, outcome_eq⟩ :=
      outcome_consume_token fuel found isToken within rising inside
    have tried_blank : tried.grammar.whitespace = [] :=
      (congrArg Grammar.whitespace answered.grammar_eq).trans blank
    rw [answer, Option.isSome_some, if_pos rfl,
      (Step.bind_of_done _ (skipWhitespace_of_blank tried_blank)).1, Step.count,
      Step.outcome_change_bind, (Step.bind_of_done _ (traceAttempt_of_quiet quiet _ _)).1]
      at outcome_eq
    exact ⟨_, outcome_eq, answered.tree_eq, answered.grammar_eq, tail_eq, answered.memoizing_eq,
      answered.recollection_eq⟩

end

/-- If there is no whitespace, then a rule that matches leaves nothing else behind. -/
theorem consume_performs (fuel : Nat) (quiet : environment.tracing = false)
    (blank : state.grammar.whitespace = []) (found : state.grammar.rule? name = some rule)
    (plain : rule.isToken = false)
    (within : exceededLimit? environment (state.pushed name) = none) {last : State}
    (performed : (perform environment (consume environment fuel) fuel rule state.tree.size
      { state.entered node name rule with
        tree := state.tree.attach node (.rule rule) }).outcome = .done true last)
    (grammar_eq : last.grammar = state.grammar) :
    ∃ statistics, (consume environment (fuel + 1) node name state).outcome =
      .done true { last with stack := last.stack.tail, statistics } := by
  have entered : exceededLimit? environment (state.entered node name rule) = none := within
  have attempted : (attemptWith rule node (perform environment (consume environment fuel) fuel
      rule) (state.entered node name rule)).outcome = .done true last := by
    rw [attemptWith, Step.outcome_read_bind, Step.changeTree, Step.outcome_change_bind]
    exact (Step.bind_of_done _ performed).1
  have last_blank : last.grammar.whitespace = [] :=
    (congrArg Grammar.whitespace grammar_eq).trans blank
  rw [(consume_succ environment fuel node name state).1,
    (invoke_of_found environment _ node found).1, pursue, Step.outcome_read_bind, entered]
  dsimp only
  rw [(Step.bind_of_done _ (traceAttempt_of_quiet quiet _ _)).1,
    (Step.bind_of_done _ ((outcome_attemptMemoized_of_not_isToken plain _).trans attempted)).1,
    if_pos rfl, (Step.bind_of_done _ (skipWhitespace_of_blank last_blank)).1, Step.count,
    Step.outcome_change_bind, (Step.bind_of_done _ (traceAttempt_of_quiet quiet _ _)).1]
  exact ⟨_, rfl⟩

/-! ### Items that do not match -/

/-- Nothing happened but that the memo was told of tokens about which all are agreed. -/
structure Aside (environment : Environment) (first : Grammar) (before after : State) : Prop where
  tree_eq : after.tree = before.tree
  grammar_eq : after.grammar = before.grammar
  height_eq : after.stack.length = before.stack.length
  memoizing_eq : after.memo.isSome = before.memo.isSome
  recollections : ∀ key, Unanimous environment first key.grammar key.rule ∨
    after.recollection key = before.recollection key
  informed : before.Informed environment first → after.Informed environment first

namespace Aside

theorem trans (left : Aside environment first before middle)
    (right : Aside environment first middle after) : Aside environment first before after where
  tree_eq := right.tree_eq.trans left.tree_eq
  grammar_eq := right.grammar_eq.trans left.grammar_eq
  height_eq := right.height_eq.trans left.height_eq
  memoizing_eq := right.memoizing_eq.trans left.memoizing_eq
  recollections key := by
    rcases right.recollections key with unanimous | same
    · exact .inl unanimous
    · exact (left.recollections key).imp_right same.trans
  informed informed := right.informed (left.informed informed)

theorem refl (state : State) : Aside environment first state state :=
  ⟨rfl, rfl, rfl, rfl, fun _ => .inr rfl, id⟩

theorem of_discreet {update : State → State} (discreet : Discreet update) (state : State) :
    Aside environment first state (update state) where
  tree_eq := discreet.tree_eq state
  grammar_eq := discreet.grammar_eq state
  height_eq := discreet.height_eq state
  memoizing_eq := by rw [discreet.memo_eq]
  recollections key := .inr (by rw [State.recollection, State.recollection, discreet.memo_eq])
  informed informed key outcome found := by
    rw [State.recollection, discreet.memo_eq] at found
    exact informed key outcome found

theorem ready (aside : Aside environment first before after)
    (ready : ReadyIn environment first grammar node before) :
    ReadyIn environment first grammar node after where
  tree := by
    rw [aside.tree_eq]
    exact ready.tree
  grammar := by
    rw [aside.grammar_eq]
    exact ready.grammar
  memoizing := aside.memoizing_eq.trans ready.memoizing
  memo memo present key outcome found := by
    refine aside.informed ready.informed key outcome ?_
    rw [State.recollection, present]
    exact found
  isOpen := by
    rw [aside.tree_eq]
    exact ready.isOpen
  grammar_eq := aside.grammar_eq.trans ready.grammar_eq

/-- States stay abreast if nothing happens on either side. -/
theorem abreast {left right next next' : State} (aside : Aside environment first left next)
    (aside' : Aside environment first right next')
    (abreast : left.Abreast environment first right) : next.Abreast environment first next' where
  grammar := by
    rw [aside.grammar_eq, aside'.grammar_eq]
    exact abreast.grammar
  tree := by
    rw [aside.tree_eq, aside'.tree_eq]
    exact abreast.tree
  height_eq := by rw [aside.height_eq, aside'.height_eq, abreast.height_eq]
  memoizing_eq := by rw [aside.memoizing_eq, aside'.memoizing_eq, abreast.memoizing_eq]
  recollections key := by
    rcases aside.recollections key with unanimous | same
    · exact .inl unanimous
    · rcases aside'.recollections key with unanimous | same'
      · exact .inl unanimous
      · rw [same, same']
        exact abreast.recollections key
  informed := aside'.informed abreast.informed

end Aside

/-- A name stands for a token in the grammar of a state, and if tokens are remembered, then all
tokens of its names do the same. -/
structure State.Offers (environment : Environment) (first : Grammar) (state : State)
    (name : String) (rule : Rule) (token : TokenRule) : Prop where
  found : state.grammar.rule? name = some rule
  isToken : rule.token? = some token
  known : Known environment first rule
  unanimous : state.memo.isSome = true → Unanimous environment first rule.grammar rule.name

namespace State.Offers

theorem answer_eq (offers : state.Offers environment first name rule token)
    (informed : state.Informed environment first) (node : Nat) :
    state.answer environment.source rule token node =
      token.matchAt? environment.source (state.tree.stop node) :=
  informed.answer_eq ⟨rule, offers.known, rfl, rfl, offers.isToken⟩ offers.unanimous

theorem aside (offers : before.Offers environment first name rule token)
    (aside : Aside environment first before after) :
    after.Offers environment first name rule token where
  found := by
    rw [aside.grammar_eq]
    exact offers.found
  isToken := offers.isToken
  known := offers.known
  unanimous := by
    rw [aside.memoizing_eq]
    exact offers.unanimous

/-- A token that does not match is no matter. -/
theorem declined (offers : before.Offers environment first name rule token)
    (declined : before.answer environment.source rule token node = none)
    (answered : TokenAnswered environment.source rule token node before after) :
    Aside environment first before after where
  tree_eq := by
    rw [answered.tree_eq, declined]
    rfl
  grammar_eq := answered.grammar_eq
  height_eq := congrArg List.length answered.stack_eq
  memoizing_eq := answered.memoizing_eq
  recollections key := by
    rw [answered.recollection_eq]
    split
    · rename_i both
      rw [both.2]
      exact .inl (offers.unanimous both.1)
    · exact .inr rfl
  informed informed key outcome found := by
    rw [answered.recollection_eq] at found
    split at found
    · rename_i both
      rw [both.2, ← Option.some.inj found]
      exact informed.recalls_answer offers.known offers.isToken
    · exact informed key outcome found

end State.Offers

/-- The limit on the stack does not depend on what is remembered. -/
theorem Aside.exceededLimit?_eq (aside : Aside environment first before after)
    (other : Environment) (name name' : String) :
    exceededLimit? other (after.pushed name') = exceededLimit? other (before.pushed name) :=
  exceededLimit?_congr other aside.grammar_eq (congrArg (· + 1) aside.height_eq)

/-- The state after it has been noted which part the innermost rule is trying. -/
def State.trying (state : State) (index : Nat) : State :=
  { state with stack := match state.stack with
      | [] => []
      | frame :: rest => { frame with alternative := index } :: rest }

theorem setAlternative_eq (index : Nat) :
    Step.setAlternative index = Step.change fun state => state.trying index := rfl

theorem discreet_trying (index : Nat) : Discreet fun state => state.trying index where
  grammar_eq _ := rfl
  tree_eq _ := rfl
  tail_eq state := by
    rw [State.trying]
    cases state.stack <;> rfl
  height_eq state := by
    rw [State.trying]
    cases state.stack <;> rfl
  memo_eq _ := rfl

theorem outcome_firstMatch_cons (consume : Consume) (item : Nat × String)
    (rest : List (Nat × String)) (state : State) :
    (firstMatch consume node (item :: rest) state).outcome =
      ((consume node item.2 >>= fun matched =>
        if matched then pure (some item.1) else firstMatch consume node rest)
          (state.trying item.1)).outcome := by
  rw [firstMatch, setAlternative_eq, Step.outcome_change_bind]

/-- Items that do not match may be left out of the search for one that does. -/
theorem firstMatch_passes (source_eq : other.source = environment.source) (fuel : Nat)
    {skipped : List (Nat × String)} (rest : List (Nat × String)) (rising : state.tree.Rising)
    (inside : node < state.tree.size)
    (informed : state.Informed environment first)
    (within : ∀ name, exceededLimit? other (state.pushed name) = none)
    (declines : ∀ item ∈ skipped, ∃ rule token,
      state.Offers environment first item.2 rule token ∧
        token.matchAt? environment.source (state.tree.stop node) = none) :
    ∃ next, Aside environment first state next ∧
      (firstMatch (consume other (fuel + 1)) node (skipped ++ rest) state).outcome =
        (firstMatch (consume other (fuel + 1)) node rest next).outcome := by
  induction skipped generalizing state with
  | nil => exact ⟨state, .refl state, rfl⟩
  | cons item others inductionHypothesis =>
    obtain ⟨rule, token, offers, declined⟩ := declines item List.mem_cons_self
    have trying : Aside environment first state (state.trying item.1) :=
      .of_discreet (discreet_trying item.1) state
    have offers := offers.aside trying
    have declined := (offers.answer_eq (trying.informed informed) node).trans declined
    rw [← source_eq] at declined
    have still_within := (trying.exceededLimit?_eq _ item.2 item.2).trans (within item.2)
    obtain ⟨last, done, answered⟩ := consume_declines fuel offers.found offers.isToken
      still_within rising inside declined
    rw [source_eq] at declined answered
    have aside := trying.trans (offers.declined declined answered)
    obtain ⟨next, passed, outcome_eq⟩ := @inductionHypothesis last
      (by rw [aside.tree_eq]; exact rising) (by rw [aside.tree_eq]; exact inside)
      (aside.informed informed)
      (fun name => (aside.exceededLimit?_eq _ name name).trans (within name))
      (fun later member => by
        obtain ⟨rule, token, offers, declined⟩ := declines later (List.mem_cons_of_mem _ member)
        exact ⟨rule, token, offers.aside aside, by rw [aside.tree_eq]; exact declined⟩)
    refine ⟨next, aside.trans passed, ?_⟩
    rw [← outcome_eq, List.cons_append, outcome_firstMatch_cons, (Step.bind_of_done _ done).1]
    rfl

/-- If the limit is exceeded, then the first item ends the parse. -/
theorem firstMatch_exceeds (fuel node : Nat) {item : Nat × String}
    (rest : List (Nat × String))
    (offers : state.Offers environment first item.2 rule token) {limit : Nat}
    (exceeded : exceededLimit? other (state.pushed item.2) = some limit) :
    ∃ error last, (firstMatch (consume other (fuel + 1)) node (item :: rest) state).outcome =
      .aborted error last := by
  have trying : Aside environment first state (state.trying item.1) :=
    .of_discreet (discreet_trying item.1) state
  have exceeded := (trying.exceededLimit?_eq _ item.2 item.2).trans exceeded
  obtain ⟨error, last, aborted⟩ := consume_exceeds fuel node (offers.aside trying).found
    exceeded
  rw [outcome_firstMatch_cons, (Step.bind_of_aborted _ aborted).1]
  exact ⟨error, last, rfl⟩

/-- The search for an item ends at one that matches, or none of them does. -/
theorem firstMatch_reaches (source_eq : other.source = environment.source) (fuel : Nat)
    (available : List (Nat × String)) (takes : String → Option Nat)
    (rising : state.tree.Rising) (inside : node < state.tree.size)
    (informed : state.Informed environment first)
    (within : ∀ name, exceededLimit? other (state.pushed name) = none)
    (offers : ∀ item ∈ available, ∃ rule token,
      state.Offers environment first item.2 rule token ∧
        token.matchAt? environment.source (state.tree.stop node) = takes item.2) :
    ∃ next, Aside environment first state next ∧
      ((∀ item ∈ available, takes item.2 = none) ∧
        (firstMatch (consume other (fuel + 1)) node available state).outcome = .done none next ∨
      ∃ item ∈ available, (takes item.2).isSome = true ∧ ∃ rest,
        (firstMatch (consume other (fuel + 1)) node available state).outcome =
          (firstMatch (consume other (fuel + 1)) node (item :: rest) next).outcome) := by
  have declines : ∀ skipped : List (Nat × String), (∀ item ∈ skipped, item ∈ available) →
      (∀ item ∈ skipped, takes item.2 = none) → ∀ item ∈ skipped, ∃ rule token,
        state.Offers environment first item.2 rule token ∧
          token.matchAt? environment.source (state.tree.stop node) = none := by
    intro skipped among declined item member
    obtain ⟨rule, token, offers, takes_eq⟩ := offers item (among item member)
    exact ⟨rule, token, offers, takes_eq.trans (declined item member)⟩
  cases search : available.find? fun item => (takes item.2).isSome with
  | none =>
    have declined : ∀ item ∈ available, takes item.2 = none := by
      intro item member
      exact Option.not_isSome_iff_eq_none.mp (List.find?_eq_none.mp search item member)
    obtain ⟨next, aside, outcome_eq⟩ := firstMatch_passes source_eq fuel [] rising inside informed
      within (declines available (fun _ => id) declined)
    rw [List.append_nil] at outcome_eq
    exact ⟨next, aside, .inl ⟨declined, outcome_eq⟩⟩
  | some item =>
    obtain ⟨accepted, skipped, rest, available_eq, passed⟩ :=
      List.find?_eq_some_iff_append.mp search
    have member : item ∈ available := List.mem_of_find?_eq_some search
    have declined : ∀ other ∈ skipped, takes other.2 = none := by
      intro other member
      have notSome := passed other member
      rwa [Bool.not_eq_true', Option.isSome_eq_false_iff, Option.isNone_iff_eq_none] at notSome
    obtain ⟨next, aside, outcome_eq⟩ := firstMatch_passes source_eq fuel (item :: rest) rising
      inside informed within (declines skipped (fun other member => by
        rw [available_eq]
        exact List.mem_append_left _ member) declined)
    rw [← available_eq] at outcome_eq
    exact ⟨next, aside, .inr ⟨item, member, accepted, rest, outcome_eq⟩⟩

/-! ### Items in two orders -/

/-- What is left of the items of a set, in two orders. No two items have the same number. -/
structure Permuted (items : List String) (available available' : List (Nat × String)) : Prop where
  within : ∀ item ∈ available, item.2 ∈ items
  perm : (available.map (·.2)).Perm (available'.map (·.2))
  nodup : (available.map (·.1)).Nodup
  nodup' : (available'.map (·.1)).Nodup

/-- Nothing is picked on two sides, or something is, and what is left then fits together. -/
inductive Picked (fits : List (Nat × String) → List (Nat × String) → Prop)
    (available available' : List (Nat × String)) : Option Nat → Option Nat → Prop where
  | none : Picked fits available available' none none
  | some {index index' : Nat} (rest : fits (available.filter (·.1 != index))
      (available'.filter (·.1 != index'))) :
    Picked fits available available' (some index) (some index')

/-- If no two items have the same number, then an item is taken out by its number. -/
theorem perm_cons_filter {available : List (Nat × String)} (nodup : (available.map (·.1)).Nodup)
    {item : Nat × String} (member : item ∈ available) :
    available.Perm (item :: available.filter (·.1 != item.1)) := by
  have erase_eq : available.erase item = available.filter (·.1 != item.1) := by
    rw [(List.Nodup.of_map _ nodup).erase_eq_filter]
    refine List.filter_congr fun other among => ?_
    by_cases same : other = item
    · rw [same, bne_self_eq_false, bne_self_eq_false]
    · have distinct : other.1 ≠ item.1 := fun equal =>
        same (List.inj_on_of_nodup_map nodup among member equal)
      rw [bne_iff_ne.mpr same, bne_iff_ne.mpr distinct]
  exact erase_eq ▸ List.perm_cons_erase member

namespace Permuted

variable {available available' : List (Nat × String)} {item item' : Nat × String}

/-- What is left on one side is left on the other, under another number. -/
theorem exists_right (permuted : Permuted items available available') (member : item ∈ available) :
    ∃ item' ∈ available', item'.2 = item.2 :=
  List.mem_map.mp (permuted.perm.mem_iff.mp (List.mem_map_of_mem member))

theorem exists_left (permuted : Permuted items available available')
    (member : item' ∈ available') : ∃ item ∈ available, item.2 = item'.2 :=
  List.mem_map.mp (permuted.perm.mem_iff.mpr (List.mem_map_of_mem member))

theorem within' (permuted : Permuted items available available') (member : item' ∈ available') :
    item'.2 ∈ items := by
  obtain ⟨item, among, same⟩ := permuted.exists_left member
  exact same ▸ permuted.within item among

/-- The same item may be taken out on both sides. -/
theorem pick (permuted : Permuted items available available')
    (member : item ∈ available) (member' : item' ∈ available') (same : item'.2 = item.2) :
    Permuted items (available.filter (·.1 != item.1)) (available'.filter (·.1 != item'.1)) where
  within other among := permuted.within other (List.mem_of_mem_filter among)
  perm := by
    have left := (perm_cons_filter permuted.nodup member).map (·.2)
    have right := (perm_cons_filter permuted.nodup' member').map (·.2)
    rw [List.map_cons] at left right
    rw [same] at right
    exact ((left.symm.trans permuted.perm).trans right).cons_inv
  nodup := permuted.nodup.sublist (List.filter_sublist.map _)
  nodup' := permuted.nodup'.sublist (List.filter_sublist.map _)

end Permuted

theorem State.Abreast.exceededLimit?_eq {left right : State}
    (abreast : left.Abreast environment first right) :
    exceededLimit? { environment with registry } right = exceededLimit? environment left := by
  rw [exceededLimit?, exceededLimit?, abreast.grammar.depthLimit_eq, abreast.height_eq]

theorem State.Abreast.pushed {left right : State} (abreast : left.Abreast environment first right)
    (name name' : String) :
    (left.pushed name).Abreast environment first (right.pushed name') :=
  abreast.changeStack (congrArg (· + 1) abreast.height_eq)

/-- Both sides offer the same tokens. -/
theorem State.Abreast.offers {left right : State} (abreast : left.Abreast environment first right)
    (offers : left.Offers environment first name rule token) :
    right.Offers environment first name rule token where
  found := by
    have rules := abreast.grammar.rules name
    rw [offers.found] at rules
    generalize right.grammar.rule? name = found at rules
    cases rules with
    | some reordered => rw [reordered.eq_of_token offers.isToken]
  isToken := offers.isToken
  known := offers.known
  unanimous := by
    rw [abreast.memoizing_eq]
    exact offers.unanimous

/-- Items that may be declared in any order are offered. -/
theorem ReadyIn.offers (ready : ReadyIn environment first grammar node state)
    (exchangeable : grammar.Exchangeable environment first items) {item : String}
    (member : item ∈ items) :
    ∃ rule token, state.Offers environment first item rule token ∧ ∀ offset,
      token.matchAt? environment.source offset =
        grammar.matchAt? environment.source item offset := by
  obtain ⟨rule, token, found, isToken⟩ := exchangeable.isToken item member
  have known : Known environment first rule :=
    ⟨grammar, item, ready.grammar_eq ▸ ready.grammar, found⟩
  refine ⟨rule, token, ⟨by rw [ready.grammar_eq]; exact found, isToken, known, fun memoizing => ?_⟩,
    fun offset => ?_⟩
  · exact exchangeable.unanimous (ready.memoizing.symm.trans memoizing) item member rule found
  · rw [Grammar.matchAt?, found, Option.bind_some, isToken, Option.bind_some]

/-- Where the search for an item is at the one that matches, this one is picked. -/
theorem abreast_firstMatch_cons {fits : List (Nat × String) → List (Nat × String) → Prop}
    {available available' : List (Nat × String)} {left right : State}
    (consumes : ∀ name,
      Step.Abreast environment first grammar node Eq (consume environment (fuel + 1) node name)
        (consume { environment with registry } (fuel + 1) node name))
    (ready : ReadyIn environment first grammar node left)
    (states : left.Abreast environment first right) {item item' : Nat × String}
    (same : item'.2 = item.2) (offers : left.Offers environment first item.2 rule token)
    (within : exceededLimit? environment (left.pushed item.2) = none) {length : Nat}
    (accepted : token.matchAt? environment.source (left.tree.stop node) = some length)
    (fitting : fits (available.filter (·.1 != item.1)) (available'.filter (·.1 != item'.1)))
    (rest rest' : List (Nat × String)) :
    Outcome.Abreast environment first (Picked fits available available')
      (firstMatch (consume environment (fuel + 1)) node (item :: rest) left).outcome
      (firstMatch (consume { environment with registry } (fuel + 1)) node (item' :: rest')
        right).outcome := by
  have trying : Aside environment first left (left.trying item.1) :=
    .of_discreet (discreet_trying item.1) left
  have trying' : Aside environment first right (right.trying item'.1) :=
    .of_discreet (discreet_trying item'.1) right
  have ready := trying.ready ready
  have offers := offers.aside trying
  have met := consumes item.2 _ _ ready (trying.abreast trying' states)
  have matches_only := consume_accepts fuel offers.found offers.isToken
    ((trying.exceededLimit?_eq _ item.2 item.2).trans within) ready.tree.rising ready.isOpen.inside
    ((offers.answer_eq ready.informed node).trans accepted)
  rw [outcome_firstMatch_cons, outcome_firstMatch_cons, same]
  generalize ended : (consume environment (fuel + 1) node item.2 (left.trying item.1)).outcome =
    outcome at met matches_only
  generalize ended' : (consume { environment with registry } (fuel + 1) node item.2
    (right.trying item'.1)).outcome = outcome' at met
  cases met with
  | @done matched _ last _ equal states =>
    subst equal
    cases matched with
    | false => exact absurd rfl (matches_only last)
    | true =>
      rw [(Step.bind_of_done _ ended).1, (Step.bind_of_done _ ended').1]
      exact .done (.some fitting) states
  | aborted =>
    rw [(Step.bind_of_aborted _ ended).1, (Step.bind_of_aborted _ ended').1]
    exact .aborted
  | exhausted =>
    rw [(Step.bind_of_exhausted _ ended).1, (Step.bind_of_exhausted _ ended').1]
    exact .exhausted

section

variable (exchangeable : grammar.Exchangeable environment first items)
  {available available' : List (Nat × String)} (permuted : Permuted items available available')
  {left right : State} (ready : ReadyIn environment first grammar node left)
  (states : left.Abreast environment first right)
include exchangeable permuted ready states

/-- Beyond the limit, whichever item comes first ends the parse. -/
theorem abreast_firstMatch_exceeded (registry : Registry) (fuel : Nat) {limit : Nat}
    (exceeded : ∀ name, exceededLimit? environment (left.pushed name) = some limit) :
    Outcome.Abreast environment first (Picked (Permuted items) available available')
      (firstMatch (consume environment (fuel + 1)) node available left).outcome
      (firstMatch (consume { environment with registry } (fuel + 1)) node available'
        right).outcome := by
  have exceeded' : ∀ name,
      exceededLimit? { environment with registry } (right.pushed name) = some limit :=
    fun name => (states.pushed name name).exceededLimit?_eq.trans (exceeded name)
  cases available with
  | nil =>
    obtain rfl := List.map_eq_nil_iff.mp permuted.perm.symm.eq_nil
    exact .done .none states
  | cons item rest =>
    cases available' with
    | nil =>
      have absurd := permuted.perm.length_eq
      cases absurd
    | cons item' rest' =>
      obtain ⟨rule, token, offers, -⟩ :=
        ready.offers exchangeable (permuted.within item List.mem_cons_self)
      obtain ⟨rule', token', offers', -⟩ :=
        ready.offers exchangeable (permuted.within' List.mem_cons_self)
      obtain ⟨error, last, aborted⟩ := firstMatch_exceeds fuel node rest offers (exceeded item.2)
      obtain ⟨error', last', aborted'⟩ := firstMatch_exceeds fuel node rest'
        (states.offers offers') (exceeded' item'.2)
      rw [aborted, aborted']
      exact .aborted

/-- Within the limit, the search ends at the item that matches, on both sides. -/
theorem abreast_firstMatch_within (consumes : ∀ name,
      Step.Abreast environment first grammar node Eq (consume environment (fuel + 1) node name)
        (consume { environment with registry } (fuel + 1) node name))
    (within : ∀ name, exceededLimit? environment (left.pushed name) = none) :
    Outcome.Abreast environment first (Picked (Permuted items) available available')
      (firstMatch (consume environment (fuel + 1)) node available left).outcome
      (firstMatch (consume { environment with registry } (fuel + 1)) node available'
        right).outcome := by
  let takes : String → Option Nat := fun item =>
    grammar.matchAt? environment.source item (left.tree.stop node)
  have within' : ∀ name, exceededLimit? { environment with registry } (right.pushed name) = none :=
    fun name => (states.pushed name name).exceededLimit?_eq.trans (within name)
  obtain ⟨next, aside, reached⟩ := firstMatch_reaches rfl fuel available takes ready.tree.rising
    ready.isOpen.inside ready.informed within fun item member => by
      obtain ⟨rule, token, offers, takes_eq⟩ :=
        ready.offers exchangeable (permuted.within item member)
      exact ⟨rule, token, offers, takes_eq _⟩
  have source_eq : ({ environment with registry } : Environment).source = environment.source := rfl
  obtain ⟨next', aside', reached'⟩ := firstMatch_reaches source_eq fuel available' takes
    (states.tree.rising ready.tree.rising) (states.tree.size_eq ▸ ready.isOpen.inside)
    states.informed within' fun item member => by
      obtain ⟨rule, token, offers, takes_eq⟩ :=
        ready.offers exchangeable (permuted.within' member)
      exact ⟨rule, token, states.offers offers, by rw [states.stop_eq]; exact takes_eq _⟩
  have states := aside.abreast aside' states
  rcases reached with ⟨declined, ended⟩ | ⟨item, member, accepted, rest, reached⟩
  · rcases reached' with ⟨-, ended'⟩ | ⟨item', member', accepted', -, -⟩
    · rw [ended, ended']
      exact .done .none states
    · obtain ⟨item, member, same⟩ := permuted.exists_left member'
      rw [← same, declined item member] at accepted'
      cases accepted'
  · rcases reached' with ⟨declined', -⟩ | ⟨item', member', accepted', rest', reached'⟩
    · obtain ⟨item', member', same⟩ := permuted.exists_right member
      rw [← same, declined' item' member'] at accepted
      cases accepted
    · have same : item'.2 = item.2 := exchangeable.apart item'.2 (permuted.within' member') item.2
        (permuted.within item member) _ accepted' accepted
      obtain ⟨rule, token, offers, takes_eq⟩ :=
        ready.offers exchangeable (permuted.within item member)
      obtain ⟨length, accepted⟩ := Option.isSome_iff_exists.mp accepted
      have accepted : token.matchAt? environment.source (next.tree.stop node) = some length := by
        rw [aside.tree_eq, takes_eq]
        exact accepted
      rw [reached, reached']
      exact abreast_firstMatch_cons consumes (aside.ready ready) states same (offers.aside aside)
        ((aside.exceededLimit?_eq _ item.2 item.2).trans (within item.2)) accepted
        (permuted.pick member member' same) rest rest'

end

/-- Of items that may be declared in any order the same is picked, whatever the order is. -/
theorem abreast_firstMatch_permuted (consumes : ∀ name,
      Step.Abreast environment first grammar node Eq (consume environment (fuel + 1) node name)
        (consume { environment with registry } (fuel + 1) node name))
    (exchangeable : grammar.Exchangeable environment first items)
    {available available' : List (Nat × String)}
    (permuted : Permuted items available available') :
    Step.Abreast environment first grammar node (Picked (Permuted items) available available')
      (firstMatch (consume environment (fuel + 1)) node available)
      (firstMatch (consume { environment with registry } (fuel + 1)) node available') := by
  intro left right ready states
  have limit_eq : ∀ name, exceededLimit? environment (left.pushed name) =
      exceededLimit? environment (left.pushed "") :=
    fun name => (Aside.refl left : Aside environment first _ _).exceededLimit?_eq _ _ _
  cases exceeded : exceededLimit? environment (left.pushed "") with
  | some limit =>
    exact abreast_firstMatch_exceeded exchangeable permuted ready states registry fuel
      fun name => (limit_eq name).trans exceeded
  | none =>
    exact abreast_firstMatch_within exchangeable permuted ready states consumes
      fun name => (limit_eq name).trans exceeded

end Rulebook.Parse
