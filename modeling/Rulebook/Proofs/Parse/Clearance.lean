/-
This file shows where whitespace is not skipped. After whitespace has been skipped at the end of a
node, no whitespace token of the grammar takes input there, and whoever tries these tokens again at
this offset learns the same, from the text or from the memo. So a rule that has taken nothing is
followed by no whitespace. An import skips the tokens of another grammar, and it is the only rule
that skips whitespace at a node before the node has taken something.
-/

import Rulebook.Proofs.Parse.Assembly
import Rulebook.Proofs.Parse.Keeping
import Rulebook.Proofs.Tree.Content

namespace Rulebook.Parse

open Match (Origin Tree)

variable {environment : Environment} {first : Grammar} {before middle after state : State}
  {node parent : Nat} {rule other : Rule} {token : TokenRule} {name : String} {matched : Bool}
  {outcome : Option Nat} {tokens : List Rule} {attempt : Step Bool}

/-! ### What is settled -/

/-- What is known in a state about a token at an offset, before the token is tried: what the memo
says, or what the token does if there is no memo. -/
def State.settled? (environment : Environment) (state : State) (rule : Rule) (offset : Nat) :
    Option (Option Nat) :=
  match state.memo with
  | some memo => memo.entries[(⟨rule.grammar, offset, rule.name⟩ : MemoKey)]?
  | none => rule.token?.map (·.matchAt? environment.source offset)

/-- What is settled stays settled. -/
def Remembers (environment : Environment) (before after : State) : Prop :=
  ∀ rule offset outcome, before.settled? environment rule offset = some outcome →
    after.settled? environment rule offset = some outcome

theorem Remembers.trans (left : Remembers environment before middle)
    (right : Remembers environment middle after) : Remembers environment before after :=
  fun rule offset outcome settled => right rule offset outcome (left rule offset outcome settled)

theorem Remembers.of_settled?_eq (same : ∀ rule offset,
    after.settled? environment rule offset = before.settled? environment rule offset) :
    Remembers environment before after := by
  intro rule offset outcome settled
  rwa [same]

theorem Remembers.of_eq (memo_eq : after.memo = before.memo) :
    Remembers environment before after :=
  .of_settled?_eq fun rule offset => by rw [State.settled?, State.settled?, memo_eq]

/-- The tree after a token has been tried as the next child of a node, given what it took. -/
def treeAfter (tree : Tree) (parent : Nat) (rule : Rule) : Option Nat → Tree
  | some length => (tree.attach parent (.rule rule)).matchToken tree.size length
  | none => tree

/-- What trying a token comes to, whether or not a memo answers for it. -/
structure TokenTried (environment : Environment) (rule : Rule) (parent : Nat) (before : State)
    (matched : Bool) (outcome : Option Nat) (after : State) : Prop where
  settled : after.settled? environment rule (before.tree.stop parent) = some outcome
  remembers : Remembers environment before after
  matched_eq : matched = outcome.isSome
  tree_eq : after.tree = treeAfter before.tree parent rule outcome

theorem done_tokenOutcome
    (done : tokenOutcome environment rule token parent before = .done matched after) :
    after.memo = before.memo ∧
      matched = (token.matchAt? environment.source (before.tree.stop parent)).isSome ∧
      after.tree = treeAfter before.tree parent rule
        (token.matchAt? environment.source (before.tree.stop parent)) := by
  rw [tokenOutcome] at done
  cases answer : token.matchAt? environment.source (before.tree.stop parent) with
  | none =>
    rw [answer] at done
    cases done
    exact ⟨rfl, rfl, rfl⟩
  | some length =>
    rw [answer] at done
    cases done
    exact ⟨rfl, rfl, rfl⟩

/-- A memo answers for a token, or it is told what the token does. -/
theorem tokenTried_attemptRemembering {memo : Memo} (ready : Ready environment first parent before)
    (present : before.memo = some memo)
    (outcome_eq : ∀ state, state.tree.Rising → parent < state.tree.size →
      (attempt state).outcome = tokenOutcome environment rule token parent state)
    (done : (attemptRemembering rule parent attempt before).outcome = .done matched after) :
    ∃ outcome, TokenTried environment rule parent before matched outcome after := by
  obtain ⟨key, key_eq⟩ : ∃ key : MemoKey,
    key = ⟨rule.grammar, before.tree.stop parent, rule.name⟩ := ⟨_, rfl⟩
  have entries_eq := Memo.lookup_entries memo key
  -- To ask settles nothing.
  have asked : ∀ state : State, state.memo = some (memo.lookup key).2 → ∀ rule offset,
      state.settled? environment rule offset = before.settled? environment rule offset := by
    intro state memo_eq rule offset
    rw [State.settled?, State.settled?, present, memo_eq]
    dsimp only
    rw [entries_eq]
  have told : before.settled? environment rule (before.tree.stop parent) =
      (memo.lookup key).1 := by
    rw [State.settled?, present, Memo.lookup_fst, key_eq]
  rw [outcome_attemptRemembering present rule parent attempt key_eq] at done
  match known : (memo.lookup key).1 with
  | some (some length) =>
    rw [known] at done told
    obtain ⟨rfl, after_eq⟩ := Outcome.done.inj done
    have same := asked after (by rw [← after_eq])
    exact ⟨some length, (same _ _).trans told, .of_settled?_eq same, rfl,
      by rw [← after_eq]; rfl⟩
  | some none =>
    rw [known] at done told
    obtain ⟨rfl, after_eq⟩ := Outcome.done.inj done
    have same := asked after (by rw [← after_eq])
    exact ⟨none, (same _ _).trans told, .of_settled?_eq same, rfl,
      by rw [← after_eq]; rfl⟩
  | none =>
    rw [known] at done told
    obtain ⟨answer, next, tried, done⟩ := Step.done_of_bind done
    have readyToo := ((meets_consult ready.toSound key : Run.Meets _ _ True _).returns _ _
      (outcome_consult present key)).1.ready ready
    have tried := (outcome_eq { before with memo := some (memo.lookup key).2 }
      ready.tree.rising ready.isOpen.inside).symm.trans tried
    have consumed_eq := consumed_tokenOutcome readyToo tried
    obtain ⟨memo_eq, matched_eq, tree_eq⟩ := done_tokenOutcome tried
    have same := asked next memo_eq
    rw [Step.outcome_read_bind, consumed_eq] at done
    obtain ⟨rfl, after_eq⟩ := Outcome.done.inj done
    have stored : after.memo = some ((memo.lookup key).2.store key
        (token.matchAt? environment.source (before.tree.stop parent))) := by
      rw [← after_eq]
      dsimp only
      rw [memo_eq]
      rfl
    refine ⟨_, ?_, fun other offset outcome settled => ?_, matched_eq,
      by rw [← after_eq]; exact tree_eq⟩
    · rw [State.settled?, stored]
      dsimp only
      rw [← key_eq, Memo.store, Std.HashMap.getElem?_insert_self]
    · have distinct : key ≠ ⟨other.grammar, offset, other.name⟩ := by
        intro clash
        rw [State.settled?, present] at settled
        dsimp only at settled
        rw [← clash, ← Memo.lookup_fst, known] at settled
        cases settled
      rw [State.settled?, stored]
      dsimp only
      rw [Memo.store, Std.HashMap.getElem?_insert, beq_false_of_ne distinct, entries_eq,
        if_neg Bool.false_ne_true]
      rwa [State.settled?, present] at settled

/-- Trying a token settles what it does at an offset, for good. -/
theorem tokenTried_attemptMemoized (ready : Ready environment first parent before)
    (isToken : rule.token? = some token)
    (outcome_eq : ∀ state, state.tree.Rising → parent < state.tree.size →
      (attempt state).outcome = tokenOutcome environment rule token parent state)
    (done : (attemptMemoized rule parent attempt before).outcome = .done matched after) :
    ∃ outcome, TokenTried environment rule parent before matched outcome after := by
  rw [outcome_attemptMemoized, Rule.isToken_of_token? isToken, Bool.and_true] at done
  cases present : before.memo with
  | none =>
    rw [present, Option.isSome_none, if_neg Bool.false_ne_true,
      outcome_eq before ready.tree.rising ready.isOpen.inside] at done
    obtain ⟨memo_eq, matched_eq, tree_eq⟩ := done_tokenOutcome done
    refine ⟨_, ?_, .of_eq memo_eq, matched_eq, tree_eq⟩
    rw [State.settled?, memo_eq, present, isToken]
    rfl
  | some memo =>
    rw [present, Option.isSome_some, if_pos rfl] at done
    exact tokenTried_attemptRemembering ready present outcome_eq done

/-- What was settled before is what the token does. -/
theorem TokenTried.agrees
    (told : TokenTried environment rule parent before matched outcome after)
    {known : Option Nat}
    (settled : before.settled? environment rule (before.tree.stop parent) = some known) :
    outcome = known :=
  Option.some.inj (told.settled.symm.trans (told.remembers _ _ _ settled))

/-! ### Whitespace that is not skipped -/

/-- It is settled that a token takes nothing at an offset. -/
def Spent (environment : Environment) (state : State) (offset : Nat) (rule : Rule) : Prop :=
  rule.isToken = true → ∃ outcome, state.settled? environment rule offset = some outcome ∧
    outcome.getD 0 = 0

/-- It is settled that no whitespace is skipped at the end of a node. -/
def Cleared (environment : Environment) (node : Nat) (state : State) : Prop :=
  state.grammar.whitespaceDisabled = false → ∀ rule ∈ state.grammar.whitespaceTokens,
    Spent environment state (state.tree.stop node) rule

theorem Spent.remembered {offset : Nat} (spent : Spent environment before offset rule)
    (remembers : Remembers environment before after) : Spent environment after offset rule := by
  intro isToken
  obtain ⟨outcome, settled, nothing⟩ := spent isToken
  exact ⟨outcome, remembers _ _ _ settled, nothing⟩

theorem Cleared.remembered (clear : Cleared environment node before)
    (remembers : Remembers environment before after) (grammar_eq : after.grammar = before.grammar)
    (stop_eq : after.tree.stop parent = before.tree.stop node) :
    Cleared environment parent after := by
  intro enabled rule member
  rw [grammar_eq] at enabled member
  rw [stop_eq]
  exact (clear enabled rule member).remembered remembers

/-- Some whitespace tokens have been tried at the end of a node. Either all of them take nothing,
or one of them was skipped, and it was not settled before that it takes nothing. -/
structure Spends (environment : Environment) (parent : Nat) (tokens : List Rule) (before : State)
    (skipped : Bool) (after : State) : Prop where
  remembers : Remembers environment before after
  spent : skipped = false →
    ∀ rule ∈ tokens, Spent environment after (before.tree.stop parent) rule
  rests : (∀ rule ∈ tokens, Spent environment before (before.tree.stop parent) rule) →
    skipped = false

theorem spends_skipOne (faithful : environment.source.Faithful)
    (ready : Ready environment first parent state)
    (known : ∀ rule ∈ tokens, Known environment first rule) {skipped : Bool}
    (done : (skipOne environment parent tokens state).outcome = .done skipped after) :
    Spends environment parent tokens state skipped after := by
  induction tokens generalizing state with
  | nil =>
    cases done
    exact ⟨.of_eq rfl, fun _ _ absurd => (by cases absurd), fun _ => rfl⟩
  | cons rule rest inductionHypothesis =>
    rw [skipOne, Step.stop, Step.outcome_read_bind] at done
    obtain ⟨matched, next, tried, done⟩ := Step.done_of_bind done
    have blank : BlankTried environment first rule parent state matched next :=
      (meets_attemptBlank faithful ready (known rule List.mem_cons_self) :
        Run.Meets _ _ True _).returns _ _ tried
    -- A token that takes nothing leaves it to the others.
    have goOn : ∀ middle, Still environment first state middle →
        Remembers environment state middle →
        Spent environment middle (state.tree.stop parent) rule →
        (skipOne environment parent rest middle).outcome = .done skipped after →
          Spends environment parent (rule :: rest) state skipped after := by
      intro middle still remembers spent done
      have spends := inductionHypothesis (still.ready ready)
        (fun other member => known other (List.mem_cons_of_mem _ member)) done
      have stop_eq : middle.tree.stop parent = state.tree.stop parent := by rw [still.tree_eq]
      refine ⟨remembers.trans spends.remembers, fun nothing other member => ?_, fun all => ?_⟩
      · rcases List.mem_cons.mp member with rfl | member
        · exact spent.remembered spends.remembers
        · rw [← stop_eq]
          exact spends.spent nothing other member
      · refine spends.rests fun other member => ?_
        rw [stop_eq]
        exact (all other (List.mem_cons_of_mem _ member)).remembered remembers
    rw [attemptBlank] at tried
    cases isToken : rule.token? with
    | none =>
      rw [isToken] at tried
      cases tried
      refine goOn state (.refl ready.toSound) (.of_eq rfl) (fun absurd => ?_) done
      rw [Rule.isToken, isToken] at absurd
      cases absurd
    | some token =>
      rw [isToken] at tried
      obtain ⟨outcome, told⟩ := tokenTried_attemptMemoized ready isToken
        (fun _ rising inside => outcome_attemptWith_token rising inside) tried
      have matched_eq := told.matched_eq
      cases outcome with
      | none =>
        subst matched_eq
        exact goOn next ⟨blank.toKept, blank.restored rfl⟩ told.remembers
          (fun _ => ⟨none, told.settled, rfl⟩) done
      | some length =>
        subst matched_eq
        have stop_eq : next.tree.stop parent = state.tree.stop parent + length := by
          rw [told.tree_eq]
          exact stop_attached_matchToken ready rule length
        rw [Option.isSome_some, if_pos rfl] at done
        rw [Step.outcome_read_bind, stop_eq] at done
        by_cases further : state.tree.stop parent < state.tree.stop parent + length
        · rw [if_pos further] at done
          cases done
          refine ⟨told.remembers.trans (.of_eq rfl), fun absurd => (by cases absurd),
            fun all => ?_⟩
          obtain ⟨known, settled, nothing⟩ :=
            all rule List.mem_cons_self (Rule.isToken_of_token? isToken)
          rw [← told.agrees settled, Option.getD_some] at nothing
          omega
        · rw [if_neg further] at done
          refine goOn _ (still_discardLast ready blank.toKept (blank.grown rfl))
            (told.remembers.trans (.of_eq rfl)) (fun _ => ⟨some length, told.settled, ?_⟩)
            done
          rw [Option.getD_some]
          omega

/-- Whitespace tokens are skipped until all of them take nothing, and if that is settled already,
then none is skipped. -/
theorem spends_skipAll (faithful : environment.source.Faithful)
    (ready : Ready environment first parent state)
    (known : ∀ rule ∈ tokens, Known environment first rule) {rounds : Nat}
    (done : (skipAll environment parent tokens rounds state).outcome = .done () after) :
    Remembers environment state after ∧
      (∀ rule ∈ tokens, Spent environment after (after.tree.stop parent) rule) ∧
      ((∀ rule ∈ tokens, Spent environment state (state.tree.stop parent) rule) →
        after.tree = state.tree) := by
  induction rounds generalizing state with
  | zero => cases done
  | succ rounds inductionHypothesis =>
    rw [skipAll] at done
    obtain ⟨skipped, next, trying, done⟩ := Step.done_of_bind done
    have spends := spends_skipOne faithful ready known trying
    have round : SkippedOne environment first parent state skipped next :=
      (meets_skipOne faithful ready known : Run.Meets _ _ True _).returns _ _ trying
    cases skipped with
    | false =>
      cases done
      have tree_eq := (round.rests rfl).tree_eq
      refine ⟨spends.remembers, ?_, fun _ => tree_eq⟩
      rw [tree_eq]
      exact spends.spent rfl
    | true =>
      obtain ⟨remembers, spent, -⟩ := inductionHypothesis (round.skips rfl).1.ready done
      refine ⟨spends.remembers.trans remembers, spent, fun all => ?_⟩
      cases spends.rests all

theorem clear_of_skipWhitespace (faithful : environment.source.Faithful)
    (ready : Ready environment first parent state)
    (done : (skipWhitespace environment parent state).outcome = .done () after) :
    Remembers environment state after ∧ Cleared environment parent after ∧
      (Cleared environment parent state → after.tree = state.tree) := by
  have skipped := skipped_of_done faithful ready done
  rw [skipWhitespace, Step.outcome_read_bind] at done
  cases disabled : state.grammar.whitespaceDisabled with
  | true =>
    rw [disabled] at done
    cases done
    refine ⟨.of_eq rfl, fun enabled => ?_, fun _ => rfl⟩
    rw [disabled] at enabled
    cases enabled
  | false =>
    rw [disabled] at done
    obtain ⟨remembers, spent, rests⟩ :=
      spends_skipAll faithful ready (known_whitespaceTokens ready.grammar) done
    refine ⟨remembers, fun _ => ?_, fun clear => rests (clear disabled)⟩
    rw [skipped.grammar_eq]
    exact spent

/-! ### Work that leaves no whitespace at the beginning -/

/-- Work at a node has left no whitespace to be skipped at its end. It has skipped none before the
node had taken something, nor has any work below the node, imports apart. -/
structure Tidies (environment : Environment) (node : Nat) (before after : State) : Prop where
  remembers : Remembers environment before after
  clear : Cleared environment node after
  tight : before.tree.Tight node → after.tree.Tight node
  trim : ∀ id, node < id → before.tree.Trim id → after.tree.Trim id

namespace Tidies

theorem trans (left : Tidies environment node before middle)
    (right : Tidies environment node middle after) : Tidies environment node before after where
  remembers := left.remembers.trans right.remembers
  clear := right.clear
  tight tight := right.tight (left.tight tight)
  trim id above trim := right.trim id above (left.trim id above trim)

theorem of_same (same : SameBut before after) (clear : Cleared environment node before) :
    Tidies environment node before after where
  remembers := .of_eq same.memo_eq
  clear := clear.remembered (.of_eq same.memo_eq) same.grammar_eq (by rw [same.tree_eq])
  tight tight := by rwa [same.tree_eq]
  trim id _ trim := by rwa [same.tree_eq]

end Tidies

/-- A way of matching rules that leaves no whitespace at the beginning of matches. -/
def Neat (environment : Environment) (first : Grammar) (consume : Consume) : Prop :=
  ∀ node name state matched after, Ready environment first node state →
    Cleared environment node state → (consume node name state).outcome = .done matched after →
      Tidies environment node state after

/-- Where nothing has been taken, no whitespace is skipped. -/
theorem tidies_skipWhitespace (faithful : environment.source.Faithful)
    (ready : Ready environment first node state)
    (settled : Cleared environment node state ∨
      (state.tree.node node).start < state.tree.stop node)
    (done : (skipWhitespace environment node state).outcome = .done () after) :
    Tidies environment node state after := by
  have skipped := skipped_of_done faithful ready done
  obtain ⟨remembers, clear, rests⟩ := clear_of_skipWhitespace faithful ready done
  refine ⟨remembers, clear, fun tight => ?_, fun id above trim => ?_⟩
  · rcases settled with nothing | taken
    · rwa [rests nothing]
    · exact tight.trailed ready.tree skipped.trailed ready.isOpen skipped.sound.tree
        skipped.isOpen skipped.grown taken
  · exact trim.grown_of_childless ready.tree skipped.grown
      (fun _ new => skipped.trailed.childless ready.tree skipped.sound.tree skipped.grown new)
      above

/-- The mark of a missing item takes nothing. -/
theorem tidies_leaveOut (ready : Ready environment first node state)
    (clear : Cleared environment node state)
    (done : (leaveOut environment node name state).outcome = .done () after) :
    Tidies environment node state after := by
  have inside := ready.isOpen.inside
  have grown : Tree.Grown node state.tree (state.tree.attach node (.lambda name)) :=
    Tree.grown_attach ready.tree.rising inside
  have attached := (working_attach (.refl ready) (.lambda name)).sound.tree
  have fresh : Tree.Grown state.tree.size (state.tree.attach node (.lambda name))
      (state.tree.attach node (.lambda name)) :=
    .refl grown.rising (by rw [Tree.size_attach]; exact Nat.lt_succ_self _)
  have marked : Tidies environment node state
      { state with tree := state.tree.attach node (.lambda name) } :=
    ⟨.of_eq rfl, clear.remembered (.of_eq rfl) rfl (Tree.stop_attach inside),
      fun tight => tight.grown_child ready.tree attached inside fresh,
      fun _ above trim => trim.grown_of_childless ready.tree grown
        (fun _ new => Tree.childless_attach inside new) above⟩
  exact marked.trans (.of_same (sameBut_of_leaveOut done) marked.clear)

/-! ### Rules that are no tokens -/

section

variable {consume : Consume} (reliable : Reliable environment first (fun _ => True) consume)
  (neat : Neat environment first consume)
include reliable neat

/-- Each step of a rule at its node is neat. -/
theorem keptAt_tidies : KeptAt environment consume node fun state =>
    Working environment first node before state ∧ Tidies environment node before state where
  asking name := by
    rintro state matched after ⟨working, tidies⟩ done
    have answered := (reliable node name state working.ready).returns _ _ done
    exact ⟨working.answered answered,
      tidies.trans (neat node name state matched after working.ready tidies.clear done)⟩
  noting index := by
    rintro state _ after ⟨working, tidies⟩ done
    exact ⟨(meets_setAlternative working index : Run.Meets _ _ True _).returns _ _ done,
      tidies.trans (.of_same (sameBut_of_setAlternative done) tidies.clear)⟩
  leaving name := by
    rintro state _ after ⟨working, tidies⟩ done
    exact ⟨(meets_leaveOut working name : Run.Meets _ _ True _).returns _ _ done,
      tidies.trans (tidies_leaveOut working.ready tidies.clear done)⟩

/-- The work of a rule leaves no whitespace at the beginning of its match, or the rule is an
import; and it leaves none at the beginning of what is below. -/
theorem trim_perform (faithful : environment.source.Faithful) {budget : Nat}
    (notToken : rule.isToken = false) (ready : Ready environment first node state)
    (clear : Cleared environment node state)
    (isRule : (state.tree.node node).origin = .rule rule)
    (childless : ∀ id, node ≤ id → (state.tree.node id).children = #[])
    (done : (perform environment consume budget rule node state).outcome = .done matched after) :
    Remembers environment state after ∧ ∀ id, node ≤ id → after.tree.Trim id := by
  cases isImport : rule.isImport with
  | false =>
    have begun : Working environment first node state state ∧
        Tidies environment node state state :=
      ⟨.refl ready, .of_same ⟨rfl, rfl, rfl⟩ clear⟩
    obtain ⟨-, tidies⟩ := (keptAt_tidies reliable neat).perform budget notToken isImport
      state matched after begun done
    refine ⟨tidies.remembers, fun id above => ?_⟩
    rcases Nat.eq_or_lt_of_le above with rfl | less
    · exact .inr (tidies.tight (Tree.tight_of_childless (childless _ above)))
    · exact tidies.trim id less (Tree.trim_of_childless (childless id above))
  | true =>
    have worked := (meets_perform faithful reliable budget ready (childless node (Nat.le_refl _))
      isRule (.inl trivial)).returns _ _ done
    obtain ⟨grammar, inner, skipped, last, entered, skipping, asking, rfl⟩ :=
      import_of_done isImport ready done
    have blanks := skipped_of_done faithful entered skipping
    obtain ⟨remembers, clear, -⟩ := clear_of_skipWhitespace faithful entered skipping
    have tidies := neat node inner skipped matched last blanks.ready clear asking
    refine ⟨remembers.trans (tidies.remembers.trans (.of_eq rfl)), fun id above => ?_⟩
    rcases Nat.eq_or_lt_of_le above with rfl | less
    · refine .inl ?_
      rw [Match.Node.isImport, Match.Node.rule?,
        (worked.grown.start_eq ready.isOpen.inside).2.1, isRule]
      exact isImport
    · have bare : state.tree.Trim id := Tree.trim_of_childless (childless id above)
      exact tidies.trim id less (bare.grown_of_childless ready.tree blanks.grown (fun _ new =>
        blanks.trailed.childless ready.tree blanks.sound.tree blanks.grown new) less)

/-- An attempt settles what it settles for good. If it succeeds, then no whitespace stands at the
beginning of the match, or of what is below, imports apart. -/
theorem tidies_attempt (faithful : environment.source.Faithful) {budget : Nat}
    (ready : Ready environment first node before) (clear : Cleared environment node before)
    (tried : Tried environment first rule node before matched after)
    (done : (attemptMemoized rule node (attemptWith rule node
      (perform environment consume budget rule)) before).outcome = .done matched after) :
    Remembers environment before after ∧ (matched = true →
      (before.tree.Tight node → after.tree.Tight node) ∧
        ∀ id, node < id → before.tree.Trim id → after.tree.Trim id) := by
  have inside := ready.isOpen.inside
  have tight : matched = true → before.tree.Tight node → after.tree.Tight node :=
    fun success tight =>
      tight.grown_child ready.tree tried.sound.tree inside (tried.grown success)
  cases isToken : rule.isToken with
  | true =>
    obtain ⟨token, isToken'⟩ := Option.isSome_iff_exists.mp isToken
    obtain ⟨outcome, told⟩ := tokenTried_attemptMemoized ready isToken'
      (fun state rising within => by
        rw [perform_of_token? isToken']
        exact outcome_attemptWith_token rising within) done
    refine ⟨told.remembers, fun success => ⟨tight success, fun id above trim => ?_⟩⟩
    subst success
    refine trim.grown_of_childless ready.tree (tried.working ready).1.grown (fun id new => ?_) above
    by_cases within : id < after.tree.size
    · exact (tried.sound.tree.terminal id (terminal_of_token ready isToken tried new within)).1
    · rw [Tree.node_of_size_le (Nat.le_of_not_lt within)]
      rfl
  | false =>
    obtain ⟨next, performed, memo_eq, -, same⟩ := attempt_of_done isToken done
    have attached := ready_attach ready (.rule rule)
    have stop_eq : (before.tree.attach node (.rule rule)).stop before.tree.size =
        before.tree.stop node := Tree.stop_attach_new inside
    obtain ⟨remembers, trim⟩ := trim_perform reliable neat faithful isToken attached
      (clear.remembered (.of_eq rfl) rfl stop_eq)
      (by rw [Tree.node_attach_new inside]) (fun _ new => Tree.childless_attach inside new)
      performed
    refine ⟨Remembers.trans (.of_eq rfl) (remembers.trans (.of_eq memo_eq)),
      fun success => ⟨tight success, fun id above trimmed => ?_⟩⟩
    by_cases old : id < before.tree.size
    · exact trimmed.grown ready.tree
        ((tried.grown success).of_child ready.tree.rising inside) above old
    · rw [same success]
      exact trim id (Nat.le_of_not_lt old)

end

/-! ### The operation itself -/

/-- A request for a rule leaves no whitespace at the beginning of matches, imports apart. -/
theorem neat_consume (faithful : environment.source.Faithful) (fuel : Nat) :
    Neat environment first (Parse.consume environment fuel) := by
  induction fuel with
  | zero => exact fun _ _ _ _ _ _ _ done => by cases done
  | succ fuel inductionHypothesis =>
    intro node name state matched after ready clear done
    have reliable : Reliable environment first (fun _ => True) (Parse.consume environment fuel) :=
      reliable_consume faithful (excuses_always environment first) fuel
    obtain ⟨rule, entered, middle, stages⟩ := exists_stages faithful ready done
    have there := stages.ready
    have tried := stages.tried
    have began : Tidies environment node state entered := .of_same stages.noted clear
    obtain ⟨remembers, tidied⟩ := tidies_attempt reliable inductionHypothesis faithful there
      began.clear tried stages.attempted
    cases matched with
    | false =>
      have same := stages.failed rfl
      have tree_eq := same.tree_eq.trans (tried.restored rfl)
      have remembers := remembers.trans (.of_eq same.memo_eq)
      exact began.trans ⟨remembers, began.clear.remembered remembers
        (same.grammar_eq.trans tried.grammar_eq) (by rw [tree_eq]),
        fun tight => (by rwa [tree_eq]), fun _ _ trim => by rwa [tree_eq]⟩
    | true =>
      obtain ⟨tight, trim⟩ := tidied rfl
      obtain ⟨skipped, skipping, settled⟩ := stages.succeeded rfl
      have here := (tried.working there).1
      -- If the match took nothing, then there is still no whitespace behind it.
      have settles : Cleared environment node middle ∨
          (middle.tree.node node).start < middle.tree.stop node := by
        have spans := (there.tree.spans node there.isOpen.inside).2.2
        rcases Nat.eq_or_lt_of_le here.grown.stop_le with same | further
        · exact .inl (began.clear.remembered remembers tried.grammar_eq same.symm)
        · rw [(here.grown.start_eq there.isOpen.inside).1]
          exact .inr (Nat.lt_of_le_of_lt spans further)
      have skips := tidies_skipWhitespace faithful here.ready settles skipping
      have left : Tidies environment node entered skipped :=
        ⟨remembers.trans skips.remembers, skips.clear, fun before => skips.tight (tight before),
          fun id above before => skips.trim id above (trim id above before)⟩
      exact (began.trans left).trans (.of_same settled left.clear)

/-- In a finished tree, only imports begin with whitespace, apart from the root. -/
theorem trim_of_done (faithful : environment.source.Faithful) {fuel : Nat}
    (done : (begin environment fuel name (State.initial first environment.options)).outcome =
      .done matched after) : ∀ id, id ≠ Tree.root → after.tree.Trim id := by
  have ready := ready_initial environment first
  obtain ⟨_, middle, skipping, asking⟩ := Step.done_of_bind done
  have skipped := skipped_of_done faithful ready skipping
  obtain ⟨-, clear, -⟩ := clear_of_skipWhitespace faithful ready skipping
  have tidies := neat_consume faithful fuel _ name middle matched after skipped.ready clear asking
  intro id notRoot
  have above : Tree.root < id := Nat.pos_of_ne_zero notRoot
  have empty : (State.initial first environment.options).tree.Trim id := by
    refine Tree.trim_of_childless ?_
    rw [Tree.node_of_size_le]
    · rfl
    · exact above
  exact tidies.trim id above (empty.grown_of_childless ready.tree skipped.grown
    (fun _ new => skipped.trailed.childless ready.tree skipped.sound.tree skipped.grown new) above)

end Rulebook.Parse
