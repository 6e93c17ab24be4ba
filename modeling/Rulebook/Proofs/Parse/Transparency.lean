/-
This file shows that the memo is transparent: a parse answers the same whether it remembers
what its tokens did or not. An outcome is remembered under the name of a grammar, the name of
a rule and an offset, so what could go wrong is that two tokens share their names and differ.
Within a grammar, and among published grammars, they cannot. A grammar that is parsed with
without being published may share its name with one that is, and the two have to agree about
the tokens that both declare.
-/

import Rulebook.Proofs.Grammar.Provenance
import Rulebook.Proofs.Parse.Lockstep
import Rulebook.Workspace

namespace Rulebook

open Match (Tree)

/-! ### Tokens that go by the same names -/

/-- Two tokens were declared by the same pattern and compiled with the same setting for
case. -/
def TokenRule.Alike (compile : Compiler) (left right : TokenRule) : Prop :=
  left.pattern = right.pattern ∧ ∃ ignoreCase,
    compile left.pattern ignoreCase = some left.program ∧
      compile right.pattern ignoreCase = some right.program

/-- Two grammars declare the same tokens, as far as both declare a token of some name. -/
def Grammar.TokensAlike (compile : Compiler) (left right : Grammar) : Prop :=
  ∀ name rule rule' token token', left.rule? name = some rule → right.rule? name = some rule' →
    rule.token? = some token → rule'.token? = some token' → token.Alike compile token'

theorem TokenRule.Alike.symm {compile : Compiler} {left right : TokenRule}
    (alike : left.Alike compile right) : right.Alike compile left := by
  obtain ⟨pattern_eq, ignoreCase, compiled, compiled'⟩ := alike
  exact ⟨pattern_eq.symm, ignoreCase, compiled', compiled⟩

theorem Grammar.TokensAlike.symm {compile : Compiler} {left right : Grammar}
    (alike : left.TokensAlike compile right) : right.TokensAlike compile left :=
  fun name rule rule' token token' found found' isToken isToken' =>
    (alike name rule' rule token' token found' found isToken' isToken).symm

theorem TokenRule.Alike.matchAt?_eq {compile : Compiler} {left right : TokenRule}
    (alike : left.Alike compile right) (source : Source) (offset : Nat) :
    left.matchAt? source offset = right.matchAt? source offset := by
  obtain ⟨pattern_eq, ignoreCase, compiled, compiled'⟩ := alike
  rw [pattern_eq, compiled'] at compiled
  rw [TokenRule.matchAt?, TokenRule.matchAt?, Option.some.inj compiled]

/-- A rule goes by the name under which it is found, in the grammar that was looked in. -/
theorem Grammar.Built.rule?_names {compile : Compiler} {grammar : Grammar}
    (built : grammar.Built compile) {name : String} {rule : Rule}
    (found : grammar.rule? name = some rule) :
    rule.name = name ∧ rule.grammar = grammar.name := by
  have named := List.find?_some found
  exact ⟨eq_of_beq named, (built.declared rule (List.mem_of_find?_eq_some found)).1⟩

theorem Grammar.Built.tokensAlike_self {compile : Compiler} {grammar : Grammar}
    (built : grammar.Built compile) : grammar.TokensAlike compile grammar := by
  intro name rule rule' token token' found found' isToken isToken'
  rw [found] at found'
  rw [← Option.some.inj found', isToken] at isToken'
  rw [← Option.some.inj isToken']
  obtain ⟨ignoreCase, compiled⟩ :=
    (built.declared rule (List.mem_of_find?_eq_some found)).2 token isToken
  exact ⟨rfl, ignoreCase, compiled, compiled⟩

namespace Parse

variable {environment : Environment} {first : Grammar} {left right : State}
  {spared : Option ParseError → Prop} {memos : Option Memo → Option Memo → Prop}
  {rule : Rule} {token : TokenRule} {parent : Nat}

/-- All tokens that a parse may come to and that go by the same names do the same. -/
def Uniform (environment : Environment) (first : Grammar) : Prop :=
  ∀ rule rule' token token', Known environment first rule → Known environment first rule' →
    rule.token? = some token → rule'.token? = some token' → rule.grammar = rule'.grammar →
      rule.name = rule'.name → ∀ offset,
        token.matchAt? environment.source offset = token'.matchAt? environment.source offset

theorem built_of_active {compile : Compiler} (built : first.Built compile)
    (published : environment.registry.Built compile) {grammar : Grammar}
    (active : Active environment first grammar) : grammar.Built compile := by
  rcases active with rfl | ⟨name, found⟩
  · exact built
  · exact (published.of_lookup? found).1

/-- Grammars that a parse may come to and that share a name declare the same tokens. -/
theorem tokensAlike_of_active {compile : Compiler} (built : first.Built compile)
    (published : environment.registry.Built compile)
    (alike : ∀ other, environment.registry.lookup? first.name = some other →
      first.TokensAlike compile other)
    {grammar other : Grammar} (active : Active environment first grammar)
    (active' : Active environment first other) (named : grammar.name = other.name) :
    grammar.TokensAlike compile other := by
  have self := (built_of_active built published active).tokensAlike_self
  rcases active with rfl | ⟨name, found⟩
  · rcases active' with rfl | ⟨name', found'⟩
    · exact self
    · obtain ⟨-, rfl⟩ := published.of_lookup? found'
      rw [← named] at found'
      exact alike other found'
  · obtain ⟨-, rfl⟩ := published.of_lookup? found
    rcases active' with rfl | ⟨name', found'⟩
    · rw [named] at found
      exact (alike grammar found).symm
    · obtain ⟨-, rfl⟩ := published.of_lookup? found'
      rw [← named, found] at found'
      rw [← Option.some.inj found']
      exact self

theorem uniform_of_built {compile : Compiler} (built : first.Built compile)
    (published : environment.registry.Built compile)
    (alike : ∀ other, environment.registry.lookup? first.name = some other →
      first.TokensAlike compile other) : Uniform environment first := by
  intro rule rule' token token' known known' isToken isToken' grammar_eq name_eq offset
  obtain ⟨grammar, name, active, found⟩ := known
  obtain ⟨other, name', active', found'⟩ := known'
  have names := (built_of_active built published active).rule?_names found
  have names' := (built_of_active built published active').rule?_names found'
  rw [names.2, names'.2] at grammar_eq
  rw [names.1, names'.1] at name_eq
  subst name_eq
  have alike := tokensAlike_of_active built published alike active active' grammar_eq
  exact (alike name rule rule' token token' found found' isToken isToken').matchAt?_eq _ _

/-! ### Answers of the memo -/

/-- The second side remembers nothing. -/
def Forgets (_ other : Option Memo) : Prop :=
  other = none

theorem agrees_tokenOutcome (agree : left.Agrees memos right) (rule : Rule) (token : TokenRule)
    (parent : Nat) :
    Outcome.Agrees spared memos (tokenOutcome environment rule token parent left)
      (tokenOutcome environment rule token parent right) := by
  rw [tokenOutcome, tokenOutcome, agree.view_eq (·.tree.stop parent) fun _ _ => rfl]
  cases token.matchAt? environment.source (left.tree.stop parent) with
  | none => exact .done agree
  | some length => exact .done ⟨by rw [agree.right_eq], agree.memos⟩

/-- What the memo does is not seen by the side that remembers nothing. -/
theorem State.Agrees.forgetting (agree : left.Agrees Forgets right) (memo : Option Memo) :
    State.Agrees Forgets { left with memo } right :=
  ⟨agree.right_eq, agree.memos⟩

/-- Work that changes the memo alone may follow on the first side. -/
theorem Outcome.Agrees.forgetting {Value : Type} {attempt : Step Value}
    {second : Value → Step Value} {outcome : Outcome Value}
    (agrees : Outcome.Agrees spared Forgets (attempt left).outcome outcome)
    (harmless : ∀ value state, ∃ memo,
      (second value state).outcome = .done value { state with memo }) :
    Outcome.Agrees spared Forgets ((attempt >>= second) left).outcome outcome := by
  generalize ended : (attempt left).outcome = outcome' at agrees
  cases agrees with
  | @done value state _ agree =>
    obtain ⟨memo, same⟩ := harmless value state
    rw [(Step.bind_of_done second ended).1, same]
    exact .done (agree.forgetting memo)
  | aborted agree =>
    rw [(Step.bind_of_aborted second ended).1]
    exact .aborted agree
  | exhausted =>
    rw [(Step.bind_of_exhausted second ended).1]
    exact .exhausted
  | sparedExhaustion holds =>
    rw [(Step.bind_of_exhausted second ended).1]
    exact .sparedExhaustion holds
  | sparedAbortion holds =>
    rw [(Step.bind_of_aborted second ended).1]
    exact .sparedAbortion holds

/-- What the memo knows of a token is what the token does. -/
theorem matchAt?_eq_of_lookup (uniform : Uniform environment first)
    (sound : Sound environment first left) (known : Known environment first rule)
    (isToken : rule.token? = some token) {memo : Memo} (present : left.memo = some memo)
    {offset : Nat} {outcome : Option Nat}
    (answer : (memo.lookup ⟨rule.grammar, offset, rule.name⟩).1 = some outcome) :
    token.matchAt? environment.source offset = outcome := by
  rw [Memo.lookup_fst] at answer
  obtain ⟨other, token', known', isToken', grammar_eq, name_eq, remembered⟩ :=
    sound.memo memo present _ outcome answer
  exact (uniform rule other token token' known known' isToken isToken' grammar_eq name_eq
    offset).trans remembered

/-- A token that is looked up in the memo, or tried and remembered, does what it does. -/
theorem agrees_attemptRemembering (uniform : Uniform environment first)
    (ready : Ready environment first parent left) (known : Known environment first rule)
    (isToken : rule.token? = some token) {attempt : Step Bool}
    (tries : Tries environment first left.grammar (fun _ => True) rule parent attempt)
    {memo : Memo} (present : left.memo = some memo) (agree : left.Agrees Forgets right) :
    Outcome.Agrees spared Forgets (attemptRemembering rule parent attempt left).outcome
      (tokenOutcome environment rule token parent right) := by
  let key : MemoKey := ⟨rule.grammar, left.tree.stop parent, rule.name⟩
  have consulted := outcome_consult present key
  have told : (consult key left).Meets (Proper environment first) True fun known after =>
      Still environment first left after ∧
        ∀ outcome, known = some outcome → Recalls environment first key outcome :=
    meets_consult ready.toSound key
  have nextReady := (told.returns _ _ consulted).1.ready ready
  have agree := agree.forgetting (some (memo.lookup key).2)
  have agrees : Outcome.Agrees spared Forgets (tokenOutcome environment rule token parent _)
      (tokenOutcome environment rule token parent right) :=
    agrees_tokenOutcome agree rule token parent
  rw [outcome_attemptRemembering present rule parent attempt rfl]
  cases answer : (memo.lookup key).1 with
  | some outcome =>
    have truthful := matchAt?_eq_of_lookup uniform ready.toSound known isToken present answer
    rw [tokenOutcome, truthful] at agrees
    cases outcome with
    | some length => exact agrees
    | none => exact agrees
  | none =>
    rw [← tries.outcome_eq token isToken _ nextReady.tree.rising nextReady.isOpen.inside] at agrees
    exact agrees.forgetting fun matched state => ⟨_, rfl⟩

/-- If tokens that share their names do the same, the memo makes no difference. -/
theorem replays_of_uniform (uniform : Uniform environment first) :
    Replays environment first spared Forgets := by
  intro rule parent attempt attempt' left right known tries tokens ready agree attempts
  have forgotten : right.memo = none := agree.memos
  have tree_eq : right.tree = left.tree := agree.view_eq (·.tree) fun _ _ => rfl
  have key_eq : Moment.key? ⟨.tried parent rule, right⟩ =
      Moment.key? ⟨.tried parent rule, left⟩ := by
    rw [Moment.key?, Moment.key?, tree_eq]
  unfold attemptMemoized
  refine agrees_note_bind key_eq (agrees_read_views ?_)
  rw [forgotten, Option.isSome_none, Bool.false_and, if_neg Bool.false_ne_true]
  split
  · rename_i remembered
    rw [Bool.and_eq_true] at remembered
    obtain ⟨memo, present⟩ := Option.isSome_iff_exists.mp remembered.1
    obtain ⟨token, isToken⟩ := Option.isSome_iff_exists.mp remembered.2
    obtain ⟨tokenless, tokenless', outcome_eq⟩ := tokens token isToken
    refine .of_tokenless (tokenless_attemptRemembering rule parent tokenless) tokenless' ?_
    rw [outcome_eq right (tree_eq ▸ ready.tree.rising) (tree_eq ▸ ready.isOpen.inside)]
    exact agrees_attemptRemembering uniform ready known isToken tries present agree
  · exact attempts _ _ ready rfl agree

/-! ### Whole parses -/

/-- Two answers are the same in everything but how often the memo was of use. -/
inductive Answer.Same : Answer → Answer → Prop where
  | parsed {left right : ParseTree} (source_eq : right.source = left.source)
    (tree_eq : right.tree = left.tree) (ast_eq : right.toAst = left.toAst)
    (calls_eq : right.statistics.calls = left.statistics.calls)
    (found_eq : right.statistics.found = left.statistics.found)
    (notFound_eq : right.statistics.notFound = left.statistics.notFound) :
    Same (.parsed left) (.parsed right)
  | failed (error : ParseError) : Same (.failed error) (.failed error)
  | exhausted : Same .exhausted .exhausted

theorem State.totals_memo (state : State) (memo : Option Memo) :
    ({ state with memo } : State).totals.calls = state.statistics.calls ∧
      ({ state with memo } : State).totals.found = state.statistics.found ∧
        ({ state with memo } : State).totals.notFound = state.statistics.notFound := by
  cases memo <;> exact ⟨rfl, rfl, rfl⟩

/-- Outcomes that agree without exception are concluded in the same way. -/
theorem same_conclude {options : ParseOptions} {outcome outcome' : Outcome Bool}
    (agrees : Outcome.Agrees (fun _ => False) memos outcome outcome') :
    (conclude environment outcome).answer.Same
      (conclude { environment with options } outcome').answer := by
  cases agrees with
  | exhausted => exact .exhausted
  | aborted agree => exact .failed _
  | sparedExhaustion holds => exact holds.elim
  | sparedAbortion holds => exact holds.elim
  | @done matched left right agree =>
    obtain ⟨memo, rfl⟩ : ∃ memo, right = { left with memo } := ⟨_, agree.right_eq⟩
    cases matched with
    | false => exact .failed _
    | true =>
      rw [conclude, conclude]
      dsimp only
      split
      · exact .failed _
      · have totals := left.totals_memo left.memo
        have totals' := left.totals_memo memo
        exact .parsed rfl rfl rfl (totals'.1.trans totals.1.symm)
          (totals'.2.1.trans totals.2.1.symm) (totals'.2.2.trans totals.2.2.symm)

/-- If all tokens that go by the same names do the same, a parse answers the same with the
memo and without it. -/
theorem same_run_of_uniform (faithful : environment.source.Faithful)
    (uniform : Uniform environment first) (fuel : Nat) (start : Option String) :
    (run environment fuel first start).answer.Same
      (run { environment with options := { environment.options with memoizeTokens := false } }
        fuel first start).answer := by
  unfold run
  cases start <|> first.startSymbol with
  | none => exact .failed _
  | some name =>
    have agree : (State.initial first environment.options).Agrees Forgets (State.initial first
        { environment.options with memoizeTokens := false }) := ⟨rfl, rfl⟩
    have limits : Limits environment { environment.options with memoizeTokens := false }
        fun _ => False := fun _ => .inl rfl
    exact same_conclude (agrees_begin (replays_of_uniform uniform) limits faithful (.inl rfl) name
      (ready_initial environment first) agree).ends

/-- The memo is transparent. Whatever was published, and whatever grammar a text is parsed
with, the answer is the same with the memo and without it, counters of the memo apart; and
with the same work allowed either both parses come to an end or neither does. A published
grammar of the same name has to declare the same tokens; if the text is parsed with a
published grammar, there is no other. -/
theorem memo_transparent (compile : Compiler) (registry : Registry)
    (published : registry.Built compile) (input : String) (options : ParseOptions)
    (tracing : Bool) (fuel : Nat) (start : Option String) :
    let environment memoizeTokens :=
      Environment.ofText input registry { options with memoizeTokens } tracing
    (∀ first : Grammar, first.Built compile →
      (∀ other, registry.lookup? first.name = some other → first.TokensAlike compile other) →
        (run (environment true) fuel first start).answer.Same
          (run (environment false) fuel first start).answer) ∧
    ∀ name, (runNamed (environment true) fuel name start).answer.Same
      (runNamed (environment false) fuel name start).answer := by
  have general : ∀ first : Grammar, first.Built compile →
      (∀ other, registry.lookup? first.name = some other → first.TokensAlike compile other) →
        (run (Environment.ofText input registry { options with memoizeTokens := true } tracing)
          fuel first start).answer.Same
        (run (Environment.ofText input registry { options with memoizeTokens := false } tracing)
          fuel first start).answer :=
    fun first built alike => same_run_of_uniform (Environment.faithful_ofText _ _ _ _)
      (uniform_of_built built published alike) fuel start
  refine ⟨general, fun name => ?_⟩
  have lookup_eq : ∀ options, (Environment.ofText input registry options tracing).registry.lookup?
      name = registry.lookup? name := fun _ => rfl
  rw [runNamed, runNamed, lookup_eq, lookup_eq]
  cases found : registry.lookup? name with
  | none => exact .failed _
  | some first =>
    obtain ⟨built, rfl⟩ := published.of_lookup? found
    refine general first built fun other found' => ?_
    rw [← Option.some.inj (found.symm.trans found')]
    exact built.tokensAlike_self

/-- A text is parsed with a grammar that differs from the published grammar of its name in
where a parse begins. -/
theorem memo_transparent_beside_namesake :
    let compile := Workspace.compile
    let published := Grammar.ofCalls compile "g" [.token "word" "x+" false]
    let first := Grammar.ofCalls compile "g" [.token "word" "x+" false, .startSymbol "word"]
    let registry := (Registry.register {} published).1
    registry.Built compile ∧ first.Built compile ∧
      (∀ other, registry.lookup? first.name = some other → first.TokensAlike compile other) ∧
      ∀ fuel, (run (Environment.ofText "xxx" registry { memoizeTokens := true } false) fuel first
          none).answer.Same
        (run (Environment.ofText "xxx" registry { memoizeTokens := false } false) fuel first
          none).answer := by
  intro compile published first registry
  have published_built : published.Built compile := Grammar.built_ofCalls _ _ _
  have registry_built : registry.Built compile := .registered .empty published_built
  have first_built : first.Built compile := Grammar.built_ofCalls _ _ _
  have alike : ∀ other, registry.lookup? first.name = some other →
      first.TokensAlike compile other := by
    intro other found
    have same : registry.lookup? first.name = some published := Sorted.lookup_put_self _ _ _
    rw [← Option.some.inj (same.symm.trans found)]
    exact first_built.tokensAlike_self
  exact ⟨registry_built, first_built, alike, fun fuel =>
    (memo_transparent compile registry registry_built "xxx" {} false fuel none).1 first first_built
      alike⟩

end Parse

end Rulebook
