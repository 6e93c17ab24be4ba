/-
This file shows that the items of a set may be declared in any order, if they are tokens of which
no two match at the same offset. Whatever text is parsed, both orders have it parsed with the same
match and the same syntax tree, or neither does. What is reported of a failure and what is counted
may differ.

If tokens are remembered, there is one more thing to ask for. An outcome is remembered under the
name of a grammar and the name of a rule, and the order of the items decides which of them are
tried. So a grammar of the same name may find an outcome remembered of an item, or not; that makes a
difference unless its own token of that name does the same.
-/

import Rulebook.Proofs.Inlining.Counterpart
import Rulebook.Proofs.Parse.Coverage
import Rulebook.Proofs.Parse.Transparency
import Rulebook.Proofs.Pattern.Lexeme
import Rulebook.Proofs.Rearrangement.Walk

namespace Rulebook

open Match (Tree)

/-! ### Syntax trees -/

/-- A kind without the items of a set. In the place of an import stands a choice, which makes the
same nodes. -/
def RuleKind.unordered : RuleKind → RuleKind
  | .set rule => .set { rule with items := [] }
  | kind => kind.inlined

theorem RuleKind.resembles_unordered (kind : RuleKind) : kind.Resembles kind.unordered := by
  cases kind with
  | set rule => exact .set rfl
  | token rule => exact .like (like_inlined (.token rule))
  | sequence items => exact .like (like_inlined (.sequence items))
  | choice rule => exact .like (like_inlined (.choice rule))
  | list rule => exact .like (like_inlined (.list rule))
  | operator rule => exact .like (like_inlined (.operator rule))
  | imported rule => exact .like (like_inlined (.imported rule))

/-- A rule without the items of a set. -/
def Rule.unordered (rule : Rule) : Rule :=
  { rule with kind := rule.kind.unordered }

theorem Rule.Rearranged.unordered_eq {left right : Rule} (rearranged : left.Rearranged right) :
    right.unordered = left.unordered := by
  have kind_eq : right.kind.unordered = left.kind.unordered := by
    obtain ⟨kinds, -⟩ := rearranged
    generalize left.kind = kind, right.kind = kind' at kinds
    cases kinds with
    | same => rfl
    | set perm right_eq =>
      rw [right_eq]
      rfl
  rw [Rule.unordered, Rule.unordered, kind_eq, rearranged.right_eq]

theorem Match.Tree.build_unordered (source : Source) (tree : Tree) (id : Nat) :
    (Ast.Builder.mk source (tree.relabel Rule.unordered)).build id =
      (Ast.Builder.mk source tree).build id := by
  have likens : tree.Likens Rule.unordered := fun _ rule _ =>
    ⟨rfl, rule.kind.resembles_unordered⟩
  show ((Ast.Builder.mk source tree).relabel Rule.unordered).build id = _
  exact Ast.Builder.build_relabel likens id

/-- A syntax tree does not tell in which order the items of a set were declared. -/
theorem Match.Tree.Paired.build_eq_of_rearranged {left right : Tree}
    (paired : left.Paired Rule.Rearranged right) (source : Source) (id : Nat) :
    (Ast.Builder.mk source right).build id = (Ast.Builder.mk source left).build id := by
  have relabel_eq : right.relabel Rule.unordered = left.relabel Rule.unordered :=
    paired.relabel_eq fun _ _ rearranged => rearranged.unordered_eq
  rw [← right.build_unordered, relabel_eq, left.build_unordered]

namespace Parse

/-! ### Answers -/

/-- Two answers are the same but for what is reported of a failure, what was counted, and the order
in which the rules of the match declare the items of sets. -/
inductive Answer.Rearranged : Answer → Answer → Prop where
  | parsed {left right : ParseTree} (source_eq : right.source = left.source)
    (tree : left.tree.Paired Rule.Rearranged right.tree) (ast_eq : right.toAst = left.toAst) :
    Rearranged (.parsed left) (.parsed right)
  | failed (error error' : ParseError) : Rearranged (.failed error) (.failed error')
  | exhausted : Rearranged .exhausted .exhausted

section

variable {environment : Environment} {first next : Grammar} {registry : Registry}

theorem Outcome.Abreast.conclude {outcome outcome' : Outcome Bool}
    (abreast : Outcome.Abreast environment first Eq outcome outcome') :
    (conclude environment outcome).answer.Rearranged
      (conclude { environment with registry } outcome').answer := by
  cases abreast with
  | aborted => exact .failed _ _
  | exhausted => exact .exhausted
  | @done matched _ left right equal states =>
    subst equal
    cases matched with
    | false => exact .failed _ _
    | true =>
      have ast_eq := states.tree.build_eq_of_rearranged environment.source Tree.root
      rw [Parse.conclude, Parse.conclude]
      dsimp only
      rw [states.stop_eq]
      split
      · exact .failed _ _
      · exact .parsed rfl states.tree ast_eq

theorem abreast_initial (reordered : first.Reordered environment first next) :
    (State.initial first environment.options).Abreast environment first
      (State.initial next environment.options) where
  grammar := reordered
  tree := Tree.paired_new
  height_eq := rfl
  memoizing_eq := rfl
  recollections _ := .inr rfl
  informed := (ready_initial environment first).toSound.informed

end

/-- Grammars that are the same up to the order of items that may be declared in any order parse
every text alike, or neither of them comes to an end. The grammars from which they import may differ
in the same way. -/
theorem sets_are_unordered (input : String) (registry registry' : Registry)
    (options : ParseOptions) (tracing : Bool) (first next : Grammar) (fuel : Nat)
    (start : Option String)
    (reordered : first.Reordered (.ofText input registry options tracing) first next)
    (republished : Republished (.ofText input registry options tracing) first registry') :
    (run (.ofText input registry options tracing) fuel first start).answer.Rearranged
      (run (.ofText input registry' options tracing) fuel next start).answer := by
  have faithful := Environment.faithful_ofText input registry options tracing
  rw [run, run, reordered.startSymbol_eq]
  cases start <|> first.startSymbol with
  | none => exact .failed _ _
  | some name =>
    have ready : ReadyIn (.ofText input registry options tracing) first first Tree.root
        (State.initial first options) :=
      ⟨ready_initial (.ofText input registry options tracing) first, rfl⟩
    have abreast := abreast_begin faithful republished fuel name _ _ ready
      (abreast_initial reordered)
    exact abreast.conclude

/-- Where all tokens of the same names do the same, it is enough that the items exclude one
another. -/
theorem exchangeable_of_uniform {environment : Environment} {first grammar : Grammar}
    {items : List String} (uniform : Uniform environment first)
    (exclusive : grammar.Exclusive environment.source items) :
    grammar.Exchangeable environment first items := by
  refine ⟨exclusive, fun _ _ _ rule _ token token' goesBy goesBy' => ?_⟩
  obtain ⟨own, known, grammar_eq, name_eq, isToken⟩ := goesBy
  obtain ⟨other, known', grammar_eq', name_eq', isToken'⟩ := goesBy'
  exact uniform own other token token' known known' isToken isToken'
    (grammar_eq.trans grammar_eq'.symm) (name_eq.trans name_eq'.symm)

namespace Lettering

/-- A token that is one letter. -/
def letterToken (c : Char) : TokenRule :=
  ⟨String.singleton c, .oneOf (.single c), false, none⟩

def letter (name : String) (c : Char) : Rule :=
  ⟨name, "g", 0, .token (letterToken c)⟩

def openerRule : Rule :=
  ⟨"opener", "g", 0, .imported ⟨"g", "a", false⟩⟩

def lettersRule (items : List String) : Rule :=
  ⟨"letters", "g", 0, .set { items, opening := some "opener" }⟩

/-- After a letter of a published grammar come letters in any order. -/
def grammar (items : List String) : Grammar :=
  .ofCalls Workspace.compile "g" [.token "a" "a" false, .token "b" "b" false,
    .imported "opener" "g" "a" false, .set "letters" { items, opening := some "opener" },
    .startSymbol "letters"]

/-- A published grammar of the same name, with one token that goes by the name of a letter. -/
def namesake (pattern : String) : Grammar :=
  .ofCalls Workspace.compile "g" [.token "a" pattern false]

/-- A text is parsed with a memo. -/
def environment (input pattern : String) : Environment :=
  .ofText input (Registry.register {} (namesake pattern)).1 { memoizeTokens := true } false

theorem rules_eq (items : List String) : (grammar items).rules =
    [letter "a" 'a', letter "b" 'b', openerRule, lettersRule items] := rfl

theorem whitespace_eq (items : List String) : (grammar items).whitespace = [] := rfl

theorem depthLimit_eq (items : List String) : (grammar items).depthLimit = none := rfl

/-- The letters are declared in another order. -/
theorem rearranged {items items' : List String} (perm : items.Perm items') :
    List.Forall₂ Rule.Rearranged (grammar items).rules (grammar items').rules := by
  rw [rules_eq, rules_eq]
  have letters : (lettersRule items).Rearranged (lettersRule items') := ⟨.set perm rfl, rfl⟩
  exact .cons (.refl _) (.cons (.refl _) (.cons (.refl _) (.cons letters .nil)))

/-- A token that is one letter matches where the text goes on with it. -/
theorem charAt?_of_letterToken {c : Char} {source : Source} {offset : Nat}
    (taken : ((letterToken c).matchAt? source offset).isSome = true) :
    source.charAt? offset = some c := by
  obtain ⟨length, taken⟩ := Option.isSome_iff_exists.mp taken
  obtain ⟨rest, here, taken⟩ := Option.bind_eq_some_iff.mp taken
  have one : (letterToken c).program = .oneOf (.single c) := rfl
  rw [one, Pattern.Program.matchEnd?_oneOf] at taken
  obtain ⟨d, starts, taken⟩ := Option.bind_eq_some_iff.mp taken
  rw [Source.charAt?, here, Option.bind_some, starts]
  split at taken
  · rename_i same
    rw [(Pattern.CharSet.contains_single c d).mp same]
  · cases taken

/-- No text goes on with two letters at once. -/
theorem exclusive (items : List String) (source : Source) :
    (grammar items).Exclusive source ["a", "b"] := by
  have known : ∀ item ∈ ["a", "b"], item = "a" ∨ item = "b" := by
    intro item member
    simpa using member
  have only : ∀ {offset},
      ((grammar items).matchAt? source "a" offset).isSome = true →
        ((grammar items).matchAt? source "b" offset).isSome = true → False := by
    intro offset taken taken'
    have here : source.charAt? offset = some 'a' := charAt?_of_letterToken taken
    have here' : source.charAt? offset = some 'b' := charAt?_of_letterToken taken'
    rw [here] at here'
    exact absurd (Option.some.inj here') (by decide)
  refine ⟨fun item member => ?_, fun item member other member' offset taken taken' => ?_⟩
  · rcases known item member with rfl | rfl
    · exact ⟨letter "a" 'a', _, rfl, rfl⟩
    · exact ⟨letter "b" 'b', _, rfl, rfl⟩
  · rcases known item member with rfl | rfl <;> rcases known other member' with rfl | rfl
    · rfl
    · exact (only taken taken').elim
    · exact (only taken' taken).elim
    · rfl

/-! ### Beside a grammar with the same letter -/

theorem items_eq {items : List String} {rule : Rule} {set : SetRule}
    (member : rule ∈ (grammar items).rules) (isSet : rule.kind = .set set) : set.items = items := by
  rw [rules_eq] at member
  simp only [List.mem_cons, List.not_mem_nil, or_false] at member
  rcases member with rfl | rfl | rfl | rfl <;> cases isSet
  rfl

/-- If the published letter is the same, then all tokens of the same names do the same. -/
theorem uniform (input : String) (items : List String) :
    Uniform (environment input "a") (grammar items) := by
  have built : (grammar items).Built Workspace.compile := Grammar.built_ofCalls _ _ _
  have published : (environment input "a").registry.Built Workspace.compile :=
    .registered .empty (Grammar.built_ofCalls _ _ _)
  refine uniform_of_built built published fun other found => ?_
  have same : (environment input "a").registry.lookup? (grammar items).name =
      some (namesake "a") := Sorted.lookup_put_self _ _ _
  obtain rfl := Option.some.inj (same.symm.trans found)
  intro name rule rule' token token' found found' isToken isToken'
  have only : (namesake "a").rules = [letter "a" 'a'] := rfl
  have rule_eq : "a" = name ∧ rule' = letter "a" 'a' := by
    rw [Grammar.rule?, only, List.find?_cons] at found'
    split at found'
    · rename_i named
      exact ⟨eq_of_beq named, (Option.some.inj found').symm⟩
    · cases found'
  obtain ⟨rfl, rfl⟩ := rule_eq
  have own : (grammar items).rule? "a" = some (letter "a" 'a') := rfl
  exact built.tokensAlike_self "a" rule _ token token' found own isToken isToken'

/-- The letters may be declared in the other order. -/
theorem letters_are_unordered :
    let registry := (environment "aba" "a").registry
    let options : ParseOptions := { memoizeTokens := true }
    (grammar ["a", "b"]).Reordered (.ofText "aba" registry options false) (grammar ["a", "b"])
        (grammar ["b", "a"]) ∧
      Republished (.ofText "aba" registry options false) (grammar ["a", "b"]) registry ∧
      (∃ result, (run (.ofText "aba" registry options false) 9 (grammar ["a", "b"]) none).answer =
        .parsed result) ∧
      (run (.ofText "aba" registry options false) 9 (grammar ["a", "b"]) none).answer.Rearranged
        (run (.ofText "aba" registry options false) 9 (grammar ["b", "a"]) none).answer := by
  intro registry options
  have reordered : (grammar ["a", "b"]).Reordered (environment "aba" "a") (grammar ["a", "b"])
      (grammar ["b", "a"]) := by
    refine Grammar.reordered_of_forall₂ rfl rfl rfl rfl rfl (rearranged (.swap ..)) ?_
    intro rule member set isSet
    rw [items_eq member isSet]
    exact exchangeable_of_uniform (uniform "aba" ["a", "b"]) (exclusive ["a", "b"] _)
  have republished := republished_refl (environment "aba" "a") (grammar ["a", "b"])
  -- What is parsed without the memo is parsed with it.
  have same : (run (.ofText "aba" registry options false) 9 (grammar ["a", "b"]) none).answer.Same
      (run (.ofText "aba" registry {} false) 9 (grammar ["a", "b"]) none).answer :=
    same_run_of_uniform (Environment.faithful_ofText "aba" registry options false)
      (uniform "aba" ["a", "b"]) 9 none
  obtain ⟨result, parsed, -⟩ : ∃ result, (run (.ofText "aba" registry {} false) 9
      (grammar ["a", "b"]) none).answer = .parsed result ∧ True := by
    decide +kernel
  refine ⟨reordered, republished, ?_,
    sets_are_unordered "aba" registry registry options false _ _ 9 none reordered republished⟩
  rw [parsed] at same
  generalize (run (.ofText "aba" registry options false) 9 (grammar ["a", "b"]) none).answer =
    answer at same ⊢
  cases same with
  | @parsed left => exact ⟨left, rfl⟩

/-! ### Beside a grammar with another letter -/

section

/-- The published letter takes nothing. -/
def shadowed : Environment :=
  environment "ba" ""

def empty : TokenRule :=
  ⟨"", ⟨#[.accept, .require .textStart 0], 1, true⟩, false, none⟩

def nothing : Rule :=
  ⟨"a", "g", 0, .token empty⟩

/-- The tree after the opening letter. -/
def openedTree (items : List String) : Tree :=
  treeAfter ((Tree.new.attach Tree.root (.rule (lettersRule items))).attach 1 (.rule openerRule)) 2
    nothing (some 0)

variable {items : List String} {node : Nat} {name x y : String} {c d : Char} {m n : Nat}
  {state : State} {rule : Rule} {token : TokenRule}

theorem published : shadowed.registry.lookup? "g" = some (namesake "") :=
  Sorted.lookup_put_self _ _ _

theorem faithful : shadowed.source.Faithful :=
  Source.faithful_ofString "ba"

theorem within (unlimited : state.grammar.depthLimit = none) (name : String) :
    exceededLimit? shadowed (state.pushed name) = none := by
  have limit_eq : (state.pushed name).grammar.depthLimit = none := unlimited
  rw [exceededLimit?, limit_eq]
  rfl

theorem ready_of_done (ready : Ready shadowed (grammar items) node state) {fuel : Nat}
    {matched : Bool} {last : State}
    (done : (consume shadowed fuel node name state).outcome = .done matched last) :
    Ready shadowed (grammar items) node last :=
  (((reliable_consume faithful (excuses_always shadowed (grammar items)) fuel).working
    (.refl ready) name).returns _ _ done).ready

theorem consume_token (fuel : Nat) (ready : Ready shadowed (grammar items) node state)
    (blank : state.grammar.whitespace = []) (unlimited : state.grammar.depthLimit = none)
    (found : state.grammar.rule? name = some rule) (isToken : rule.token? = some token) :
    ∃ last, (consume shadowed (fuel + 1) node name state).outcome =
        .done (state.answer shadowed.source rule token node).isSome last ∧
      TokenAnswered shadowed.source rule token node state last ∧
      Ready shadowed (grammar items) node last := by
  obtain ⟨last, done, answered⟩ := consume_answers fuel found isToken (within unlimited name)
    ready.tree.rising ready.isOpen.inside rfl blank
  exact ⟨last, done, answered, ready_of_done ready done⟩

/-- The opening letter has matched. What is remembered under the name of the first letter is that
it took nothing. -/
structure Opened (items : List String) (state : State) : Prop
    extends Ready shadowed (Lettering.grammar items) 1 state where
  grammar_eq : state.grammar = Lettering.grammar items
  tree_eq : state.tree = openedTree items
  stop_eq : state.tree.stop 1 = 0
  told : state.recollection ⟨"g", 0, "a"⟩ = some (some 0)
  untold : ∀ key, key ≠ ⟨"g", 0, "a"⟩ → state.recollection key = none

/-- The published letter takes nothing where it is tried first, and this is remembered. -/
theorem consume_nothing (fuel : Nat) (ready : Ready shadowed (grammar items) 2 state)
    (grammar_eq : state.grammar = namesake "")
    (tree_eq : state.tree = (Tree.new.attach Tree.root (.rule (lettersRule items))).attach 1
      (.rule openerRule))
    (memoizing : state.memo.isSome = true) (untold : ∀ key, state.recollection key = none) :
    ∃ last, (consume shadowed (fuel + 1) 2 "a" state).outcome = .done true last ∧
      last.tree = openedTree items ∧ last.tree.stop 1 = 0 ∧
      ∀ key, last.recollection key = if key = ⟨"g", 0, "a"⟩ then some (some 0) else none := by
  have found : state.grammar.rule? "a" = some nothing := by
    rw [grammar_eq]
    rfl
  have isToken : nothing.token? = some empty := rfl
  have key_eq : state.tokenKey nothing 2 = ⟨"g", 0, "a"⟩ := by
    rw [State.tokenKey, tree_eq]
    rfl
  have answer_eq : state.answer shadowed.source nothing empty 2 = some 0 := by
    rw [State.answer, untold, Option.getD_none, tree_eq]
    rfl
  obtain ⟨last, done, answered, -⟩ := consume_token fuel ready (by rw [grammar_eq]; rfl)
    (by rw [grammar_eq]; rfl) found isToken
  have attached := ready_attach ready (.rule nothing)
  rw [answer_eq] at done
  refine ⟨last, done, ?_, ?_, fun key => ?_⟩
  · rw [answered.tree_eq, answer_eq, tree_eq]
    rfl
  · rw [answered.tree_eq, answer_eq, treeAfter, Tree.stop_matchToken attached.tree.rising
      attached.isOpen.inside, Nat.add_zero, ite_self, tree_eq]
    rfl
  · rw [answered.recollection_eq, memoizing, key_eq, answer_eq, untold]
    simp only [true_and]

theorem consume_opener (fuel : Nat) (ready : Ready shadowed (grammar items) 1 state)
    (grammar_eq : state.grammar = grammar items)
    (tree_eq : state.tree = Tree.new.attach Tree.root (.rule (lettersRule items)))
    (memoizing : state.memo.isSome = true) (untold : ∀ key, state.recollection key = none) :
    ∃ last, (consume shadowed (fuel + 2) 1 "opener" state).outcome = .done true last ∧
      Opened items last := by
  have found : state.grammar.rule? "opener" = some openerRule := by
    rw [grammar_eq]
    rfl
  have size_eq : state.tree.size = 2 := by
    rw [tree_eq]
    rfl
  have attached := ready_attach (ready.entered "opener" openerRule) (.rule openerRule)
  have imported : Ready shadowed (grammar items) state.tree.size
      { state.entered 1 "opener" openerRule with
        tree := state.tree.attach 1 (.rule openerRule), grammar := namesake "" } :=
    ⟨⟨attached.tree, .inr ⟨"g", published⟩, attached.memoizing, attached.memo⟩, attached.isOpen⟩
  rw [size_eq] at imported
  obtain ⟨last, done, opened_eq, stop_eq, recollection_eq⟩ := consume_nothing fuel imported rfl
    (by rw [← tree_eq]) memoizing untold
  have performed : (perform shadowed (consume shadowed (fuel + 1)) (fuel + 1) openerRule
      state.tree.size { state.entered 1 "opener" openerRule with
        tree := state.tree.attach 1 (.rule openerRule) }).outcome =
      .done true { last with grammar := state.grammar } := by
    rw [size_eq]
    exact (outcome_performImport published rfl).trans
      (congrArg (Outcome.mapState fun next => { next with grammar := state.grammar }) done)
  obtain ⟨statistics, matched⟩ := consume_performs (fuel + 1) rfl
    (by rw [grammar_eq, whitespace_eq]) found rfl (within (by rw [grammar_eq, depthLimit_eq]) _)
    performed rfl
  exact ⟨_, matched, ready_of_done ready matched, grammar_eq, opened_eq, stop_eq,
    (recollection_eq _).trans (if_pos rfl), fun key other => (recollection_eq key).trans
      (if_neg other)⟩

theorem Opened.answer_eq (opened : Opened items state) (name : String) (c : Char) :
    state.answer shadowed.source (letter name c) (letterToken c) 1 =
      if name = "a" then some 0 else (letterToken c).matchAt? shadowed.source 0 := by
  have key_eq : state.tokenKey (letter name c) 1 = ⟨"g", 0, name⟩ := by
    rw [State.tokenKey, opened.stop_eq]
    rfl
  rw [State.answer, key_eq]
  split
  · rename_i named
    rw [named, opened.told, Option.getD_some]
  · rename_i other
    rw [opened.untold _ fun same => other (congrArg MemoKey.rule same), Option.getD_none,
      opened.stop_eq]

/-- A letter that matches is picked. -/
theorem firstMatch_letter (fuel : Nat) (ready : Ready shadowed (grammar items) 1 state)
    (grammar_eq : state.grammar = grammar items)
    (found : (grammar items).rule? name = some (letter name c))
    (answer_eq : state.answer shadowed.source (letter name c) (letterToken c) 1 = some n)
    (index : Nat) (rest : List (Nat × String)) :
    ∃ next, (firstMatch (consume shadowed (fuel + 1)) 1 ((index, name) :: rest) state).outcome =
        .done (some index) next ∧
      Ready shadowed (grammar items) 1 next ∧ next.grammar = grammar items ∧
      next.tree = treeAfter state.tree 1 (letter name c) (some n) ∧
      ∀ key, key ≠ state.tokenKey (letter name c) 1 →
        next.recollection key = state.recollection key := by
  have trying : Ready shadowed (grammar items) 1 (state.trying index) :=
    ⟨⟨ready.tree, ready.grammar, ready.memoizing, ready.memo⟩, ready.isOpen⟩
  have trying_eq : (state.trying index).grammar = grammar items := grammar_eq
  have isToken : (letter name c).token? = some (letterToken c) := rfl
  obtain ⟨next, done, answered, ready⟩ := consume_token fuel trying
    (by rw [trying_eq, whitespace_eq]) (by rw [trying_eq, depthLimit_eq])
    (by rw [trying_eq, found]) isToken
  have trying_answer : (state.trying index).answer shadowed.source (letter name c) (letterToken c)
    1 = some n := answer_eq
  rw [trying_answer] at done
  refine ⟨next, ?_, ready, answered.grammar_eq.trans grammar_eq, ?_, fun key other => ?_⟩
  · rw [outcome_firstMatch_cons, (Step.bind_of_done _ done).1]
    rfl
  · rw [answered.tree_eq, trying_answer]
    rfl
  · rw [answered.recollection_eq, if_neg fun both => other both.2]
    rfl

variable (found : (grammar [x, y]).rule? x = some (letter x c))
  (found' : (grammar [x, y]).rule? y = some (letter y d)) (distinct : x ≠ y)
  (taken : (if x = "a" then some 0 else (letterToken c).matchAt? shadowed.source 0) = some m)
  (taken' : (letterToken d).matchAt? shadowed.source m = some n)
  (fresh : (⟨"g", m, y⟩ : MemoKey) ≠ ⟨"g", 0, "a"⟩)
include found found' distinct taken taken' fresh

/-- The two letters match one after the other. -/
theorem setRounds_letters (fuel : Nat) (opened : Opened [x, y] state) :
    ∃ last, (setRounds (consume shadowed (fuel + 1)) { items := [x, y], opening := some "opener" } 1
        2 [(0, x), (1, y)] false state).outcome = .done false last ∧
      last.grammar = grammar [x, y] ∧
      last.tree = treeAfter (treeAfter (openedTree [x, y]) 1 (letter x c) (some m)) 1 (letter y d)
        (some n) := by
  obtain ⟨middle, picked, ready, grammar_eq, tree_eq, kept⟩ := firstMatch_letter fuel
    opened.toReady opened.grammar_eq found ((opened.answer_eq x c).trans taken) 0 [(1, y)]
  have stop_eq : middle.tree.stop 1 = m := by
    rw [tree_eq, treeAfter, stop_attached_matchToken opened.toReady, opened.stop_eq, Nat.zero_add]
  have key_eq : middle.tokenKey (letter y d) 1 = ⟨"g", m, y⟩ := by
    rw [State.tokenKey, stop_eq]
    rfl
  have answer_eq : middle.answer shadowed.source (letter y d) (letterToken d) 1 = some n := by
    rw [State.answer, key_eq, kept ⟨"g", m, y⟩ fun same =>
      distinct (congrArg MemoKey.rule same).symm, opened.untold _ fresh, Option.getD_none, stop_eq]
    exact taken'
  obtain ⟨last, picked', -, last_eq, tree_eq', -⟩ :=
    firstMatch_letter fuel ready grammar_eq found' answer_eq 1 []
  refine ⟨last, ?_, last_eq, by rw [tree_eq', tree_eq, opened.tree_eq]⟩
  rw [setRounds, (Step.bind_of_done _ picked).1]
  exact (Step.bind_of_done _ picked').1

theorem run_letters (fuel : Nat) :
    ∃ last, run shadowed (fuel + 3) (grammar [x, y]) none = conclude shadowed (.done true last) ∧
      last.tree = treeAfter (treeAfter (openedTree [x, y]) 1 (letter x c) (some m)) 1 (letter y d)
        (some n) := by
  obtain ⟨initial, initial_eq⟩ : ∃ initial,
    initial = State.initial (grammar [x, y]) shadowed.options := ⟨_, rfl⟩
  have ready : Ready shadowed (grammar [x, y]) Tree.root initial := by
    rw [initial_eq]
    exact ready_initial shadowed (grammar [x, y])
  have grammar_eq : initial.grammar = grammar [x, y] := by
    rw [initial_eq]
    rfl
  have blank : initial.grammar.whitespace = [] := by rw [grammar_eq, whitespace_eq]
  have known : initial.grammar.rule? "letters" = some (lettersRule [x, y]) := by
    rw [grammar_eq]
    rfl
  have size_eq : (initial.entered Tree.root "letters" (lettersRule [x, y])).tree.size = 1 := by
    rw [initial_eq]
    rfl
  have untold : ∀ key, initial.recollection key = none := by
    intro key
    rw [initial_eq]
    exact Std.HashMap.getElem?_empty
  have attached := ready_attach (ready.entered "letters" (lettersRule [x, y]))
    (.rule (lettersRule [x, y]))
  rw [size_eq] at attached
  obtain ⟨middle, done, opened⟩ := consume_opener fuel attached grammar_eq
    (by rw [initial_eq]; rfl) (by rw [initial_eq]; rfl) untold
  obtain ⟨last, done', last_eq, tree_eq⟩ :=
    setRounds_letters found found' distinct taken taken' fresh (fuel + 1) opened
  have performed : (perform shadowed (consume shadowed (fuel + 2)) (fuel + 2)
      (lettersRule [x, y]) initial.tree.size
        { initial.entered Tree.root "letters" (lettersRule [x, y]) with
          tree := initial.tree.attach Tree.root (.rule (lettersRule [x, y])) }).outcome =
      .done true last := by
    show (performSet _ { items := [x, y], opening := some "opener" } _ _).outcome = _
    rw [performSet, show initial.tree.size = 1 from size_eq]
    exact (Step.bind_of_done _ done).1.trans (Step.bind_of_done _ done').1
  obtain ⟨statistics, matched⟩ := consume_performs (fuel + 2) rfl blank known rfl
    (within (by rw [grammar_eq, depthLimit_eq]) _) performed (last_eq.trans grammar_eq.symm)
  refine ⟨{ last with stack := last.stack.tail, statistics }, ?_, tree_eq⟩
  have chosen : (none <|> (grammar [x, y]).startSymbol) = some "letters" := rfl
  rw [run, chosen]
  dsimp only
  rw [begin, ← initial_eq, (Step.bind_of_done _ (skipWhitespace_of_blank blank)).1, ← matched]

end

/-- The order of the letters matters, though they exclude one another. What is remembered of the
opening letter answers for the first letter of that name, if this is tried right after it. -/
theorem order_matters_beside_namesake :
    List.Forall₂ Rule.Rearranged (grammar ["a", "b"]).rules (grammar ["b", "a"]).rules ∧
      (grammar ["a", "b"]).Exclusive shadowed.source ["a", "b"] ∧
      ∀ fuel,
        (∃ error, (run shadowed (fuel + 3) (grammar ["a", "b"]) none).answer = .failed error) ∧
        ∃ result, (run shadowed (fuel + 3) (grammar ["b", "a"]) none).answer = .parsed result := by
  refine ⟨rearranged (.swap ..), exclusive ["a", "b"] _, fun fuel => ⟨?_, ?_⟩⟩
  · obtain ⟨last, run_eq, tree_eq⟩ := run_letters (x := "a") (y := "b") (c := 'a') (d := 'b')
      (m := 0) (n := 1) rfl rfl (by decide) rfl rfl (by decide) fuel
    have stop_eq : last.tree.stop Tree.root = 1 := by
      rw [tree_eq]
      decide +kernel
    have short : last.tree.stop Tree.root < shadowed.source.size := by
      rw [stop_eq]
      decide
    rw [run_eq, conclude]
    dsimp only
    rw [if_pos short]
    exact ⟨_, rfl⟩
  · obtain ⟨last, run_eq, tree_eq⟩ := run_letters (x := "b") (y := "a") (c := 'b') (d := 'a')
      (m := 1) (n := 1) rfl rfl (by decide) rfl rfl (by decide) fuel
    have stop_eq : last.tree.stop Tree.root = 2 := by
      rw [tree_eq]
      decide +kernel
    have full : ¬ last.tree.stop Tree.root < shadowed.source.size := by
      rw [stop_eq]
      decide
    rw [run_eq, conclude]
    dsimp only
    rw [if_neg full]
    exact ⟨_, rfl⟩

end Lettering

end Parse

end Rulebook
