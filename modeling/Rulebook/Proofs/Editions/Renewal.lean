/-
This file shows that it changes no parse to tell a grammar to treat case as it does already,
unless an import leads back to its operators. The call leaves everything as it is but for the
rules that are shared with other grammars: they become declarations of their own. An operator
that is shared with a grammar that is imported is found again on the way into that grammar;
once it is a declaration of its own, it is not.
-/

import Mathlib.Logic.Relation
import Rulebook.Proofs.Editions.Parallel
import Rulebook.Proofs.Grammar.Compilation
import Rulebook.Proofs.Inlining.Counterpart
import Rulebook.Proofs.Parse.Conduct
import Rulebook.Proofs.Pattern.Lexeme
import Rulebook.Workspace

namespace Rulebook

open Match (Tree)

/-! ### Answers -/

/-- What there is to see of an answer: the syntax tree with the statistics, or the failure. -/
def Parse.Answer.result : Parse.Answer → Option (Except ParseError (Ast.Node × Statistics))
  | .parsed result => some (.ok (result.toAst, result.statistics))
  | .failed error => some (.error error)
  | .exhausted => none

/-- A rule without its edition. In the place of an import stands a choice, which makes the same
nodes. -/
def Rule.unedited (rule : Rule) : Rule :=
  { rule with edition := 0, kind := rule.kind.inlined }

theorem Match.Tree.build_unedited (source : Source) (tree : Tree) (id : Nat) :
    (Ast.Builder.mk source (tree.relabel Rule.unedited)).build id =
      (Ast.Builder.mk source tree).build id := by
  have likens : tree.Likens Rule.unedited := fun _ rule _ => ⟨rfl, .like rule.kind.like_inlined⟩
  show ((Ast.Builder.mk source tree).relabel Rule.unedited).build id = _
  exact Ast.Builder.build_relabel likens id

/-- A syntax tree does not tell the editions of the rules that it is made of. -/
theorem Match.Tree.Paired.build_eq {kin : Rule → Rule → Prop} {left right : Tree}
    (paired : left.Paired kin right)
    (right_eq : ∀ {first second}, kin first second →
      second = { first with edition := second.edition }) (source : Source) (id : Nat) :
    (Ast.Builder.mk source right).build id = (Ast.Builder.mk source left).build id := by
  have relabel_eq : right.relabel Rule.unedited = left.relabel Rule.unedited :=
    paired.relabel_eq fun first second related => by
      rw [right_eq related, Rule.unedited, Rule.unedited]
  rw [← right.build_unedited, relabel_eq, left.build_unedited]

theorem Rule.same_comm (left right : Rule) : left.same right = right.same left :=
  congrArg₂ and BEq.comm BEq.comm

namespace Parse

variable {environment : Environment} {registry : Registry} {first : Grammar}
  {shared : Rule → Bool} {edition : Nat} {kin : Rule → Rule → Prop}

/-- Twins have counted the same. -/
theorem State.Twins.totals_eq {left right : State} (twins : left.Twins kin right) :
    right.totals = left.totals :=
  twins.view_eq State.totals fun _ _ _ => rfl

/-- Parses that end alike are concluded with the same result and with the same log. -/
theorem Outcome.Twins.conclude_eq (kinship : Kinship environment.registry kin)
    {outcome outcome' : Outcome Bool} (twins : Outcome.Twins kin outcome outcome') :
    (conclude environment outcome').answer.result = (conclude environment outcome).answer.result ∧
      (conclude environment outcome').log = (conclude environment outcome).log := by
  cases twins with
  | exhausted => exact ⟨rfl, rfl⟩
  | aborted error twins =>
    have log_eq := twins.view_eq (·.log) fun _ _ _ => rfl
    rw [conclude, conclude, log_eq]
    exact ⟨rfl, rfl⟩
  | @done matched left right twins =>
    have log_eq := twins.view_eq (·.log) fun _ _ _ => rfl
    cases matched with
    | false =>
      have mismatch_eq := twins.view_eq (·.mismatch environment) fun _ _ _ => rfl
      rw [conclude, conclude, log_eq, mismatch_eq]
      exact ⟨rfl, rfl⟩
    | true =>
      have leftover_eq : ∀ stop, right.leftover environment stop = left.leftover environment stop :=
        fun stop => twins.view_eq (·.leftover environment stop) fun _ _ _ => rfl
      have build_eq := twins.tree.build_eq kinship.right_eq environment.source Tree.root
      rw [conclude, conclude]
      dsimp only
      rw [twins.tree.stop_eq, log_eq, leftover_eq, twins.totals_eq, twins.grammar.name_eq]
      split
      · exact ⟨rfl, rfl⟩
      · refine ⟨?_, rfl⟩
        rw [Answer.result, Answer.result, ParseTree.toAst, ParseTree.toAst, build_eq]

theorem initial_twins {left right : Grammar} (allied : left.Allied kin right)
    (options : ParseOptions) :
    (State.initial left options).Twins kin (State.initial right options) :=
  ⟨allied, Tree.paired_new, rfl⟩

/-- Under allied grammars, parses come to the same. -/
theorem run_eq_of_allied (kinship : Kinship environment.registry kin) {next : Grammar}
    (allied : first.Allied kin next) (fuel : Nat) (start : Option String) :
    (run environment fuel next start).answer.result =
        (run environment fuel first start).answer.result ∧
      (run environment fuel next start).log = (run environment fuel first start).log := by
  rw [run, run, allied.startSymbol_eq]
  cases start <|> first.startSymbol with
  | none => exact ⟨rfl, rfl⟩
  | some name =>
    have twins := impartial_begin kinship fuel name _ _ (initial_twins allied environment.options)
    exact twins.conclude_eq kinship

/-! ### Imports -/

/-- A rule of one grammar stands for a rule of another one. -/
def Imports (registry : Registry) (importing grammar : Grammar) : Prop :=
  ∃ rule ∈ importing.rules, ∃ target, rule.kind = .imported target ∧
    registry.lookup? target.grammar = some grammar

/-- One import after another leads from a grammar to another one. -/
abbrev Imported (registry : Registry) : Grammar → Grammar → Prop :=
  Relation.TransGen (Imports registry)

/-- Where imports lead, there are no operators of a grammar that others share. -/
def Apart (registry : Registry) (shared : Rule → Bool) (first : Grammar) : Prop :=
  ∀ grammar, Imported registry first grammar → ∀ own ∈ first.rules, shared own = true →
    ∀ rule ∈ grammar.rules, (own.isOperator || rule.isOperator) = true → own.same rule = false

/-- No rule of a grammar to which imports lead was declared in some edition. -/
def Unused (registry : Registry) (edition : Nat) (first : Grammar) : Prop :=
  ∀ grammar, Imported registry first grammar → ∀ rule ∈ grammar.rules, rule.edition ≠ edition

/-! ### Renewed rules -/

/-- A rule of a grammar is renewed, and those of other grammars stay as they are. -/
inductive Renewed (registry : Registry) (first : Grammar) (shared : Rule → Bool)
    (edition : Nat) : Rule → Rule → Prop where
  | own {rule : Rule} (found : first.rule? rule.name = some rule) :
    Renewed registry first shared edition rule (rule.renew shared edition)
  | foreign {grammar : Grammar} {rule : Rule} (imported : Imported registry first grammar)
    (member : rule ∈ grammar.rules) : Renewed registry first shared edition rule rule

/-- Renewed rules of one grammar are found under their names as they were before. -/
theorem same_renew {rule other : Rule} (found : first.rule? rule.name = some rule)
    (found' : first.rule? other.name = some other) :
    (other.renew shared edition).same (rule.renew shared edition) = other.same rule := by
  have standing : ∀ {rule : Rule}, first.rule? rule.name = some rule →
      (first.renew shared edition).rule? (rule.renew shared edition).name =
        some (rule.renew shared edition) := by
    intro rule found
    rw [Grammar.rule?_renew, Rule.renew_name, found, Option.map_some]
  rw [Grammar.same_of_rule? (standing found) (standing found'),
    Grammar.same_of_rule? found found', Rule.renew_name, Rule.renew_name]

section

variable (apart : Apart registry shared first) (unused : Unused registry edition first)
include apart unused

/-- A rule of another grammar is the same declaration as a renewed one if and only if it was
the same before: if either of them is an operator, then it was not. -/
theorem renew_same_foreign {own rule : Rule} {grammar : Grammar}
    (found : first.rule? own.name = some own) (imported : Imported registry first grammar)
    (member : rule ∈ grammar.rules) (either : (own.isOperator || rule.isOperator) = true) :
    (own.renew shared edition).same rule = own.same rule := by
  rw [Rule.renew]
  split
  · rename_i isShared
    rw [apart grammar imported own (Grammar.mem_rules_of_rule? found) isShared rule member either]
    have different : (edition == rule.edition) = false :=
      beq_false_of_ne (unused grammar imported rule member).symm
    rw [Rule.same, different, Bool.and_false]
  · rfl

theorem kinship_renewed : Kinship registry (Renewed registry first shared edition) where
  right_eq := by
    intro left right related
    cases related with
    | own found => exact left.renew_eq shared edition
    | foreign imported member => rfl
  same_eq := by
    intro left right other other' related relatedOther isOperator
    cases related with
    | own found =>
      cases relatedOther with
      | own found' => exact same_renew found found'
      | foreign imported member =>
        rw [Rule.same_comm, other.same_comm]
        exact renew_same_foreign apart unused found imported member
          (by rw [isOperator, Bool.true_or])
    | foreign imported member =>
      cases relatedOther with
      | own found' =>
        exact renew_same_foreign apart unused found' imported member
          (by rw [isOperator, Bool.or_true])
      | foreign imported' member' => rfl
  imported := by
    intro left right target grammar related kind found
    have imported : Imported registry first grammar := by
      cases related with
      | own found' => exact .single ⟨left, Grammar.mem_rules_of_rule? found', target, kind, found⟩
      | foreign imported member => exact imported.tail ⟨left, member, target, kind, found⟩
    refine ⟨rfl, rfl, rfl, rfl, rfl, fun name => ?_⟩
    cases found : grammar.rule? name with
    | none => exact .none
    | some rule => exact .some (.foreign imported (Grammar.mem_rules_of_rule? found))

end

theorem allied_renew (registry : Registry) (first : Grammar) (shared : Rule → Bool)
    (edition : Nat) :
    first.Allied (Renewed registry first shared edition) (first.renew shared edition) := by
  refine ⟨rfl, rfl, rfl, rfl, rfl, fun name => ?_⟩
  rw [Grammar.rule?_renew]
  cases found : first.rule? name with
  | none => exact .none
  | some rule => exact .some (.own (Grammar.rule?_self found))

/-- Telling a grammar to treat case as it does already changes no parse, in whatever order its
rules are visited, unless imports lead to operators that the grammar shares with others. -/
theorem case_set_again_changes_no_parse (compile : Compiler) (environment : Environment)
    (first next : Grammar) (shared : Rule → Bool) (edition : Nat) (order : Grammar.VisitOrder)
    (fuel : Nat) (start : Option String) (built : first.Built compile)
    (told : (Grammar.setCaseInsensitive compile shared edition order first.caseInsensitive).run
      first = .ok () next)
    (apart : Apart environment.registry shared first)
    (unused : Unused environment.registry edition first) :
    (run environment fuel next start).answer.result =
        (run environment fuel first start).answer.result ∧
      (run environment fuel next start).log = (run environment fuel first start).log := by
  rw [Grammar.eq_renew_of_setCaseInsensitive built told]
  exact run_eq_of_allied (kinship_renewed apart unused)
    (allied_renew environment.registry first shared edition) fuel start

namespace Renewal

/-- A token that is one character. -/
def character (name grammar pattern : String) (c : Char) : Rule :=
  ⟨name, grammar, 0, .token ⟨pattern, .oneOf (.single c), false, none⟩⟩

/-- Chains of digits, in which a rule of another grammar may take the place of a digit. -/
def chains (grammar rule : String) : Grammar where
  name := "chains"
  edition := 0
  rules := [character "digit" "chains" "1" '1', character "sign" "chains" "p" 'p',
    ⟨"again", "chains", 0, .imported ⟨grammar, rule, true⟩⟩,
    ⟨"operand", "chains", 0, .choice ⟨["again", "digit"], false⟩⟩,
    ⟨"expr", "chains", 0, .operator ⟨.left, "sign", "operand"⟩⟩]
  tokenPatterns := [("p", "sign"), ("1", "digit")]
  startSymbol := some "expr"

theorem built_chains (grammar rule : String) :
    (chains grammar rule).Built Workspace.compile :=
  Grammar.built_ofCalls Workspace.compile "chains" [.token "digit" "1" false,
    .token "sign" "p" false, .imported "again" grammar rule true,
    .choice "operand" ["again", "digit"] false, .operator "expr" .left "sign" "operand",
    .startSymbol "expr"]

/-- The rules of chains are shared with chains that were published. -/
def published (grammar rule : String) (own : Rule) : Bool :=
  (chains grammar rule).rules.any own.same

/-- Chains after they were told to respect case, as they did before. -/
def retold (grammar rule : String) : Grammar :=
  (chains grammar rule).renew (published grammar rule) 1

set_option maxRecDepth 4000 in
theorem told (grammar rule : String) :
    (Grammar.setCaseInsensitive Workspace.compile (published grammar rule) 1 .declared
      (chains grammar rule).caseInsensitive).run (chains grammar rule) =
        .ok () (retold grammar rule) := by
  refine Grammar.setCaseInsensitive_eq_renew .declared fun own member token isToken => ?_
  simp only [chains, List.mem_cons, List.not_mem_nil, or_false] at member
  rcases member with rfl | rfl | rfl | rfl | rfl <;> cases isToken <;> rfl

/-- A grammar without imports. -/
def others : Grammar where
  name := "others"
  edition := 0
  rules := [character "other" "others" "2" '2']

/-- A digit is parsed, and chains are published beside the other grammar. -/
def digit (grammar rule : String) : Environment :=
  .ofText "1" ((({} : Registry).register others).1.register (chains grammar rule)).1 {} false

theorem target_of_imported {grammar rule : String} {own : Rule} {target : ImportRule}
    (member : own ∈ (chains grammar rule).rules) (kind : own.kind = .imported target) :
    target.grammar = grammar := by
  simp only [chains, List.mem_cons, List.not_mem_nil, or_false] at member
  rcases member with rfl | rfl | rfl | rfl | rfl <;> cases kind
  rfl

theorem eq_others_of_imported {grammar : Grammar}
    (imported : Imported (digit "others" "other").registry (chains "others" "other") grammar) :
    grammar = others := by
  induction imported with
  | single imports =>
    obtain ⟨rule, member, target, kind, found⟩ := imports
    rw [target_of_imported member kind] at found
    exact (Option.some.inj found).symm
  | tail imported imports between_eq =>
    obtain ⟨rule, member, target, kind, found⟩ := imports
    rw [between_eq] at member
    rw [List.mem_singleton.mp member] at kind
    cases kind

/-- A syntax tree is answered, and its root has this name. -/
def isNamed (answer : Answer) (name : String) : Bool :=
  (answer.result.bind Except.toOption).any (·.1.name == name)

theorem exists_of_isNamed {answer : Answer} {name : String} (named : isNamed answer name = true) :
    ∃ result, answer = .parsed result ∧ result.toAst.name = name := by
  cases answer with
  | parsed result => exact ⟨result, rfl, eq_of_beq named⟩
  | failed error => cases (named : false = true)
  | exhausted => cases (named : false = true)

/-- Imports may lead to other grammars. -/
theorem case_set_again_changes_no_parse_of_digit :
    isNamed (run (digit "others" "other") 9 (chains "others" "other") none).answer "digit" = true ∧
      (run (digit "others" "other") 9 (retold "others" "other") none).answer.result =
        (run (digit "others" "other") 9 (chains "others" "other") none).answer.result ∧
      (run (digit "others" "other") 9 (retold "others" "other") none).log =
        (run (digit "others" "other") 9 (chains "others" "other") none).log := by
  have different : ∀ own ∈ (chains "others" "other").rules, ∀ rule ∈ others.rules,
      own.same rule = false := by decide
  have older : ∀ rule ∈ others.rules, rule.edition ≠ 1 := by decide
  refine ⟨by decide +kernel, ?_⟩
  refine case_set_again_changes_no_parse Workspace.compile _ _ _ _ 1 .declared 9 none
    (built_chains "others" "other") (told "others" "other") ?_ ?_
  · intro grammar imported own ownMember _ rule member _
    rw [eq_others_of_imported imported] at member
    exact different own ownMember rule member
  · intro grammar imported rule member
    rw [eq_others_of_imported imported] at member
    exact older rule member

/-- If imports lead back to the operators of a grammar, then these are not the same operators
any more once the grammar was told to treat case as it did before. -/
theorem case_set_again_changes_a_parse :
    (Grammar.setCaseInsensitive Workspace.compile (published "chains" "expr") 1 .declared
        (chains "chains" "expr").caseInsensitive).run (chains "chains" "expr") =
      .ok () (retold "chains" "expr") ∧
    ∃ before after,
      (run (digit "chains" "expr") 9 (chains "chains" "expr") none).answer = .parsed before ∧
      (run (digit "chains" "expr") 9 (retold "chains" "expr") none).answer = .parsed after ∧
      before.toAst.name = "digit" ∧ after.toAst.name = "again" := by
  have first : isNamed (run (digit "chains" "expr") 9 (chains "chains" "expr") none).answer
      "digit" = true := by decide +kernel
  have second : isNamed (run (digit "chains" "expr") 9 (retold "chains" "expr") none).answer
      "again" = true := by decide +kernel
  obtain ⟨before, parsedBefore, nameBefore⟩ := exists_of_isNamed first
  obtain ⟨after, parsedAfter, nameAfter⟩ := exists_of_isNamed second
  exact ⟨told "chains" "expr", before, after, parsedBefore, parsedAfter, nameBefore, nameAfter⟩

end Renewal

end Parse

end Rulebook
