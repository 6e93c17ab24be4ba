/-
This file compares rules with the rules of the same names in another grammar. A rule may have
the same kind there, it may be a token that matches the same texts, or it may be an import
whose place is taken by a choice with one alternative. A syntax tree does not tell which of
the two grammars it comes from.
-/

import Rulebook.Ast.Build
import Rulebook.Proofs.Grammar.References
import Rulebook.Proofs.Tree.Relabel

namespace Rulebook

open Match (Tree)

/-! ### Kinds -/

/-- Two kinds of rules are alike: they are the same, or they are tokens that match the same
texts, or an import and a choice of nothing but the rule that is imported. -/
inductive RuleKind.Like : RuleKind → RuleKind → Prop where
  | token {left right : TokenRule}
    (matchAt?_eq : ∀ source offset, right.matchAt? source offset = left.matchAt? source offset)
    (whitespace_eq : right.whitespace = left.whitespace)
    (isKeyword_eq : right.isKeyword = left.isKeyword) : Like (.token left) (.token right)
  | sequence (items : List SequenceItem) : Like (.sequence items) (.sequence items)
  | choice (rule : ChoiceRule) : Like (.choice rule) (.choice rule)
  | list (rule : ListRule) : Like (.list rule) (.list rule)
  | set (rule : SetRule) : Like (.set rule) (.set rule)
  | operator (rule : OperatorRule) : Like (.operator rule) (.operator rule)
  | imported (target : ImportRule) :
    Like (.imported target) (.choice { alternatives := [target.rule], wrap := target.wrap })

/-- Two kinds of rules make the same nodes of a syntax tree: they are alike, or they are sets that
differ in their items alone. -/
inductive RuleKind.Resembles : RuleKind → RuleKind → Prop where
  | like {left right : RuleKind} (like : left.Like right) : Resembles left right
  | set {left right : SetRule} (right_eq : right = { left with items := right.items }) :
    Resembles (.set left) (.set right)

/-- A choice of nothing but the rule that is imported, in the place of an import. -/
def RuleKind.inlined : RuleKind → RuleKind
  | .imported target => .choice { alternatives := [target.rule], wrap := target.wrap }
  | kind => kind

/-- A rule of the same name and of a like kind is found in a grammar. -/
def Grammar.StandsFor (merged : Grammar) (rule : Rule) : Prop :=
  ∃ other, merged.rule? rule.name = some other ∧ rule.kind.Like other.kind

/-- The rule of the same name in a grammar, or the rule itself if there is none. -/
def Grammar.counterpart (merged : Grammar) (rule : Rule) : Rule :=
  (merged.rule? rule.name).getD rule

variable {merged grammar : Grammar} {rule other : Rule} {name : String}

theorem Grammar.rule?_self (found : grammar.rule? name = some rule) :
    grammar.rule? rule.name = some rule := by
  rw [rule?_name found, found]

/-- Rules that are found under their names are the same declaration if their names are the
same. -/
theorem Grammar.same_of_rule? (found : grammar.rule? rule.name = some rule)
    (found' : grammar.rule? other.name = some other) :
    other.same rule = (other.name == rule.name) := by
  by_cases named : other.name = rule.name
  · rw [named, found] at found'
    rw [← Option.some.inj found', Rule.same_self, beq_self_eq_true]
  · rw [Rule.same, beq_false_of_ne named, Bool.false_and]

theorem Grammar.counterpart_of_rule? (found : merged.rule? rule.name = some other) :
    merged.counterpart rule = other := by
  rw [counterpart, found, Option.getD_some]

@[simp]
theorem Grammar.counterpart_name (merged : Grammar) (rule : Rule) :
    (merged.counterpart rule).name = rule.name := by
  rw [counterpart]
  cases found : merged.rule? rule.name with
  | none => rfl
  | some other => exact rule?_name found

theorem Grammar.StandsFor.like (standsFor : merged.StandsFor rule) :
    rule.kind.Like (merged.counterpart rule).kind := by
  obtain ⟨other, found, like⟩ := standsFor
  rw [counterpart_of_rule? found]
  exact like

theorem RuleKind.Like.refl_right {kind other : RuleKind} (like : kind.Like other) :
    other.Like other := by
  cases like with
  | token => exact .token (fun _ _ => rfl) rfl rfl
  | imported target => exact .choice _
  | sequence items => exact .sequence items
  | choice rule => exact .choice rule
  | list rule => exact .list rule
  | set rule => exact .set rule
  | operator rule => exact .operator rule

/-- A rule that stands for another one stands for itself. -/
theorem Grammar.StandsFor.counterpart (standsFor : merged.StandsFor rule) :
    merged.StandsFor (merged.counterpart rule) := by
  obtain ⟨other, found, like⟩ := standsFor
  rw [Grammar.counterpart_of_rule? found]
  exact ⟨other, Grammar.rule?_self found, like.refl_right⟩

theorem RuleKind.like_inlined (kind : RuleKind) : kind.Like kind.inlined := by
  cases kind with
  | token token => exact .token (fun _ _ => rfl) rfl rfl
  | sequence items => exact .sequence items
  | choice rule => exact .choice rule
  | list rule => exact .list rule
  | set rule => exact .set rule
  | operator rule => exact .operator rule
  | imported target => exact .imported target

/-- Only imports are replaced. -/
theorem Rule.inlined_eq (plain : rule.isImport = false) : rule.kind.inlined = rule.kind := by
  rw [isImport] at plain
  cases kind : rule.kind with
  | imported target =>
    rw [kind] at plain
    cases plain
  | _ => rfl

namespace Grammar

theorem rule?_of_mem_whitespaceTokens {grammar : Grammar}
    (member : rule ∈ grammar.whitespaceTokens) : grammar.rule? rule.name = some rule := by
  obtain ⟨name, -, found⟩ := List.mem_filterMap.mp member
  exact rule?_self found

/-- Whitespace tokens of the same names are counterparts. -/
theorem whitespaceTokens_eq_of_names {grammar : Grammar}
    (names_eq : merged.whitespaceTokens.map (·.name) = grammar.whitespaceTokens.map (·.name)) :
    merged.whitespaceTokens = grammar.whitespaceTokens.map merged.counterpart := by
  have standing : ∀ rule ∈ merged.whitespaceTokens, merged.rule? rule.name = some rule :=
    fun rule member => rule?_of_mem_whitespaceTokens member
  generalize merged.whitespaceTokens = left, grammar.whitespaceTokens = right at *
  induction left generalizing right with
  | nil => rw [List.map_nil, eq_comm, List.map_eq_nil_iff] at names_eq; rw [names_eq, List.map_nil]
  | cons rule rest inductionHypothesis =>
    cases right with
    | nil => cases names_eq
    | cons other others =>
      obtain ⟨name_eq, names_eq⟩ := List.cons.inj names_eq
      have found : merged.rule? other.name = some rule :=
        (congrArg merged.rule? name_eq).symm.trans (standing rule List.mem_cons_self)
      rw [List.map_cons, counterpart_of_rule? found, inductionHypothesis others names_eq
        fun rule member => standing rule (List.mem_cons_of_mem _ member)]

end Grammar

/-! ### What is read off a rule -/

namespace Rule

theorem isToken_of_like (like : rule.kind.Like other.kind) : other.isToken = rule.isToken := by
  rw [isToken, token?, isToken, token?]
  generalize rule.kind = left, other.kind = right at like
  cases like <;> rfl

variable (resembles : rule.kind.Resembles other.kind)
include resembles

theorem isWhitespace_of_resembles : other.isWhitespace = rule.isWhitespace := by
  rw [isWhitespace, token?, isWhitespace, token?]
  generalize rule.kind = left, other.kind = right at resembles
  cases resembles with
  | set => rfl
  | like like =>
    cases like with
    | token matchAt?_eq whitespace_eq isKeyword_eq => exact whitespace_eq
    | _ => rfl

theorem isKeyword_of_resembles : other.isKeyword = rule.isKeyword := by
  rw [isKeyword, token?, isKeyword, token?]
  generalize rule.kind = left, other.kind = right at resembles
  cases resembles with
  | set => rfl
  | like like =>
    cases like with
    | token matchAt?_eq whitespace_eq isKeyword_eq => exact isKeyword_eq
    | _ => rfl

end Rule

/-! ### Syntax trees -/

/-- All rules of a tree have rules standing for them in a grammar. -/
def Match.Tree.Settled (merged : Grammar) (tree : Tree) : Prop :=
  ∀ id rule, (tree.node id).rule? = some rule → merged.StandsFor rule

/-- A change of rules leaves the rules of a tree their names, and gives them kinds that make the
same nodes. -/
def Match.Tree.Likens (change : Rule → Rule) (tree : Tree) : Prop :=
  ∀ id rule, (tree.node id).rule? = some rule →
    (change rule).name = rule.name ∧ rule.kind.Resembles (change rule).kind

theorem Match.Tree.Settled.likens {tree : Tree} (settled : tree.Settled merged) :
    tree.Likens merged.counterpart :=
  fun id rule found => ⟨merged.counterpart_name rule, .like (settled id rule found).like⟩

namespace Ast.Builder

variable {source : Source} {tree : Tree} {change : Rule → Rule}

theorem contentEnd_relabel (change : Rule → Rule) (id : Nat) :
    (tree.relabel change).contentEnd id = tree.contentEnd id := by
  have within : ∀ depth id, (tree.relabel change).contentEndWithin depth id =
      tree.contentEndWithin depth id := by
    intro depth
    induction depth with
    | zero => exact Tree.stop_relabel
    | succ depth inductionHypothesis =>
      intro id
      simp only [Tree.contentEndWithin, Tree.node_relabel, inductionHypothesis]
      rfl
  rw [Tree.contentEnd, Tree.contentEnd, Tree.size_relabel, within]

/-- A builder on the same tree with other rules. -/
def relabel (change : Rule → Rule) (builder : Builder) : Builder :=
  { builder with tree := builder.tree.relabel change }

/-- A builder on the same tree with the rules of another grammar. -/
def recast (builder : Builder) (merged : Grammar) : Builder :=
  { builder with tree := builder.tree.relabel merged.counterpart }

variable {builder : Builder} {build : Nat → Node}

theorem semantic_relabel (id : Nat) :
    (builder.relabel change).semantic id = builder.semantic id := by
  rw [semantic, relabel, Tree.node_relabel]
  rfl

theorem sourceText_relabel (id : Nat) :
    (builder.relabel change).sourceText id = builder.sourceText id := by
  rw [sourceText, relabel, contentEnd_relabel, Tree.node_relabel]
  rfl

theorem token_relabel (id : Nat) (name : String) :
    (builder.relabel change).token id name = builder.token id name := by
  rw [token, relabel, Tree.node_relabel]
  rfl

section

variable (likens : builder.tree.Likens change)
include likens

theorem ruleName?_relabel (id : Nat) :
    (builder.relabel change).ruleName? id = builder.ruleName? id := by
  rw [ruleName?, relabel, Tree.rule?_relabel, ruleName?]
  cases found : (builder.tree.node id).rule? with
  | none => rfl
  | some rule => exact congrArg some (likens id rule found).1

theorem isWhitespaceToken_relabel (id : Nat) :
    ((builder.relabel change).tree.node id).isWhitespaceToken =
      (builder.tree.node id).isWhitespaceToken := by
  rw [Match.Node.isWhitespaceToken, relabel, Tree.rule?_relabel, Match.Node.isWhitespaceToken]
  cases found : (builder.tree.node id).rule? with
  | none => rfl
  | some rule => exact Rule.isWhitespace_of_resembles (likens id rule found).2

theorem isKeyword_relabel (id : Nat) :
    ((builder.relabel change).tree.node id).isKeyword = (builder.tree.node id).isKeyword := by
  rw [Match.Node.isKeyword, relabel, Tree.rule?_relabel, Match.Node.isKeyword]
  cases found : (builder.tree.node id).rule? with
  | none => rfl
  | some rule => exact Rule.isKeyword_of_resembles (likens id rule found).2

theorem sequenceParts_relabel (names : List (String × Nat)) (count : Nat)
    (items : List (SequenceItem × Nat)) :
    (builder.relabel change).sequenceParts build names count items =
      builder.sequenceParts build names count items := by
  induction items generalizing names count with
  | nil => rfl
  | cons item rest inductionHypothesis =>
    simp only [sequenceParts, isKeyword_relabel likens, isWhitespaceToken_relabel likens,
      inductionHypothesis]

theorem items_relabel (opened separated closed : Bool) (id : Nat) :
    (builder.relabel change).items opened separated closed id =
      builder.items opened separated closed id := by
  have semantic_eq : ((builder.relabel change).tree.node id).semantic =
      (builder.tree.node id).semantic := by
    rw [relabel, Tree.node_relabel]
    rfl
  simp only [items, semantic_eq, isWhitespaceToken_relabel likens]

/-- Rules of such kinds make the same node, if the same is made of what is below. -/
theorem ruleNode_relabel {rule other : Rule} (name_eq : other.name = rule.name)
    (resembles : rule.kind.Resembles other.kind) (id : Nat) :
    (builder.relabel change).ruleNode build other id = builder.ruleNode build rule id := by
  rw [ruleNode, ruleNode, name_eq]
  generalize rule.kind = left, other.kind = right at resembles
  cases resembles with
  | @set left right right_eq =>
    dsimp only
    rw [setNode, setNode, items_relabel likens, right_eq]
  | like like =>
    cases like with
    | token => dsimp only; rw [token_relabel]
    | sequence items =>
      dsimp only
      rw [sequenceNode, sequenceNode, semantic_relabel, sequenceParts_relabel likens]
    | choice choice => dsimp only; rw [standIn, standIn, semantic_relabel]
    | list list =>
      simp only [listNode, items_relabel likens, ruleName?_relabel likens]
    | set set => dsimp only; rw [setNode, setNode, items_relabel likens]
    | operator operator => dsimp only; rw [operatorNode, operatorNode, semantic_relabel]
    | imported target => dsimp only; rw [standIn, standIn, semantic_relabel]

/-- Rules of the same names and of such kinds give the same syntax tree. -/
theorem buildWithin_relabel (depth : Nat) :
    (builder.relabel change).buildWithin depth = builder.buildWithin depth := by
  induction depth with
  | zero => rfl
  | succ depth inductionHypothesis =>
    funext id
    have origin_eq : ((builder.relabel change).tree.node id).origin =
        (builder.tree.node id).origin.relabel change := by
      rw [relabel, Tree.node_relabel]
      rfl
    rw [buildWithin, buildWithin, origin_eq, semantic_relabel, sourceText_relabel,
      inductionHypothesis]
    cases isRule : (builder.tree.node id).origin with
    | root => rfl
    | lambda name => rfl
    | rule rule =>
      have found : (builder.tree.node id).rule? = some rule := by
        rw [Match.Node.rule?, isRule]
      obtain ⟨name_eq, resembles⟩ := likens id rule found
      refine congrArg (Node.withSource (builder.sourceText id)) ?_
      exact ruleNode_relabel likens name_eq resembles id

theorem build_relabel (id : Nat) : (builder.relabel change).build id = builder.build id := by
  rw [build, build, buildWithin_relabel likens]
  exact congrArg (builder.buildWithin · id) Tree.size_relabel

end

/-- Rules that stand for one another give the same syntax tree. -/
theorem build_recast (settled : builder.tree.Settled merged) (id : Nat) :
    (builder.recast merged).build id = builder.build id :=
  build_relabel settled.likens id

end Ast.Builder

end Rulebook
