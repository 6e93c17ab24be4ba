/-
This file says what the syntax trees of lists and sets show. A semantic child of a match of a list
or a set was taken as a delimiter, as a separator or as an item. The node of the match has the nodes
of the items for children, in their order and without whitespace tokens, and nothing else. It does
not know what a child was taken as: it goes by the number of children and by the options of the
rule, and this file shows that these two say enough, for all numbers and all options.
-/

import Rulebook.Proofs.Ast.Composition
import Rulebook.Proofs.Ast.Depth
import Rulebook.Proofs.Parse.Lists
import Rulebook.Proofs.Parse.Sets

namespace Rulebook

open Match (Tree)

namespace Ast.Builder

variable {builder : Builder} {chars : List Char} {grammar : Grammar} {kind : RuleKind}
  {rule : Rule} {parts : List Part} {id : Nat}

/-- Of the semantic children of a match, those that stand for items and are not whitespace
tokens. -/
def takenItems (builder : Builder) (parts : List Part) (id : Nat) : List Nat :=
  ((parts.zip (builder.semantic id)).filter fun entry =>
    entry.1.isItem && !(builder.tree.node entry.2).isWhitespaceToken).map Prod.snd

/-- A match reads as parts that its rule takes, and its node has the nodes of what it took as items
for children, however it is read. -/
structure ShowsItems (builder : Builder) (grammar : Grammar) (kind : RuleKind) (id : Nat) :
    Prop where
  reads : ∃ parts, kind.Takes parts ∧
    Parse.ReadsAs grammar kind builder.tree parts (builder.semantic id)
  children_eq : ∀ parts, kind.Takes parts →
    Parse.ReadsAs grammar kind builder.tree parts (builder.semantic id) →
      (builder.build id).children = (builder.takenItems parts id).map builder.build

/-- What reads as parts of a rule stands for them. -/
theorem stand_of_reads {children : List Nat}
    (reads : Parse.ReadsAs grammar kind builder.tree parts children) :
    List.Forall₂ (builder.tree.StandsFor kind) parts children := by
  refine reads.imp fun part child answer => ?_
  obtain ⟨name, asked, inner, found, isInner⟩ := answer
  exact ⟨name, asked, .inl ⟨inner, isInner, Grammar.rule?_name found⟩⟩

/-- If a rule leaves out whitespace tokens and all that is no item, then what it does not leave out
are the items. -/
theorem filter_omits_of_items (intact : builder.tree.Intact chars)
    (isRule : (builder.tree.node id).origin = .rule rule)
    (stand : List.Forall₂ (builder.tree.StandsFor rule.kind) parts (builder.semantic id))
    (omits_eq : ∀ part child,
      rule.kind.omits part child = (!part.isItem || child.isWhitespaceToken)) :
    (builder.semantic id).filter (!builder.tree.omits (fun _ => parts) id ·) =
      builder.takenItems parts id := by
  refine (map_filter_zip stand.length_eq fun index part child found listed => ?_).symm
  rw [intact.omits_eq isRule found listed, omits_eq, Bool.not_or, Bool.not_not]

/-- A match shows its items if the node of its rule shows what the rule does not leave out. -/
theorem showsItems_of_shown (intact : builder.tree.Intact chars)
    (isMatch : Parse.MatchFrom grammar rule builder.tree id)
    (strict : ∀ part, rule.kind.mayLack part = false)
    (omits_eq : ∀ part child,
      rule.kind.omits part child = (!part.isItem || child.isWhitespaceToken))
    (shown : ∀ parts, rule.kind.Takes parts →
      List.Forall₂ (builder.tree.StandsFor rule.kind) parts (builder.semantic id) →
        (builder.ruleNode builder.build rule id).children =
          ((builder.semantic id).filter (!builder.tree.omits (fun _ => parts) id ·)).map
            builder.build) :
    builder.ShowsItems grammar rule.kind id where
  reads := isMatch.reads strict
  children_eq parts takes reads := by
    have stand := stand_of_reads reads
    rw [build_of_rule intact isMatch.isRule, Node.children_withSource, shown parts takes stand,
      filter_omits_of_items intact isMatch.isRule stand omits_eq]

end Ast.Builder

namespace Parse

/-- The nodes of all matches of lists and sets have the nodes of the items for children. A list
tells its items from the separators by their name, so it must not ask for the same rule as both. -/
theorem lists_and_sets_show_items (input : String) (registry : Registry) (options : ParseOptions)
    (tracing : Bool) (first : Grammar) :
    let environment := Environment.ofText input registry options tracing
    (OfMatches RuleKind.list environment first fun grammar list builder id =>
      list.separator ≠ some list.item → builder.ShowsItems grammar (.list list) id) ∧
    OfMatches RuleKind.set environment first fun grammar set builder id =>
      builder.ShowsItems grammar (.set set) id := by
  intro environment
  have faithful := Environment.faithful_ofText input registry options tracing
  refine ⟨ofMatches_of_matchFrom faithful (fun _ _ => ⟨rfl, rfl⟩)
      fun grammar rule list tree id intact isMatch kind distinct => ?_,
    ofMatches_of_matchFrom faithful (fun _ _ => ⟨rfl, rfl⟩)
      fun grammar rule set tree id intact isMatch kind => ?_⟩
  · rw [← kind]
    refine Ast.Builder.showsItems_of_shown intact isMatch (fun part => by rw [kind]; rfl)
      (fun part child => by rw [kind]; rfl) fun parts takes stand => ?_
    rw [← Ast.Builder.shownBelow_list intact isMatch.isRule takes stand kind distinct,
      Ast.Builder.ruleNode, kind]
    rfl
  · rw [← kind]
    refine Ast.Builder.showsItems_of_shown intact isMatch (fun part => by rw [kind]; rfl)
      (fun part child => by rw [kind]; rfl) fun parts takes stand => ?_
    rw [← Ast.Builder.shownBelow_set intact isMatch.isRule takes stand kind,
      Ast.Builder.ruleNode, kind]
    rfl

/-- A row shows its two items, without the delimiters and the separators, of which one stands behind
the last item. A set shows its two items without the separator between them. -/
theorem items_are_shown :
    (∃ result grammar, ∃ list : ListRule,
      (run (Environment.ofText "<x,x,>" {} {} false) 6 rowsOfItems none).answer =
        .parsed result ∧ list.separator ≠ some list.item ∧
      (Ast.Builder.mk result.source result.tree).ShowsItems grammar (.list list) 1 ∧
      (result.tree.node 1).semantic.size = 6 ∧
      result.toAst.children.map (·.source) = ["x", "x"]) ∧
    ∃ result grammar, ∃ set : SetRule,
      (run (Environment.ofText "b,a" {} {} false) 6 (anyOrder (some "comma")) none).answer =
        .parsed result ∧
      (Ast.Builder.mk result.source result.tree).ShowsItems grammar (.set set) 1 ∧
      (result.tree.node 1).semantic.size = 3 ∧
      result.toAst.children.map (·.source) = ["b", "a"] := by
  constructor
  · obtain ⟨result, parsed, isList, size_eq, shown⟩ : ∃ result,
        (run (Environment.ofText "<x,x,>" {} {} false) 6 rowsOfItems none).answer =
          .parsed result ∧
        (result.tree.node 1).rule?.any (fun rule =>
          rule.kind.label == "list" && rule.kind.hasDistinctSeparator) = true ∧
        (result.tree.node 1).semantic.size = 6 ∧
        result.toAst.children.map (·.source) = ["x", "x"] := by
      decide +kernel
    obtain ⟨rule, isRule, passes⟩ := Match.Node.exists_rule isList
    cases kind : rule.kind with
    | list list =>
      rw [kind] at passes
      have distinct := bne_iff_ne.mp passes
      obtain ⟨grammar, -, -, shows⟩ :=
        (lists_and_sets_show_items "<x,x,>" {} {} false rowsOfItems).1.2 6 none result parsed 1
          rule list isRule kind
      exact ⟨result, grammar, list, parsed, distinct, shows distinct, size_eq, shown⟩
    | _ =>
      rw [kind] at passes
      cases passes
  · obtain ⟨result, parsed, isSet, size_eq, shown⟩ : ∃ result,
        (run (Environment.ofText "b,a" {} {} false) 6 (anyOrder (some "comma")) none).answer =
          .parsed result ∧ (result.tree.node 1).rule?.any (·.kind.label == "set") = true ∧
        (result.tree.node 1).semantic.size = 3 ∧
        result.toAst.children.map (·.source) = ["b", "a"] := by
      decide +kernel
    obtain ⟨rule, isRule, labelled⟩ := Match.Node.exists_rule isSet
    cases kind : rule.kind with
    | set set =>
      obtain ⟨grammar, -, -, shows⟩ :=
        (lists_and_sets_show_items "b,a" {} {} false (anyOrder (some "comma"))).2.2 6 none result
          parsed 1 rule set isRule kind
      exact ⟨result, grammar, set, parsed, shows, size_eq, shown⟩
    | _ =>
      rw [kind] at labelled
      cases labelled

end Parse

end Rulebook
