/-
This file says which source the tokens of a syntax tree carry. A match gives its own source to the
node that it passes on, so a token carries the source of the outermost match that it was passed on
by. No match takes more input than the one that it stands for, but an import may: in the grammar
that it leads to, whitespace is skipped before the rule is matched. So the source of a token is its
text, behind the whitespace that imports without a node of their own skipped on the way down to it.
-/

import Rulebook.Proofs.Ast.Composition
import Rulebook.Proofs.Parse.Assembly
import Rulebook.Proofs.Text.Counting
import Rulebook.Proofs.Tree.Extent
import Rulebook.Proofs.Tree.Yield

namespace Rulebook

open Match (Origin Tree)

/-- A rule of this kind leads to another grammar and makes no node of its own. -/
def RuleKind.isInlineImport : RuleKind → Bool
  | .imported rule => !rule.wrap
  | _ => false

/-- Whitespace that an import without a node of its own skipped on the way down to a leaf. -/
structure Match.Tree.SkippedFor (tree : Tree) (leaf blank : Nat) : Prop where
  matched : (tree.node blank).terminal = true
  skipped : (tree.node blank).whitespace = true
  imported : ∃ importer ∈ tree.lineage leaf, (tree.node blank).parent = some importer ∧
    ∃ rule, (tree.node importer).origin = .rule rule ∧ rule.kind.isInlineImport = true

namespace Ast.Builder

variable {builder : Builder} {build : Nat → Node} {rule : Rule} {id child leaf : Nat}
  {node : Node} {name source : String} {token : Token}

/-! ### The source of a match that stands for another -/

/-- A match with one semantic child has the source of that child, behind whitespace that was
skipped before the child. -/
theorem sourceText_of_alone (faithful : builder.source.Faithful)
    (intact : builder.tree.Intact builder.source.chars)
    (matched : ∀ blank ∈ (builder.tree.node id).children.toList,
      (builder.tree.node blank).whitespace = true → (builder.tree.node blank).terminal = true)
    (alone : builder.semantic id = [child]) :
    ∃ blanks, (∀ blank ∈ blanks, blank ∈ (builder.tree.node id).children.toList ∧
        (builder.tree.node blank).whitespace = true) ∧
      (builder.tree.Prompt id → blanks = []) ∧
      builder.sourceText id =
        builder.tree.tokenText builder.source blanks ++ builder.sourceText child := by
  obtain ⟨blanks, later, split, skipped, unskipped, prompt⟩ := intact.skipped_before alone
  have listed : child ∈ (builder.tree.node id).children.toList := by
    rw [split]
    exact List.mem_append_right _ List.mem_cons_self
  have among : ∀ blank ∈ blanks, blank ∈ (builder.tree.node id).children.toList := by
    intro blank member
    rw [split]
    exact List.mem_append_left _ member
  have inside := intact.child_inside listed
  obtain ⟨first, -, -⟩ := intact.spans id (intact.parent_inside listed)
  obtain ⟨first', -, -⟩ := intact.spans child inside
  have only : ∀ other ∈ (builder.tree.node id).children.toList,
      (builder.tree.node other).whitespace = false → other = child := by
    intro other listed kept
    have member := (mem_semantic intact).mpr ⟨listed, kept⟩
    rwa [alone, List.mem_singleton] at member
  rcases intact.contentEnd_of_alone listed unskipped only with equal | ⟨empty, empty'⟩
  · have filled := intact.filled id (intact.parent_inside listed)
      (intact.unmatched_of_child listed)
    rw [split] at filled
    obtain ⟨middle, left, rfl, -⟩ := Match.Tree.tiles_append.mp filled
    obtain ⟨text, le⟩ := left.tokenText_of_matched faithful first
      (fun blank member => matched blank (among blank member) (skipped blank member))
      fun blank member => (intact.spans blank (intact.child_inside (among blank member))).2
    obtain ⟨after, -, last⟩ := intact.contentEnd_bounds inside
    refine ⟨blanks, fun blank member => ⟨among blank member, skipped blank member⟩, prompt, ?_⟩
    rw [text, sourceText, sourceText, equal, faithful.slice_append first first' last le after]
  · refine ⟨[], fun _ absurd => (by cases absurd), fun _ => rfl, ?_⟩
    rw [sourceText, sourceText, empty, empty', faithful.slice_self first,
      faithful.slice_self first', Match.Tree.tokenText_nil, String.append_empty]

/-! ### What tokens carry -/

/-- A token of the syntax tree is made of a leaf. Its source is the text, behind whitespace that
was skipped on the way down to the leaf. -/
structure Labels (builder : Builder) (leaf : Nat) (name source : String) (token : Token) :
    Prop where
  matched : (builder.tree.node leaf).terminal = true
  made : ∃ rule, (builder.tree.node leaf).origin = .rule rule ∧ name = rule.name ∧
    token = builder.token leaf rule.name
  behind : ∃ blanks, (∀ blank ∈ blanks, builder.tree.SkippedFor leaf blank) ∧
    source = builder.tree.tokenText builder.source blanks ++ token.text

/-- A match that passes a token on gives it its own source. -/
theorem Labels.passed (faithful : builder.source.Faithful)
    (intact : builder.tree.Intact builder.source.chars)
    (made : ∀ id, builder.tree.WellMade id) (isRule : (builder.tree.node id).origin = .rule rule)
    (passesOn : rule.kind.passesOn = true) (alone : builder.semantic id = [child])
    (under : child ∈ builder.tree.lineage leaf)
    (labels : builder.Labels leaf name (builder.sourceText child) token) :
    id ∈ builder.tree.lineage leaf ∧ builder.Labels leaf name (builder.sourceText id) token := by
  have listed : child ∈ builder.semantic id := by
    rw [alone]
    exact List.mem_singleton_self child
  have above := Match.Tree.parent_mem_lineage intact.rising under
    (parent_of_mem_semantic intact listed)
  obtain ⟨blanks, skipped, prompt, equal⟩ :=
    sourceText_of_alone faithful intact (fun blank _ => (made blank).skipped) alone
  obtain ⟨inner, behind, text⟩ := labels.behind
  refine ⟨above, labels.matched, labels.made, blanks ++ inner, fun blank member => ?_, ?_⟩
  · rcases List.mem_append.mp member with here | there
    · obtain ⟨among, flag⟩ := skipped blank here
      have parent_eq := (intact.ordered id blank (Array.mem_toList_iff.mp among)).2
      refine ⟨(made blank).skipped flag, flag, id, above, parent_eq, rule, isRule, ?_⟩
      -- All other rules match what they stand for before they skip whitespace.
      by_cases imports : ∃ target, rule.kind = .imported target
      · obtain ⟨target, kind⟩ := imports
        rw [kind] at passesOn ⊢
        exact passesOn
      · rw [prompt ((made id).prompt rule isRule (not_exists.mp imports))] at here
        cases here
    · exact behind blank there
  · rw [equal, text, Match.Tree.tokenText_append, String.append_assoc]

/-- All tokens in a node that is made for a match carry what they should. If the node is a token
itself, then its leaf is at or below the match. -/
structure Reports (builder : Builder) (id : Nat) (node : Node) : Prop where
  top : ∀ {name source token}, node = .terminal name source token →
    ((builder.tree.node id).origin ≠ .root → source = builder.sourceText id) ∧
      ∃ leaf, id ∈ builder.tree.lineage leaf ∧ builder.Labels leaf name source token
  below : ∀ child ∈ node.children, ∀ {name source token},
    .terminal name source token ∈ child.subtrees → ∃ leaf, builder.Labels leaf name source token

theorem Reports.subtrees (reports : builder.Reports id node)
    (member : .terminal name source token ∈ node.subtrees) :
    ∃ leaf, builder.Labels leaf name source token := by
  rcases Node.mem_subtrees.mp member with rfl | ⟨child, listed, inner⟩
  · obtain ⟨-, leaf, -, labels⟩ := reports.top rfl
    exact ⟨leaf, labels⟩
  · exact reports.below child listed inner

theorem reports_missing (builder : Builder) (id : Nat) (name : String) :
    builder.Reports id (.missing name) where
  top absurd := by cases absurd
  below _ absurd := by cases absurd

/-- A node with children reports, if its children do. -/
theorem reports_of_children (composite : node.isComposite = true)
    (below : ∀ child ∈ node.children, ∀ {name source token},
      .terminal name source token ∈ child.subtrees →
        ∃ leaf, builder.Labels leaf name source token) : builder.Reports id node where
  top isTerminal := by
    rw [isTerminal] at composite
    cases composite
  below := below

/-- What stands for a part of a rule is not the root. -/
theorem origin_ne_root (made : builder.tree.WellMade id)
    (isRule : (builder.tree.node id).origin = .rule rule) (alone : builder.semantic id = [child]) :
    (builder.tree.node child).origin ≠ .root := by
  obtain ⟨parts, -, stand⟩ := made.parts rule isRule
  rw [semantic] at alone
  rw [alone] at stand
  obtain ⟨part, _, ⟨name, -, ⟨self, isSelf, -⟩ | ⟨-, isLambda⟩⟩, -, -⟩ :=
    List.forall₂_cons_right_iff.mp stand
  · rw [isSelf]
    exact Origin.noConfusion
  · rw [isLambda]
    exact Origin.noConfusion

section

variable (reports : ∀ child ∈ builder.semantic id, builder.Reports child (build child))
include reports

/-- Operands that have been put together contain the tokens of what they are made of. -/
theorem labels_folded (folded : Folded build rule.name (builder.semantic id) node)
    (member : .terminal name source token ∈ node.subtrees) :
    ∃ leaf, builder.Labels leaf name source token := by
  induction folded with
  | operand listed => exact (reports _ listed).subtrees member
  | application listed _ _ onLeft onRight =>
    rcases Node.mem_subtrees.mp member with absurd | ⟨child, among, below⟩
    · cases absurd
    · rcases Node.mem_children_ofChildren_three among with rfl | rfl | rfl
      · exact (reports _ listed).subtrees below
      · exact onLeft below
      · exact onRight below

/-- The node of a rule, given the source of the match. -/
theorem reports_composed (faithful : builder.source.Faithful)
    (intact : builder.tree.Intact builder.source.chars)
    (made : ∀ id, builder.tree.WellMade id)
    (isRule : (builder.tree.node id).origin = .rule rule)
    (composed : Composed builder build rule id node) :
    builder.Reports id (node.withSource (builder.sourceText id)) := by
  cases composed with
  | token isToken =>
    have matched := (made id).terminal rule isRule isToken
    refine ⟨fun isTerminal => ?_, fun _ absurd => by cases absurd⟩
    obtain ⟨rfl, rfl, rfl⟩ := Node.terminal.inj isTerminal
    refine ⟨fun _ => rfl, id, builder.tree.mem_lineage_self id, matched, ⟨rule, isRule, rfl, rfl⟩,
      [], fun _ absurd => (by cases absurd), ?_⟩
    rw [Match.Tree.tokenText_nil, String.empty_append, sourceText,
      Match.Tree.contentEnd_of_terminal matched]
    rfl
  | @passed child passesOn alone =>
    have listed : child ∈ builder.semantic id := by
      rw [alone]
      exact List.mem_singleton_self child
    have inner := reports child listed
    refine ⟨fun {name source token} isTerminal => ?_, ?_⟩
    · obtain ⟨⟨own, isTerminal'⟩, rfl⟩ := Node.withSource_eq_terminal isTerminal
      obtain ⟨own_eq, leaf, under, labels⟩ := inner.top isTerminal'
      rw [own_eq (origin_ne_root (made id) isRule alone)] at labels
      exact ⟨fun _ => rfl, leaf,
        labels.passed faithful intact made isRule passesOn alone under⟩
    · rw [Node.children_withSource]
      exact inner.below
  | gathered accessors gathers =>
    refine reports_of_children rfl fun inner member {_ _ _} below => ?_
    obtain ⟨child, listed, rfl⟩ := gathers inner member
    exact (reports child listed).subtrees below
  | applied _ listed onLeft onRight _ =>
    refine reports_of_children rfl fun inner member {_ _ _} below => ?_
    rw [Node.children_withSource] at member
    rcases Node.mem_children_ofChildren_three member with rfl | rfl | rfl
    · exact (reports _ listed).subtrees below
    · exact labels_folded reports onLeft below
    · exact labels_folded reports onRight below

end

/-- All tokens in the node of a match carry what they should. -/
theorem reports_buildWithin (faithful : builder.source.Faithful)
    (intact : builder.tree.Intact builder.source.chars)
    (made : ∀ id, builder.tree.WellMade id) (depth id : Nat) :
    builder.Reports id (builder.buildWithin depth id) := by
  induction depth generalizing id with
  | zero => exact reports_missing builder id ""
  | succ depth inductionHypothesis =>
    rw [buildWithin]
    cases isRule : (builder.tree.node id).origin with
    | root =>
      dsimp only
      cases first : (builder.semantic id).head? with
      | none => exact reports_missing builder id ""
      | some child =>
        have inner := inductionHypothesis child
        have parent_eq := parent_of_mem_semantic intact (List.mem_of_mem_head? first)
        refine ⟨fun isTerminal => ⟨fun absurd => (absurd isRule).elim, ?_⟩, inner.below⟩
        obtain ⟨-, leaf, under, labels⟩ := inner.top isTerminal
        exact ⟨leaf, Match.Tree.parent_mem_lineage intact.rising under parent_eq, labels⟩
    | lambda name => exact reports_missing builder id name
    | rule rule =>
      exact reports_composed (fun child _ => inductionHypothesis child) faithful intact made isRule
        (composed_ruleNode (made id) isRule)

/-- The text of a leaf is what the text has at the offset of the token. -/
theorem Labels.cut (faithful : builder.source.Faithful)
    (intact : builder.tree.Intact builder.source.chars)
    (labels : builder.Labels leaf name source token) :
    name = token.rule ∧ token.position = builder.source.position token.offset ∧
      ∃ before after, builder.source.chars = before ++ token.text.toList ++ after ∧
        byteCount before = token.offset := by
  obtain ⟨rule, isRule, rfl, rfl⟩ := labels.made
  obtain ⟨first, last, le⟩ := intact.spans leaf (Match.Tree.inside_of_rule isRule)
  obtain ⟨before, middle, after, cut, first_eq, last_eq⟩ := first.split last le
  have text : (builder.token leaf rule.name).text = String.ofList middle := by
    have slice := faithful.slice_eq cut
    rwa [last_eq, first_eq] at slice
  refine ⟨rfl, rfl, before, after, ?_, first_eq⟩
  rw [text, String.toList_ofList, cut]

end Ast.Builder

namespace Parse

/-- Every token of the syntax tree of a parsed text is what the text has at its offset, and its
position is the line and column of that offset. It is made of a match of its rule, and its source is
its text, behind the whitespace that imports without a node of their own skipped on the way down to
that match. If there are no such imports, the source is the text. -/
theorem tokens_report_their_text (input : String) (registry : Registry)
    (options : ParseOptions) (tracing : Bool) (first : Grammar) (start : Option String)
    (fuel : Nat) (result : ParseTree)
    (parsed : (run (Environment.ofText input registry options tracing) fuel first start).answer =
      .parsed result) (name source : String) (token : Ast.Token)
    (listed : .terminal name source token ∈ result.toAst.subtrees) :
    name = token.rule ∧
    (∃ before after, input.toList = before ++ token.text.toList ++ after ∧
      token.offset = byteCount before ∧ token.position = Position.after before) ∧
    ∃ leaf, (result.tree.node leaf).start = token.offset ∧
      (∃ rule, (result.tree.node leaf).origin = .rule rule ∧ rule.isToken = true ∧
        rule.name = name) ∧
      (∃ blanks, (∀ blank ∈ blanks, result.tree.SkippedFor leaf blank) ∧
        source = result.tree.tokenText result.source blanks ++ token.text) ∧
      ((∀ importer ∈ result.tree.lineage leaf, ∀ rule,
        (result.tree.node importer).origin = .rule rule → rule.kind.isInlineImport = false) →
        source = token.text) := by
  have faithful := Environment.faithful_ofText input registry options tracing
  obtain ⟨_, after, -, done, nothingLeft, rfl⟩ := exists_of_parsed parsed
  have intact := (covers_of_done faithful done nothingLeft).1
  have made := wellMade_of_done faithful done
  obtain ⟨leaf, labels⟩ :=
    (Ast.Builder.reports_buildWithin faithful intact made _ Tree.root).subtrees listed
  obtain ⟨name_eq, position_eq, before, rest, cut, offset_eq⟩ := labels.cut faithful intact
  refine ⟨name_eq, ⟨before, rest, cut, offset_eq.symm, ?_⟩, leaf, ?_, ?_, labels.behind,
    fun plain => ?_⟩
  · have behind : input.toList = before ++ (token.text.toList ++ rest) := by
      rw [← List.append_assoc]
      exact cut
    rw [position_eq, ← offset_eq]
    exact Source.position_ofString behind
  · obtain ⟨rule, -, -, rfl⟩ := labels.made
    rfl
  · obtain ⟨rule, isRule, rfl, -⟩ := labels.made
    obtain ⟨-, self, isSelf, isToken⟩ := intact.terminal leaf labels.matched
    rw [isRule] at isSelf
    obtain rfl := Origin.rule.inj isSelf
    exact ⟨rule, isRule, isToken, rfl⟩
  · obtain ⟨blanks, behind, text⟩ := labels.behind
    cases blanks with
    | nil => rw [text, Tree.tokenText_nil, String.empty_append]
    | cons blank rest =>
      obtain ⟨importer, above, -, rule, isRule, inline⟩ :=
        (behind blank List.mem_cons_self).imported
      rw [plain importer above rule isRule] at inline
      cases inline

/-- Digits behind blanks. -/
def blanksAndDigits : Grammar :=
  .ofCalls Workspace.compile "h" [.token "ws" "[ ]+" true, .token "num" "[0-9]+" false]

/-- Nothing but an import of digits, which makes no node of its own. -/
def importedDigits : Grammar :=
  .ofCalls Workspace.compile "g" [.imported "imp" "h" "num" false, .startSymbol "imp"]

/-- Digits are published, and a digit behind a blank is to be parsed. -/
def digitBehindBlank : Environment :=
  .ofText " 1" (Registry.register {} blanksAndDigits).1 {} false

/-- The source of an imported digit is the digit, behind blanks. -/
theorem imported_digit_reports : ∃ result,
    (run digitBehindBlank 6 importedDigits none).answer = .parsed result ∧
      .terminal "num" " 1" ⟨"1", "num", 1, ⟨1, 2⟩⟩ ∈ result.toAst.subtrees ∧
      ∃ leaf blanks, (∀ blank ∈ blanks, result.tree.SkippedFor leaf blank) ∧
        " 1" = result.tree.tokenText result.source blanks ++ "1" := by
  obtain ⟨result, parsed, name_eq, source_eq, token_eq⟩ : ∃ result,
      (run digitBehindBlank 6 importedDigits none).answer = .parsed result ∧
        result.toAst.name = "num" ∧ result.toAst.source = " 1" ∧
        result.toAst.token? = some ⟨"1", "num", 1, ⟨1, 2⟩⟩ := by
    decide +kernel
  have listed : .terminal "num" " 1" ⟨"1", "num", 1, ⟨1, 2⟩⟩ ∈ result.toAst.subtrees := by
    have top := result.toAst.mem_subtrees_self
    rw [Ast.Node.eq_terminal_of_token? token_eq, name_eq, source_eq] at top
    rwa [Ast.Node.eq_terminal_of_token? token_eq, name_eq, source_eq]
  obtain ⟨-, -, leaf, -, -, ⟨blanks, behind, text⟩, -⟩ := tokens_report_their_text " 1"
    (Registry.register {} blanksAndDigits).1 {} false importedDigits none 6 result parsed
    "num" " 1" ⟨"1", "num", 1, ⟨1, 2⟩⟩ listed
  exact ⟨result, parsed, listed, leaf, blanks, behind, text⟩

/-- The source of an imported digit is not its text. -/
theorem imported_digit_has_longer_source : ∃ result,
    (run digitBehindBlank 6 importedDigits none).answer = .parsed result ∧
      result.toAst.isTerminal = true ∧ result.toAst.source = " 1" ∧
      result.toAst.token? = some ⟨"1", "num", 1, ⟨1, 2⟩⟩ := by
  decide +kernel

end Parse

end Rulebook
