/-
This file says what it means that something is true of all matches of a kind that a parse makes.
A request that succeeds leaves a match, also if it is given up later on, and the tree of a parsed
text is made of matches. Either way a match is well made, like everything below it, and it has its
rule and the rules of its parts from one grammar. What follows from this is true of all matches.
-/

import Rulebook.Proofs.Parse.Belonging
import Rulebook.Proofs.Parse.Coverage

namespace Rulebook

/-- A node whose rule passes a test has a rule. -/
theorem Match.Node.exists_rule {node : Match.Node} {test : Rule → Bool}
    (passes : node.rule?.any test = true) :
    ∃ rule, node.origin = .rule rule ∧ test rule = true := by
  rw [rule?] at passes
  cases origin_eq : node.origin with
  | rule rule =>
    rw [origin_eq] at passes
    exact ⟨rule, rfl, passes⟩
  | _ =>
    rw [origin_eq] at passes
    cases passes

namespace Parse

open Match (Tree)

variable {Form : Type} {kind : Form → RuleKind} {environment : Environment}
  {first grammar : Grammar} {state after : State} {tree : Tree} {parent fuel id : Nat}
  {name : String} {rule : Rule}

/-- A node is a match of a rule. It is well made, like the nodes after it, and the rules of its
parts come from the grammar that its rule comes from. -/
structure MatchFrom (grammar : Grammar) (rule : Rule) (tree : Tree) (id : Nat) : Prop where
  found : grammar.rule? rule.name = some rule
  isRule : (tree.node id).origin = .rule rule
  parts : PartsFrom grammar tree id
  made : ∀ other, id ≤ other → tree.WellMade other

/-- What stands for a part is a match of the rule that is asked for, or the mark that it matched
nothing. -/
theorem MatchFrom.answers (isMatch : MatchFrom grammar rule tree id) {child : Nat} {part : Part}
    (listed : child ∈ (tree.node id).semantic) (stands : tree.StandsFor rule.kind part child)
    (asked : rule.kind.partName? part = some name) : IsMatch grammar name tree child ∨
      rule.kind.mayLack part = true ∧ (tree.node child).origin = .lambda name := by
  obtain ⟨own, asked', ⟨inner, isInner, named⟩ | ⟨lacks, isLambda⟩⟩ := stands
  · obtain rfl := Option.some.inj (asked'.symm.trans asked)
    exact .inl ⟨inner, named ▸ isMatch.parts child listed inner isInner, isInner⟩
  · obtain rfl := Option.some.inj (asked'.symm.trans asked)
    exact .inr ⟨lacks, isLambda⟩

/-- Some nodes read as parts of a rule: each of them is a match of the rule that is asked for as the
part, in one and the same grammar. -/
def ReadsAs (grammar : Grammar) (kind : RuleKind) (tree : Tree) : List Part → List Nat → Prop :=
  List.Forall₂ fun part child =>
    ∃ name, kind.partName? part = some name ∧ IsMatch grammar name tree child

/-- If no part may match nothing, then what stands for parts reads as them. -/
theorem MatchFrom.reads_of_stand (isMatch : MatchFrom grammar rule tree id)
    (strict : ∀ part, rule.kind.mayLack part = false) {parts : List Part}
    (stand : List.Forall₂ (tree.StandsFor rule.kind) parts (tree.node id).semantic.toList) :
    ReadsAs grammar rule.kind tree parts (tree.node id).semantic.toList := by
  obtain ⟨length_eq, stand⟩ := List.forall₂_iff_get.mp stand
  refine List.forall₂_iff_get.mpr ⟨length_eq, fun index bound within => ?_⟩
  obtain ⟨name, asked, -⟩ := stand index bound within
  refine ⟨name, asked, (isMatch.answers ?_ (stand index bound within) asked).resolve_right ?_⟩
  · exact Array.mem_toList_iff.mp (List.get_mem _ _)
  · rintro ⟨absurd, -⟩
    rw [strict] at absurd
    cases absurd

/-- If no part may match nothing, then the semantic children of a match read as parts that its rule
may take. -/
theorem MatchFrom.reads (isMatch : MatchFrom grammar rule tree id)
    (strict : ∀ part, rule.kind.mayLack part = false) : ∃ parts, rule.kind.Takes parts ∧
      ReadsAs grammar rule.kind tree parts (tree.node id).semantic.toList := by
  obtain ⟨parts, takes, stand⟩ := (isMatch.made id (Nat.le_refl id)).parts rule isMatch.isRule
  exact ⟨parts, takes, isMatch.reads_of_stand strict stand⟩

/-- A property holds of all matches of rules of a kind: of the match that a request leaves, in
whatever state of a parse and at whatever open node it is made, and of the matches in the tree of a
parsed text. The property is one of a grammar, of the form of a rule that comes from it, and of the
match. -/
def OfMatches (kind : Form → RuleKind) (environment : Environment) (first : Grammar)
    (property : Grammar → Form → Ast.Builder → Nat → Prop) : Prop :=
  (∀ start state parent, Reachable environment first start state → state.tree.Open parent →
    ∀ fuel name after, (consume environment fuel parent name state).outcome = .done true after →
    ∀ rule form, state.grammar.rule? name = some rule → rule.kind = kind form →
      (after.tree.node state.tree.size).origin = .rule rule ∧
        property state.grammar form ⟨environment.source, after.tree⟩ state.tree.size) ∧
  ∀ fuel start result, (run environment fuel first start).answer = .parsed result →
    ∀ id rule form, (result.tree.node id).origin = .rule rule → rule.kind = kind form →
      ∃ grammar, Active environment first grammar ∧ grammar.rule? rule.name = some rule ∧
        property grammar form ⟨result.source, result.tree⟩ id

/-- A request for a rule that is no token and no import leaves a match of it if it succeeds. -/
theorem matchFrom_of_request (faithful : environment.source.Faithful)
    (ready : Ready environment first parent state)
    (done : (consume environment fuel parent name state).outcome = .done true after)
    (found : state.grammar.rule? name = some rule) (notToken : rule.isToken = false)
    (notImport : rule.isImport = false) :
    after.tree.Intact environment.source.chars ∧
      MatchFrom state.grammar rule after.tree state.tree.size := by
  have supplies : Supplies environment first (consume environment fuel) :=
    supplies_consume faithful fuel
  have formed := supplies.forms parent name state after ready done
  obtain ⟨own, found', isRule, parts⟩ := parts_of_request faithful ready done
  obtain rfl := Option.some.inj (found'.symm.trans found)
  refine ⟨((supplies.reliable parent name state ready).returns _ _ done).sound.tree,
    by rwa [Grammar.rule?_name found], isRule, parts notToken notImport, fun other le => ?_⟩
  by_cases inside : other < after.tree.size
  · exact formed other le inside
  · exact Tree.wellMade_of_size_le (Nat.le_of_not_lt inside)

/-- In a finished tree, what has the rule of a match is a match. -/
theorem matchFrom_of_done (faithful : environment.source.Faithful)
    (done : (begin environment fuel name (State.initial first environment.options)).outcome =
      .done true after) (isRule : (after.tree.node id).origin = .rule rule)
    (notToken : rule.isToken = false) (notImport : rule.isImport = false) :
    ∃ grammar, Active environment first grammar ∧ MatchFrom grammar rule after.tree id := by
  have notRoot : id ≠ Tree.root := by
    rintro rfl
    rw [origin_root_of_done faithful done] at isRule
    cases isRule
  obtain ⟨grammar, active, found, parts⟩ :=
    belongs_of_done faithful done id notRoot rule isRule notToken notImport
  exact ⟨grammar, active, found, isRule, parts, fun other _ => wellMade_of_done faithful done other⟩

/-- What follows from being a match in an intact tree holds of all matches. Tokens have no parts,
and an import has its part from another grammar. -/
theorem ofMatches_of_matchFrom (faithful : environment.source.Faithful)
    {property : Grammar → Form → Ast.Builder → Nat → Prop}
    (plain : ∀ (rule : Rule) form, ({ rule with kind := kind form } : Rule).isToken = false ∧
      ({ rule with kind := kind form } : Rule).isImport = false)
    (holds : ∀ grammar rule form tree id, tree.Intact environment.source.chars →
      MatchFrom grammar rule tree id → rule.kind = kind form →
        property grammar form ⟨environment.source, tree⟩ id) :
    OfMatches kind environment first property := by
  have plain : ∀ (rule : Rule) form, rule.kind = kind form →
      rule.isToken = false ∧ rule.isImport = false := by
    rintro ⟨name, grammar, edition, _⟩ form rfl
    exact plain ⟨name, grammar, edition, kind form⟩ form
  refine ⟨fun start state parent reached isOpen fuel name after done rule form found isKind => ?_,
    fun fuel start result parsed id rule form isRule isKind => ?_⟩
  · obtain ⟨notToken, notImport⟩ := plain rule form isKind
    obtain ⟨intact, isMatch⟩ := matchFrom_of_request faithful ⟨reached.sound faithful, isOpen⟩ done
      found notToken notImport
    exact ⟨isMatch.isRule, holds _ rule form _ _ intact isMatch isKind⟩
  · obtain ⟨notToken, notImport⟩ := plain rule form isKind
    obtain ⟨name, after, -, done, nothingLeft, rfl⟩ := exists_of_parsed parsed
    obtain ⟨grammar, active, isMatch⟩ :=
      matchFrom_of_done faithful done isRule notToken notImport
    have intact := (covers_of_done faithful done nothingLeft).1
    exact ⟨grammar, active, isMatch.found, holds _ rule form _ _ intact isMatch isKind⟩

end Parse

end Rulebook
