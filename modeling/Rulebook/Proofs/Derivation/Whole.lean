/-
This file says what a whole parse answers, given what becomes of the request for its start rule.
The whitespace at the beginning is skipped first, and nothing may be left at the end. Whether
there is a memo makes no difference to the answer, so all that has been said of parses without
one may be used.
-/

import Rulebook.Proofs.Derivation.Course
import Rulebook.Proofs.Derivation.Span
import Rulebook.Proofs.Inlining.Simulation

namespace Rulebook

/-- A grammar without lists, sets and imports, whose rules are all there, and which says where
to start. -/
structure Grammar.SelfContained (grammar : Grammar) (start : String) : Prop where
  closed : grammar.Closed
  simple : ∀ rule ∈ grammar.rules, rule.kind.isSimple = true
  startSymbol_eq : grammar.startSymbol = some start
  contained : grammar.contains start = true

namespace Parse

open Filter (atTop)
open Match (Tree)
open Recognition (afterBlanks)

variable {environment : Environment} {grammar : Grammar} {start name : String} {stop fuel : Nat}
  {ast : Ast.Node} {result : ParseTree} {state after : State}

/-! ### The beginning -/

/-- A parse begins behind the whitespace at the beginning. -/
theorem stands_initial (faithful : environment.source.Faithful)
    (forgetful : Forgetful environment) (grammar : Grammar) :
    ∃ next, (skipWhitespace environment Tree.root
        (State.initial grammar environment.options)).outcome = .done () next ∧
      (next.tree.node Tree.root).origin = .root ∧
      Stands environment grammar [] (afterBlanks environment.source grammar 0) Tree.root []
        next := by
  have ready := ready_initial environment grammar
  have rooted := (ascends_initial environment grammar 0).rooted
  have placed : Placed environment grammar [] 0 Tree.root
      (State.initial grammar environment.options) :=
    ⟨⟨⟨ready, rfl, rfl⟩, rooted, rfl⟩, Nat.le_refl _⟩
  obtain ⟨next, done, there⟩ := placed.toSituated.skipWhitespace faithful forgetful
  have skips : Run.Meets _ _ True _ := meets_skipWhitespace faithful ready
  have skipped := skips.returns () next done
  refine ⟨next, done, (skipped.grown.start_eq ready.isOpen.inside).2.1,
    placed.working skipped.toWorking there.stop_eq, ?_⟩
  rw [Tree.Holds, skipped.semantic_eq]
  exact .nil

theorem run_eq_conclude (environment : Environment) (fuel : Nat)
    (chosen : grammar.startSymbol = some start) :
    run environment fuel grammar none = conclude environment
      (begin environment fuel start (State.initial grammar environment.options)).outcome := by
  rw [run, chosen]
  rfl

/-! ### The answer -/

/-- The syntax tree of a parse is that of the one child of the root. -/
theorem bare_toAst (here : after.tree.Holds environment.source grammar Tree.root [(name, ast)])
    (isRoot : (after.tree.node Tree.root).origin = .root) :
    (ParseTree.mk environment.source after.tree after.totals).toAst.bare = ast := by
  rw [ParseTree.toAst, Ast.Builder.build]
  rw [Tree.Holds] at here
  generalize held : (after.tree.node Tree.root).semantic.toList = ids at here
  obtain _ | ⟨child, _ | _⟩ := here
  rename_i id
  have above := child.above
  have inside := child.inside
  obtain ⟨depth, size_eq⟩ : ∃ depth, after.tree.size = depth + 1 :=
    ⟨after.tree.size - 1, by omega⟩
  have semantic_eq : Ast.Builder.semantic ⟨environment.source, after.tree⟩ Tree.root = [id] :=
    held
  show (Ast.Builder.buildWithin _ after.tree.size _).bare = ast
  rw [size_eq, Ast.Builder.buildWithin]
  dsimp only
  rw [isRoot, semantic_eq]
  exact child.builds after.tree (fun _ _ _ => rfl) depth (by omega)

section

variable (faithful : environment.source.Faithful) (forgetful : Forgetful environment)
include faithful forgetful

/-- What becomes of the start rule is what becomes of the parse. -/
theorem Yields.concludes
    (yields : Yields environment grammar [] (afterBlanks environment.source grammar 0) start stop
      ast) (chosen : grammar.startSymbol = some start) :
    ∀ᶠ fuel in atTop, ∃ after, after.tree.stop Tree.root = stop ∧
      (ParseTree.mk environment.source after.tree after.totals).toAst.bare = ast ∧
        run environment fuel grammar none = conclude environment (.done true after) := by
  obtain ⟨next, skipped, isRoot, here⟩ := stands_initial faithful forgetful grammar
  filter_upwards [yields.stands faithful] with fuel yields
  obtain ⟨after, done, ended⟩ := yields Tree.root next [] here
  have answered := (reliable_consume faithful (excuses_always environment grammar) fuel Tree.root
    start next here.toReady).returns true after done
  have grown := ((Working.refl here.toReady).answered answered).grown
  refine ⟨after, ended.stop_eq, bare_toAst ended.holds ?_, ?_⟩
  · rw [(grown.start_eq here.isOpen.inside).2.1, isRoot]
  · rw [run_eq_conclude environment fuel chosen, begin, (Step.bind_of_done _ skipped).1, done]

/-- A parse has an answer if its start rule has one. -/
theorem Yields.answers
    (yields : Yields environment grammar [] (afterBlanks environment.source grammar 0) start stop
      ast) (chosen : grammar.startSymbol = some start) :
    ∀ᶠ fuel in atTop, (run environment fuel grammar none).answer ≠ .exhausted := by
  filter_upwards [yields.concludes faithful forgetful chosen] with fuel holds
  obtain ⟨after, -, -, run_eq⟩ := holds
  rw [run_eq, conclude]
  dsimp only
  split <;> exact fun absurd => by cases absurd

theorem Refuses.answers
    (refuses : Refuses environment grammar [] (afterBlanks environment.source grammar 0) start)
    (chosen : grammar.startSymbol = some start) :
    ∀ᶠ fuel in atTop, (run environment fuel grammar none).answer ≠ .exhausted := by
  obtain ⟨next, skipped, -, here⟩ := stands_initial faithful forgetful grammar
  filter_upwards [refuses] with fuel refuses
  obtain ⟨after, done⟩ := refuses Tree.root next here.toPlaced
  rw [run_eq_conclude environment fuel chosen, begin, (Step.bind_of_done _ skipped).1, done]
  exact fun absurd => by cases absurd

end

/-! ### Any parse -/

/-- The rules of a grammar can be looked through one by one. -/
theorem selfContained_of_all
    (all : (grammar.rules.all fun rule => rule.kind.isSimple &&
      rule.kind.references.all grammar.contains) = true)
    (startSymbol_eq : grammar.startSymbol = some start)
    (contained : grammar.contains start = true) :
    grammar.SelfContained start := by
  have each : ∀ rule ∈ grammar.rules, rule.kind.isSimple = true ∧
      rule.kind.references.all grammar.contains = true :=
    fun rule member => Bool.and_eq_true_iff.mp (List.all_eq_true.mp all rule member)
  refine ⟨fun name rule found _ => ?_, fun rule member => (each rule member).1, startSymbol_eq,
    contained⟩
  exact List.all_eq_true.mp (each rule (Grammar.mem_rules_of_rule? found)).2

theorem forgetful_plain (environment : Environment) : Forgetful environment.plain :=
  rfl

theorem faithful_plain (faithful : environment.source.Faithful) :
    environment.plain.source.Faithful :=
  faithful

theorem Answer.Like.of_parsed {answer : Answer} (alike : (Answer.parsed result).Like answer) :
    ∃ other, answer = .parsed other ∧ other.toAst = result.toAst := by
  cases alike with
  | parsed source_eq ast_eq => exact ⟨_, rfl, ast_eq⟩

theorem Answer.Like.to_parsed {answer : Answer} (alike : answer.Like (.parsed result)) :
    ∃ other, answer = .parsed other ∧ result.toAst = other.toAst := by
  cases alike with
  | parsed source_eq ast_eq => exact ⟨_, rfl, ast_eq⟩

theorem Answer.Like.answered {answer other : Answer} (alike : answer.Like other)
    (answered : other ≠ .exhausted) : answer ≠ .exhausted := by
  rintro rfl
  cases alike
  exact answered rfl

section

variable (own : grammar.SelfContained start) (faithful : environment.source.Faithful)
include own faithful

/-- Neither a memo nor what is published makes a difference to the answer. -/
theorem like_plain (fuel : Nat) : (run environment fuel grammar none).answer.Like
    (run environment.plain fuel grammar none).answer := by
  have importFree : ∀ name rule, grammar.rule? name = some rule → rule.isImport = false := by
    intro name rule found
    have simple := own.simple rule (Grammar.mem_rules_of_rule? found)
    rw [Rule.isImport]
    cases kind : rule.kind with
    | imported target =>
      rw [kind] at simple
      cases simple
    | _ => rfl
  have alike := like_run (merges_alone environment own.closed importFree) faithful
    ⟨rfl, fun _ => id⟩ fuel own.contained
  have chosen : ∀ environment, run environment fuel grammar none =
      run environment fuel grammar (some start) := by
    intro environment
    exact run_eq_conclude environment fuel own.startSymbol_eq
  rw [chosen, chosen]
  exact alike

/-- What is matched as a whole without a memo is parsed. -/
theorem Yields.parsed
    (yields : Yields environment.plain grammar [] (afterBlanks environment.source grammar 0) start
      stop ast) (whole : environment.source.size ≤ stop) :
    ∀ᶠ fuel in atTop, ∃ result, (run environment fuel grammar none).answer = .parsed result ∧
      result.toAst.bare = ast := by
  have forgetful := forgetful_plain environment
  filter_upwards [yields.concludes (faithful_plain faithful) forgetful own.startSymbol_eq]
    with fuel holds
  obtain ⟨after, stop_eq, bare_eq, run_eq⟩ := holds
  have alike := like_plain own faithful fuel
  have size_eq : environment.plain.source.size = environment.source.size := rfl
  rw [run_eq, conclude] at alike
  dsimp only at alike
  rw [if_neg (by omega)] at alike
  obtain ⟨result, parsed, ast_eq⟩ := alike.to_parsed
  exact ⟨result, parsed, by rw [← ast_eq]; exact bare_eq⟩

/-- A parse has an answer if the request for its start rule settles. -/
theorem answered_of_yields_or_refuses
    (settles : (∃ stop ast, Yields environment.plain grammar []
        (afterBlanks environment.source grammar 0) start stop ast) ∨
      Refuses environment.plain grammar [] (afterBlanks environment.source grammar 0) start) :
    ∀ᶠ fuel in atTop, (run environment fuel grammar none).answer ≠ .exhausted := by
  have forgetful := forgetful_plain environment
  have answered : ∀ᶠ fuel in atTop,
      (run environment.plain fuel grammar none).answer ≠ .exhausted := by
    rcases settles with ⟨stop, ast, yields⟩ | refuses
    · exact yields.answers (faithful_plain faithful) forgetful own.startSymbol_eq
    · exact refuses.answers (faithful_plain faithful) forgetful own.startSymbol_eq
  filter_upwards [answered] with fuel answered
  exact (like_plain own faithful fuel).answered answered

/-- What is parsed is a stretch that the start rule spans. -/
theorem spans_of_parsed (parsed : (run environment fuel grammar none).answer = .parsed result) :
    ∃ depth stop, environment.source.size ≤ stop ∧ Spans environment.source grammar depth start
      (afterBlanks environment.source grammar 0) stop := by
  have alike := like_plain own faithful fuel
  rw [parsed] at alike
  obtain ⟨plain, parsed, -⟩ := alike.of_parsed
  obtain ⟨name, after, found, done, whole, -⟩ := exists_of_parsed parsed
  rw [own.startSymbol_eq] at found
  cases found
  have forgetful := forgetful_plain environment
  obtain ⟨next, skipped, -, here⟩ := stands_initial (faithful_plain faithful) forgetful grammar
  rw [begin, (Step.bind_of_done _ skipped).1] at done
  have spanned := (spans_of_consume (faithful_plain faithful) forgetful own.simple fuel).finds
    Tree.root start next after here.toReady here.grammar_eq done
  rw [here.stop_eq] at spanned
  exact ⟨fuel, _, whole, spanned⟩

end

end Parse

end Rulebook
