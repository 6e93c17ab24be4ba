/-
This file proves what the layered grammar of sums and products parses: exactly the rows of
numbers with signs between them, and blanks wherever there may be some. Numbers that are joined
by `*` make up a product, which groups to the left, and products that are joined by `+` make up
a sum, which groups to the right.
-/

import Rulebook.Grammar.Samples
import Rulebook.Proofs.Arithmetic.Input
import Rulebook.Proofs.Derivation.Settling
import Rulebook.Proofs.Parse.Patience

namespace Rulebook

namespace Arithmetic

open Grammar

/-! ### Formulas -/

/-- A number as a phrase. -/
def Number.factor (number : Number) : Phrase .factor :=
  .number number.digits number.blanks

/-- Numbers with signs between them, and blanks before each token and after the last one. -/
structure Formula where
  lead : Blanks
  row : Row Number

namespace Formula

def chars (formula : Formula) : List Char :=
  formula.lead.chars ++ formula.row.chars Number.chars

/-- The products of a formula, and their sum. -/
def phrase (formula : Formula) : Phrase .sum :=
  (formula.row.map Number.factor).phrase

/-- The syntax tree of a formula. -/
def tree (source : Source) (formula : Formula) : Ast.Node :=
  formula.phrase.tree source (byteCount formula.lead.chars)

theorem chars_phrase (formula : Formula) :
    formula.phrase.chars = formula.row.chars Number.chars := by
  rw [phrase, Row.chars_phrase, Row.chars_map]
  rfl

/-- There are no parentheses in a formula. -/
theorem depth_phrase (formula : Formula) : formula.phrase.depth ≤ 0 := by
  refine depth_regroup_le (Nat.le_refl 0) fun link member => ?_
  obtain ⟨original, -, rfl⟩ := List.mem_map.mp member
  exact Nat.le_refl 0

end Formula

/-! ### The grammar -/

/-- The layered grammar of sums and products. -/
def layered (name : String) (edition : Nat) : Grammar where
  name := name
  edition := edition
  rules := [
    ⟨"whitespace", name, edition, .token blanksToken⟩,
    ⟨"number", name, edition, .token numberToken⟩,
    ⟨"'*'", name, edition, .token (signToken '*')⟩,
    ⟨"mul", name, edition, .operator (Parse.productsOf "number")⟩,
    ⟨"'+'", name, edition, .token (signToken '+')⟩,
    ⟨"add", name, edition, .operator (Parse.sumsOf "mul")⟩,
    ⟨"expr", name, edition, .choice { alternatives := ["add"], wrap := false }⟩]
  whitespace := ["whitespace"]
  tokenPatterns := [("\\+", "'+'"), ("\\*", "'*'"), ("\\d+", "number"), ("\\s+", "whitespace")]
  startSymbol := some "expr"

theorem arithmetic_eq (name : String) (edition : Nat) :
    Samples.arithmetic Workspace.compile (Grammar.new name edition) =
      .ok () (layered name edition) := by
  rw [Samples.arithmetic, bind_of_ok (addToken_of_fresh rfl compile_blanks true),
    bind_of_ok (addToken_of_fresh rfl compile_digits false),
    bind_of_ok (addKeyword_of_fresh rfl rfl compile_times),
    bind_of_ok (addOperator_of_fresh rfl ..),
    bind_of_ok (addKeyword_of_fresh rfl rfl compile_plus),
    bind_of_ok (addOperator_of_fresh rfl ..),
    bind_of_ok (addChoice_of_fresh rfl ..)]
  rfl

variable (name : String) (edition : Nat)

theorem lexicon_layered : Lexicon (layered name edition) where
  enabled := rfl
  whitespace_eq := rfl
  blank := ⟨_, _, rfl, rfl, rfl⟩
  number := ⟨_, _, rfl, rfl, rfl⟩
  times := ⟨_, _, rfl, rfl, rfl⟩
  plus := ⟨_, _, rfl, rfl, rfl⟩

theorem selfContained_layered : (layered name edition).SelfContained "expr" :=
  Parse.selfContained_of_all rfl rfl rfl

end Arithmetic

namespace Parse

open Arithmetic
open Filter (atTop)
open Recognition (afterBlanks)

/-! ### What is parsed -/

section

variable {environment : Environment} {name : String} {edition : Nat}
  (faithful : environment.source.Faithful) (forgetful : Forgetful environment)
  (room : Room environment (layered name edition) 4)

include faithful forgetful room

/-- The start rule reads sums of products of numbers. -/
theorem reads_layered (offset : Nat) :
    Reads environment (layered name edition) [] offset "expr" .sum 0 := by
  have lexicon := lexicon_layered name edition
  have numbers : ∀ {chain : Grammar.Chain}, chain.length = 3 → ∀ offset,
      Reads environment (layered name edition) chain offset "number" .factor 0 := by
    intro chain length_eq offset phrase rest shallow reads before
    cases phrase with
    | number digits blanks =>
      exact yields_number_phrase faithful forgetful lexicon (length_eq ▸ room) reads before
    | paren opening inner closing => exact absurd shallow (Nat.not_succ_le_zero _)
  refine reads_of_chooses faithful forgetful lexicon rfl rfl rfl (room.mono (by simp))
    fun phrase rest shallow reads before => ⟨"add", Yields.chooses faithful ?_ []⟩
  refine reads_sums faithful forgetful lexicon (room.mono (by simp)) rfl rfl rfl
    (fun later _ => ?_) phrase rest shallow reads before
  exact reads_products faithful forgetful lexicon room rfl rfl rfl fun offset _ =>
    numbers rfl offset

/-- The start rule always comes to an answer. -/
theorem settles_layered : Settles environment (layered name edition) [] "expr" := by
  refine settles_of_choice faithful forgetful (room.mono (by simp)) rfl rfl rfl
    fun alternative member offset => ?_
  rw [List.mem_singleton.mp member]
  refine settles_of_operator faithful forgetful (room.mono (by simp)) rfl rfl
    (fun later => settles_of_token faithful forgetful (room.mono (by simp)) rfl rfl ?_)
    (fun later => settles_of_operator faithful forgetful (room.mono (by simp)) rfl rfl
      (fun last => settles_of_token faithful forgetful room rfl rfl ?_)
      (fun last => settles_of_token faithful forgetful room rfl rfl ?_)) <;>
  exact TokenRule.takesInput_of_closed fun _ => rfl

omit forgetful room in
/-- All that the start rule spans are rows of numbers. -/
theorem spells_layered : ∀ depth,
    Spells environment.source (layered name edition) depth "expr" (IsRow Number.chars) := by
  have lexicon := lexicon_layered name edition
  have numbers : ∀ depth,
      Spells environment.source (layered name edition) depth "number" (IsRow Number.chars) := by
    refine fun depth start stop spans => (spelled_of_number faithful lexicon spans).imp ?_
    rintro _ ⟨number, rfl⟩
    exact ⟨⟨number, []⟩, (List.append_nil _).symm⟩
  have products : ∀ depth,
      Spells environment.source (layered name edition) depth "mul" (IsRow Number.chars) :=
    spells_of_succ fun depth => spells_of_operator faithful lexicon rfl rfl .times
      lexicon.times (numbers depth)
  have sums : ∀ depth,
      Spells environment.source (layered name edition) depth "add" (IsRow Number.chars) :=
    spells_of_succ fun depth => spells_of_operator faithful lexicon rfl rfl .plus lexicon.plus
      (products depth)
  exact spells_of_succ fun depth => spells_of_choice faithful lexicon rfl rfl
    (List.forall_mem_singleton.mpr (sums depth))

end

/-! ### The whole input -/

/-- The layered grammar parses exactly the formulas, and gives each of them its syntax tree. With
no limit on the stack of rules, or with one of at least four, a parse always comes to an end. -/
theorem arithmetic_parses_formulas {name : String} {edition : Nat} {grammar : Grammar}
    (built : Samples.arithmetic Workspace.compile (Grammar.new name edition) = .ok () grammar)
    (input : String) (registry : Registry) (options : ParseOptions) (tracing : Bool)
    (roomy : ∀ limit, options.maxDepth = some limit → 4 ≤ limit) :
    let environment := Environment.ofText input registry options tracing
    ∃ enough report, report.answer ≠ .exhausted ∧
      (∀ fuel, enough ≤ fuel → run environment fuel grammar none = report) ∧
      ((∃ result, report.answer = .parsed result) ↔
        ∃ formula : Formula, formula.chars = input.toList) ∧
      ∀ result, report.answer = .parsed result → ∀ formula : Formula,
        formula.chars = input.toList → result.toAst.bare = formula.tree environment.source := by
  intro environment
  rw [arithmetic_eq] at built
  cases built
  have faithful : environment.source.Faithful :=
    Environment.faithful_ofText input registry options tracing
  have own := selfContained_layered name edition
  have lexicon := lexicon_layered name edition
  have room : Room environment.plain (layered name edition) 4 := roomy
  have begins := boundary_afterBlanks faithful (layered name edition) (boundary_zero _)
  have settled := settles_layered (faithful_plain faithful) (forgetful_plain _) room _ begins.2
  have answered := answered_of_yields_or_refuses own faithful (settled.imp_left
    fun ⟨stop, ast, _, _, yields⟩ => ⟨stop, ast, yields⟩)
  have parsed : ∀ formula : Formula, formula.chars = input.toList → ∀ᶠ fuel in atTop,
      ∃ result, (run environment fuel (layered name edition) none).answer = .parsed result ∧
        result.toAst.bare = formula.tree environment.source := by
    intro formula chars_eq
    refine Reads.parsed own lexicon faithful
      (reads_layered (faithful_plain faithful) (forgetful_plain _) room) formula.depth_phrase ?_
    rw [formula.chars_phrase]
    exact chars_eq.symm
  obtain ⟨enough, answered⟩ := Filter.eventually_atTop.mp answered
  have same : ∀ fuel, enough ≤ fuel → run environment fuel (layered name edition) none =
      run environment enough (layered name edition) none :=
    fun fuel le => run_eq_of_le faithful le (answered enough (Nat.le_refl _))
  have stays : ∀ formula : Formula, formula.chars = input.toList →
      ∃ result, (run environment enough (layered name edition) none).answer = .parsed result ∧
        result.toAst.bare = formula.tree environment.source := by
    intro formula chars_eq
    obtain ⟨fuel, holds, le⟩ := ((parsed formula chars_eq).and
      (Filter.eventually_ge_atTop enough)).exists
    rwa [same fuel le] at holds
  refine ⟨enough, _, answered enough (Nat.le_refl _), same, ⟨fun ⟨result, found⟩ => ?_,
    fun ⟨formula, chars_eq⟩ => ?_⟩, fun result found formula chars_eq => ?_⟩
  · obtain ⟨lead, _, cut, row, rfl⟩ :=
      exists_of_spells own lexicon faithful (spells_layered faithful) found
    exact ⟨⟨lead, row⟩, cut.symm⟩
  · obtain ⟨result, found, -⟩ := stays formula chars_eq
    exact ⟨result, found⟩
  · obtain ⟨other, found', bare_eq⟩ := stays formula chars_eq
    rw [found] at found'
    cases found'
    exact bare_eq

/-- A sum of a number and a product, with blanks around one of the signs. -/
def sumAndProduct : Formula where
  lead := .none
  row := ⟨⟨.ofNat 1, .space⟩, [⟨.plus, .space, ⟨.ofNat 2, .none⟩⟩,
    ⟨.times, .none, ⟨.ofNat 3, .none⟩⟩]⟩

theorem sumAndProduct_parsed :
    let environment := Environment.ofText "1 + 2*3" {} {} false
    let source := environment.source
    Samples.arithmetic Workspace.compile (Grammar.new "g" 0) = .ok () (layered "g" 0) ∧
      (∀ limit, environment.options.maxDepth = some limit → 4 ≤ limit) ∧
      ∃ fuel result, (run environment fuel (layered "g" 0) none).answer = .parsed result ∧
        result.toAst.bare = .ofChildren "add" [.leaf source "'+'" 2 ['+'],
          .leaf source "number" 0 ['1'], .ofChildren "mul" [.leaf source "'*'" 5 ['*'],
            .leaf source "number" 4 ['2'], .leaf source "number" 6 ['3']]] := by
  intro environment source
  have roomy : ∀ limit, environment.options.maxDepth = some limit → 4 ≤ limit :=
    fun _ absurd => nomatch absurd
  refine ⟨arithmetic_eq "g" 0, roomy, ?_⟩
  obtain ⟨enough, report, -, same, parsed, trees⟩ :=
    arithmetic_parses_formulas (arithmetic_eq "g" 0) "1 + 2*3" {} {} false roomy
  have chars_eq : sumAndProduct.chars = "1 + 2*3".toList := by decide
  obtain ⟨result, found⟩ := parsed.mpr ⟨sumAndProduct, chars_eq⟩
  refine ⟨enough, result, ?_, trees result found sumAndProduct chars_eq⟩
  rw [same enough (Nat.le_refl _), found]

end Parse

end Rulebook
