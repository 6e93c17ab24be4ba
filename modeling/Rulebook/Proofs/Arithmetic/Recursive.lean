/-
This file proves what the grammar parses whose sums and products are made of expressions again,
and in which only the order of the alternatives and the guard of operators against themselves
tell sums from products. A sum asks for an expression, in which the sum is not tried again, so a
product is matched; a product asks for an expression, in which neither is tried again, so a
number or a parenthesis is matched. Behind a parenthesis some input has been taken, and both
may be tried anew.

The rules on the way up to the root are what all this depends on. The limit on the stack of rules
is reached by parentheses only, each of which needs room for six rules.
-/

import Rulebook.Grammar.Samples
import Rulebook.Proofs.Arithmetic.Input
import Rulebook.Proofs.Parse.Patience

namespace Rulebook

open Match (Tree)

/-! ### Operators above -/

namespace Grammar.Chain

variable {rule other : Rule} {start offset : Nat} {chain : Grammar.Chain}

/-- An operator finds itself, however much input has been taken. -/
theorem repeats_self (transparent : Parse.isTransparent rule.kind = true) :
    repeats rule offset ((rule, start) :: chain) = true := by
  have same : rule.same rule = true := by
    rw [Rule.same, beq_self_eq_true, beq_self_eq_true]
    rfl
  rw [repeats, transparent, same]
  rfl

/-- An operator or a choice is looked through. -/
theorem repeats_cons (transparent : Parse.isTransparent other.kind = true)
    (different : other.name ≠ rule.name) :
    repeats rule offset ((other, start) :: chain) = repeats rule offset chain := by
  have same : other.same rule = false := by
    rw [Rule.same, beq_eq_false_iff_ne.mpr different]
    rfl
  rw [repeats, transparent, same]
  rfl

/-- A rule of another kind that has taken input ends the search. -/
theorem repeats_behind (closed : Parse.isTransparent other.kind = false) (less : start < offset) :
    repeats rule offset ((other, start) :: chain) = false := by
  rw [repeats, closed, decide_eq_true less]
  rfl

end Grammar.Chain

namespace Arithmetic

open Grammar

/-- A grammar whose sums and products are made of expressions again. -/
structure Guarded (active : Grammar) (add mul paren expr : Rule) : Prop
    extends Lexicon active where
  opening : active.HasToken "'('" (.oneOf (.single '('))
  closing : active.HasToken "')'" (.oneOf (.single ')'))
  add_found : active.rule? "add" = some add
  add_kind : add.kind = .operator (Parse.sumsOf "expr")
  mul_found : active.rule? "mul" = some mul
  mul_kind : mul.kind = .operator (Parse.productsOf "expr")
  paren_found : active.rule? "paren" = some paren
  paren_kind : paren.kind =
    .sequence [{ rule := "'('" }, { rule := "expr" }, { rule := "')'" }]
  expr_found : active.rule? "expr" = some expr
  expr_kind : expr.kind =
    .choice { alternatives := ["add", "mul", "number", "paren"], wrap := false }
  /-- Parentheses are not shown. -/
  shows : ∀ opening inner closing : Ast.Node,
    Tree.shown active [("'('", opening), ("expr", inner), ("')'", closing)] = [inner]

/-- Text that is a row of numbers and parentheses. -/
abbrev IsExpression : List Char → Prop :=
  Parse.IsRow fun factor : Phrase .factor => factor.chars

/-! ### The grammar -/

/-- The grammar of sums and products that are made of expressions again, with a limit on the
stack of rules. -/
def recursive (name : String) (edition limit : Nat) : Grammar where
  name := name
  edition := edition
  rules := [
    ⟨"whitespace", name, edition, .token blanksToken⟩,
    ⟨"number", name, edition, .token numberToken⟩,
    ⟨"'*'", name, edition, .token (signToken '*')⟩,
    ⟨"mul", name, edition, .operator (Parse.productsOf "expr")⟩,
    ⟨"'+'", name, edition, .token (signToken '+')⟩,
    ⟨"add", name, edition, .operator (Parse.sumsOf "expr")⟩,
    ⟨"'('", name, edition, .token (signToken '(')⟩,
    ⟨"')'", name, edition, .token (signToken ')')⟩,
    ⟨"paren", name, edition,
      .sequence [{ rule := "'('" }, { rule := "expr" }, { rule := "')'" }]⟩,
    ⟨"expr", name, edition,
      .choice { alternatives := ["add", "mul", "number", "paren"], wrap := false }⟩]
  whitespace := ["whitespace"]
  tokenPatterns := [("\\)", "')'"), ("\\(", "'('"), ("\\+", "'+'"), ("\\*", "'*'"),
    ("\\d+", "number"), ("\\s+", "whitespace")]
  startSymbol := some "expr"
  depthLimit := some limit

/-- The limit that the grammar is made with is replaced by another one. -/
theorem backtrackingArithmetic_eq (name : String) (edition limit : Nat) :
    (do Samples.backtrackingArithmetic Workspace.compile; setDepthLimit limit : Construction Unit)
      (Grammar.new name edition) = .ok () (recursive name edition limit) := by
  have declared : Samples.backtrackingArithmetic Workspace.compile (Grammar.new name edition) =
      .ok () (recursive name edition 50) := by
    rw [Samples.backtrackingArithmetic, bind_of_ok (setDepthLimit_eq ..),
      bind_of_ok (addToken_of_fresh rfl compile_blanks true),
      bind_of_ok (addToken_of_fresh rfl compile_digits false),
      bind_of_ok (addKeyword_of_fresh rfl rfl compile_times),
      bind_of_ok (addOperator_of_fresh rfl ..),
      bind_of_ok (addKeyword_of_fresh rfl rfl compile_plus),
      bind_of_ok (addOperator_of_fresh rfl ..),
      bind_of_ok (addKeyword_of_fresh rfl rfl compile_opening),
      bind_of_ok (addKeyword_of_fresh rfl rfl compile_closing),
      bind_of_ok (addSequence_of_fresh rfl ..),
      bind_of_ok (addChoice_of_fresh rfl ..)]
    rfl
  exact (bind_of_ok declared).trans (setDepthLimit_eq limit _)

variable (name : String) (edition limit : Nat)

theorem guarded_recursive : Guarded (recursive name edition limit)
    ⟨"add", name, edition, .operator (Parse.sumsOf "expr")⟩
    ⟨"mul", name, edition, .operator (Parse.productsOf "expr")⟩
    ⟨"paren", name, edition,
      .sequence [{ rule := "'('" }, { rule := "expr" }, { rule := "')'" }]⟩
    ⟨"expr", name, edition,
      .choice { alternatives := ["add", "mul", "number", "paren"], wrap := false }⟩ where
  enabled := rfl
  whitespace_eq := rfl
  blank := ⟨_, _, rfl, rfl, rfl⟩
  number := ⟨_, _, rfl, rfl, rfl⟩
  times := ⟨_, _, rfl, rfl, rfl⟩
  plus := ⟨_, _, rfl, rfl, rfl⟩
  opening := ⟨_, _, rfl, rfl, rfl⟩
  closing := ⟨_, _, rfl, rfl, rfl⟩
  add_found := rfl
  add_kind := rfl
  mul_found := rfl
  mul_kind := rfl
  paren_found := rfl
  paren_kind := rfl
  expr_found := rfl
  expr_kind := rfl
  shows _ _ _ := rfl

theorem selfContained_recursive : (recursive name edition limit).SelfContained "expr" :=
  Parse.selfContained_of_all rfl rfl rfl

end Arithmetic

namespace Parse

open Arithmetic
open Filter (atTop)
open Recognition (afterBlanks)

variable {environment : Environment} {grammar : Grammar} {add mul paren expr : Rule}
  {above : Grammar.Chain} {offset depth : Nat}

/-! ### What finds itself above -/

section

variable (guarded : Guarded grammar add mul paren expr)
include guarded

theorem transparent_expr : isTransparent expr.kind = true := by
  rw [guarded.expr_kind]
  rfl

theorem transparent_add : isTransparent add.kind = true := by
  rw [guarded.add_kind]
  rfl

theorem transparent_mul : isTransparent mul.kind = true := by
  rw [guarded.mul_kind]
  rfl

theorem names_eq : add.name = "add" ∧ mul.name = "mul" ∧ expr.name = "expr" :=
  ⟨Grammar.rule?_name guarded.add_found, Grammar.rule?_name guarded.mul_found,
    Grammar.rule?_name guarded.expr_found⟩

/-- Expressions are looked through. -/
theorem repeats_expr {rule : Rule} (operator : rule = add ∨ rule = mul) {later : Nat} :
    Grammar.Chain.repeats rule later ((expr, offset) :: above) = above.repeats rule later := by
  obtain ⟨addName, mulName, exprName⟩ := names_eq guarded
  refine Grammar.Chain.repeats_cons (transparent_expr guarded) ?_
  rcases operator with rfl | rfl
  · rw [exprName, addName]
    decide
  · rw [exprName, mulName]
    decide

theorem repeats_mul_add {later : Nat} :
    Grammar.Chain.repeats mul later ((add, offset) :: above) = above.repeats mul later := by
  obtain ⟨addName, mulName, -⟩ := names_eq guarded
  refine Grammar.Chain.repeats_cons (transparent_add guarded) ?_
  rw [addName, mulName]
  decide

theorem repeats_add_mul {later : Nat} :
    Grammar.Chain.repeats add later ((mul, offset) :: above) = above.repeats add later := by
  obtain ⟨addName, mulName, -⟩ := names_eq guarded
  refine Grammar.Chain.repeats_cons (transparent_mul guarded) ?_
  rw [addName, mulName]
  decide

end

/-- From an offset on neither sums nor products find themselves above. -/
structure Clear (add mul : Rule) (chain : Grammar.Chain) (offset : Nat) : Prop where
  add : ∀ later, offset ≤ later → chain.repeats add later = false
  mul : ∀ later, offset ≤ later → chain.repeats mul later = false

theorem clear_nil (add mul : Rule) (offset : Nat) : Clear add mul [] offset :=
  ⟨fun _ _ => rfl, fun _ _ => rfl⟩

/-- A parenthesis has taken input. -/
theorem clear_paren (guarded : Guarded grammar add mul paren expr) {behind : Nat}
    (less : offset < behind) : Clear add mul ((paren, offset) :: above) behind := by
  have closed : isTransparent paren.kind = false := by
    rw [guarded.paren_kind]
    rfl
  exact ⟨fun later le => Grammar.Chain.repeats_behind closed (Nat.lt_of_lt_of_le less le),
    fun later le => Grammar.Chain.repeats_behind closed (Nat.lt_of_lt_of_le less le)⟩

/-! ### Expressions -/

section

variable (guarded : Guarded grammar add mul paren expr)
  (faithful : environment.source.Faithful) (forgetful : Forgetful environment)

include guarded faithful forgetful

/-- A parenthesis is found if the expression in it is. -/
theorem yields_paren {opening closing : Blanks} {inner : Phrase .sum} {rest : List Char}
    (reads : environment.source.rest? offset = some ((Phrase.paren opening inner closing).chars ++
      rest)) (before : Level.factor.Before rest)
    (room : Room environment grammar (above.length + 2))
    (sums : ∀ later, offset < later →
      Reads environment grammar ((paren, offset) :: above) later "expr" .sum inner.depth) :
    Yields environment grammar above offset "paren"
      (offset + byteCount (Phrase.paren opening inner closing).chars)
      ((Phrase.paren opening inner closing).tree environment.source offset) := by
  have lexicon := guarded.toLexicon
  have below : Room environment grammar (((paren, offset) :: above).length + 1) := room
  have size_eq : offset + byteCount (Phrase.paren opening inner closing).chars =
      offset + 1 + byteCount opening.chars + byteCount inner.chars + 1 +
        byteCount closing.chars := by
    rw [Phrase.chars, byteCount_cons, byteCount_append, byteCount_append, byteCount_cons]
    show offset + (1 + (_ + (_ + (1 + _)))) = _
    omega
  have whole := reads
  rw [Phrase.chars, List.cons_append, List.append_assoc, List.append_assoc,
    List.cons_append] at reads
  have opens := yields_sign faithful forgetful below guarded.opening lexicon rfl reads
    (inner.stops_isBlank _)
  have atInner := faithful.rest?_append (faithful.rest?_cons rfl reads)
  have found := sums _ (by omega) inner _ (Nat.le_refl _) atInner
    (Level.before_cons (by decide) _)
  have atClosing := faithful.rest?_append atInner
  have closes := yields_sign faithful forgetful below guarded.closing lexicon rfl atClosing
    before.stops_isBlank
  have runs : RunsThrough environment grammar ((paren, offset) :: above) offset
      [{ rule := "'('" }, { rule := "expr" }, { rule := "')'" }] _ _ :=
    .before faithful opens (.before faithful found (.before faithful closes runsThrough_nil))
  have yields := (runs.works faithful guarded.paren_kind (by simp) rfl).yields faithful forgetful
    guarded.paren_found (room.mono (Nat.le_succ _))
  rw [← size_eq, afterBlanks_behind faithful lexicon whole before,
    Grammar.rule?_name guarded.paren_found, guarded.shows] at yields
  exact yields

omit faithful in
theorem refuses_add (room : Room environment grammar (above.length + 1))
    (repeating : above.repeats add offset = true) :
    Refuses environment grammar above offset "add" :=
  (declines_of_repeats guarded.add_kind repeating).refuses forgetful guarded.add_found room

omit faithful in
theorem refuses_mul (room : Room environment grammar (above.length + 1))
    (repeating : above.repeats mul offset = true) :
    Refuses environment grammar above offset "mul" :=
  (declines_of_repeats guarded.mul_kind repeating).refuses forgetful guarded.mul_found room

/-- Sums in parentheses are read, as long as there is room for them. -/
def ReadsNested (environment : Environment) (grammar : Grammar) (add mul : Rule) (depth : Nat) :
    Prop :=
  ∀ fewer < depth, ∀ chain offset, Clear add mul chain offset →
    Room environment grammar (chain.length + (6 * fewer + 6)) →
      Reads environment grammar chain offset "expr" .sum fewer

/-- Where sums and products find themselves above, numbers and parentheses are matched. -/
theorem reads_factors (room : Room environment grammar (above.length + (6 * depth + 2)))
    (inAdd : above.repeats add offset = true) (inMul : above.repeats mul offset = true)
    (nested : ReadsNested environment grammar add mul depth) :
    Reads environment grammar above offset "expr" .factor depth := by
  have lexicon := guarded.toLexicon
  have below : Room environment grammar (((expr, offset) :: above).length + 1) :=
    room.mono (by rw [List.length_cons]; omega)
  have noAdd := refuses_add guarded forgetful below
    ((repeats_expr guarded (.inl rfl)).trans inAdd)
  have noMul := refuses_mul guarded forgetful below
    ((repeats_expr guarded (.inr rfl)).trans inMul)
  refine reads_of_chooses faithful forgetful lexicon guarded.expr_found guarded.expr_kind rfl
    (room.mono (by omega)) fun phrase rest shallow reads before => ?_
  cases phrase with
  | number digits blanks =>
    have found := yields_number_phrase faithful forgetful lexicon below reads before
    exact ⟨"number", noAdd.chooses faithful (noMul.chooses faithful (found.chooses faithful _))⟩
  | paren opening inner closing =>
    rw [Phrase.depth] at shallow
    have noNumber : Refuses environment grammar ((expr, offset) :: above) offset "number" :=
      refuses_number forgetful below lexicon reads (stops_cons (by decide) _)
    have wide : Room environment grammar (((expr, offset) :: above).length + 2) :=
      room.mono (by rw [List.length_cons]; omega)
    have deep : Room environment grammar
        (((paren, offset) :: (expr, offset) :: above).length + (6 * inner.depth + 6)) :=
      room.mono (by rw [List.length_cons, List.length_cons]; omega)
    have found := yields_paren guarded faithful forgetful reads before wide fun later less =>
      nested inner.depth shallow _ later (clear_paren guarded less) deep
    exact ⟨"paren", noAdd.chooses faithful (noMul.chooses faithful (noNumber.chooses faithful
      (found.chooses faithful _)))⟩

/-- Where only sums find themselves above, products are matched. -/
theorem reads_product_operands
    (room : Room environment grammar (above.length + (6 * depth + 4)))
    (inAdd : ∀ later, above.repeats add later = true) (free : above.repeats mul offset = false)
    (nested : ReadsNested environment grammar add mul depth) :
    Reads environment grammar above offset "expr" .product depth := by
  have lexicon := guarded.toLexicon
  have below : Room environment grammar (((expr, offset) :: above).length + 1 + 1) :=
    room.mono (by rw [List.length_cons]; omega)
  have deep : Room environment grammar
      (((mul, offset) :: (expr, offset) :: above).length + (6 * depth + 2)) :=
    room.mono (by rw [List.length_cons, List.length_cons]; omega)
  have factors : ∀ later, offset ≤ later → Reads environment grammar
      ((mul, offset) :: (expr, offset) :: above) later "expr" .factor depth := by
    refine fun later _ => reads_factors guarded faithful forgetful deep ?_
      (Grammar.Chain.repeats_self (transparent_mul guarded)) nested
    rw [repeats_add_mul guarded, repeats_expr guarded (.inl rfl), inAdd]
  have products := reads_products faithful forgetful lexicon below guarded.mul_found
    guarded.mul_kind ((repeats_expr guarded (.inr rfl)).trans free) factors
  have noAdd := refuses_add guarded forgetful (below.mono (Nat.le_succ _))
    ((repeats_expr guarded (.inl rfl)).trans (inAdd offset))
  refine reads_of_chooses faithful forgetful lexicon guarded.expr_found guarded.expr_kind rfl
    (room.mono (by omega)) fun phrase rest shallow reads before => ?_
  exact ⟨"mul", noAdd.chooses faithful
    ((products phrase rest shallow reads before).chooses faithful _)⟩

/-- Where neither sums nor products find themselves above, sums are matched. -/
theorem reads_expressions (clear : Clear add mul above offset)
    (room : Room environment grammar (above.length + (6 * depth + 6))) :
    Reads environment grammar above offset "expr" .sum depth := by
  -- Less deep expressions come first, since parentheses hold whole expressions.
  induction depth using Nat.strongRecOn generalizing above offset with
  | ind depth inductionHypothesis =>
    have nested : ReadsNested environment grammar add mul depth :=
      fun fewer less chain later => inductionHypothesis fewer less
    have lexicon := guarded.toLexicon
    have below : Room environment grammar (((expr, offset) :: above).length + 1 + 1) :=
      room.mono (by rw [List.length_cons]; omega)
    have deep : Room environment grammar
        (((add, offset) :: (expr, offset) :: above).length + (6 * depth + 4)) :=
      room.mono (by rw [List.length_cons, List.length_cons]; omega)
    have operands : ∀ later, offset ≤ later → Reads environment grammar
        ((add, offset) :: (expr, offset) :: above) later "expr" .product depth := by
      refine fun later le => reads_product_operands guarded faithful forgetful deep
        (fun _ => Grammar.Chain.repeats_self (transparent_add guarded)) ?_ nested
      rw [repeats_mul_add guarded, repeats_expr guarded (.inr rfl), clear.mul later le]
    have sums := reads_sums faithful forgetful lexicon below guarded.add_found guarded.add_kind
      ((repeats_expr guarded (.inl rfl)).trans (clear.add offset (Nat.le_refl _))) operands
    refine reads_of_chooses faithful forgetful lexicon guarded.expr_found guarded.expr_kind rfl
      (room.mono (by omega)) fun phrase rest shallow reads before => ?_
    exact ⟨"add", (sums phrase rest shallow reads before).chooses faithful _⟩

/-! ### What is spanned -/

omit forgetful in
/-- What a parenthesis spans is text of a parenthesis, if expressions span rows. -/
theorem spells_paren
    (inner : Spells environment.source grammar depth "expr" IsExpression) :
    Spells environment.source grammar (depth + 1) "paren" IsExpression := by
  intro start stop spans
  have lexicon := guarded.toLexicon
  obtain ⟨names, stop, admits, path, rfl⟩ :=
    path_of_spans guarded.paren_found (by rw [Rule.token?, guarded.paren_kind]) spans
  rw [guarded.paren_kind] at admits
  rw [SequenceItem.eq_of_admits (by simp) admits] at path
  obtain ⟨first, opens, second, holds, _, closes, rfl⟩ := path
  have spelled := (spelled_of_sign faithful lexicon guarded.opening opens).append faithful
    ((inner first second holds).append faithful
      (spelled_of_sign faithful lexicon guarded.closing closes))
  rw [spelled.afterBlanks_eq faithful lexicon]
  refine spelled.imp ?_
  rintro _ ⟨_, _, ⟨opening, rfl⟩, ⟨_, _, ⟨row, rfl⟩, ⟨closing, rfl⟩, rfl⟩, rfl⟩
  refine ⟨⟨.paren opening row.phrase closing, []⟩, ?_⟩
  simp only [Row.chars, Phrase.chars, Row.chars_phrase, List.flatMap_nil, List.append_nil,
    List.cons_append]

omit forgetful in
/-- All that is spanned are rows of numbers and parentheses. -/
theorem spells_guarded (depth : Nat) : ∀ name ∈ ["add", "mul", "number", "paren", "expr"],
    Spells environment.source grammar depth name IsExpression := by
  have lexicon := guarded.toLexicon
  induction depth with
  | zero => exact fun _ _ _ _ spans => spans.elim
  | succ depth inductionHypothesis =>
    have expressions := inductionHypothesis "expr" (by simp)
    have numbers : Spells environment.source grammar (depth + 1) "number" IsExpression := by
      refine fun start stop spans => (spelled_of_number faithful lexicon spans).imp ?_
      rintro _ ⟨number, rfl⟩
      exact ⟨⟨.number number.digits number.blanks, []⟩, (List.append_nil _).symm⟩
    have alternatives := spells_of_choice faithful lexicon guarded.expr_found guarded.expr_kind
      fun name member => inductionHypothesis name (List.mem_append_left ["expr"] member)
    simp only [List.forall_mem_cons]
    exact ⟨spells_of_operator faithful lexicon guarded.add_found guarded.add_kind .plus lexicon.plus
        expressions,
      spells_of_operator faithful lexicon guarded.mul_found guarded.mul_kind .times lexicon.times
        expressions, numbers, spells_paren guarded faithful expressions, alternatives,
      List.forall_mem_nil _⟩

end

/-! ### The whole input -/

/-- With room for six rules for each parenthesis around another one, and for six more, an
expression is parsed and gets its syntax tree, however much more work is allowed. And whatever
is parsed, with whatever room, is an expression. -/
theorem backtracking_parses_expressions {name : String} {edition limit : Nat} {grammar : Grammar}
    (built : (do Samples.backtrackingArithmetic Workspace.compile; Grammar.setDepthLimit limit :
      Construction Unit) (Grammar.new name edition) = .ok () grammar)
    (input : String) (registry : Registry) (options : ParseOptions) (tracing : Bool) :
    let environment := Environment.ofText input registry options tracing
    (∀ (lead : Blanks) (phrase : Phrase .sum), 6 * phrase.depth + 6 ≤ limit →
      lead.chars ++ phrase.chars = input.toList →
        ∃ enough report result, (∀ fuel, enough ≤ fuel →
          run environment fuel grammar none = report) ∧ report.answer = .parsed result ∧
            result.toAst.bare = phrase.tree environment.source (byteCount lead.chars)) ∧
    ∀ fuel result, (run environment fuel grammar none).answer = .parsed result →
      ∃ (lead : Blanks) (phrase : Phrase .sum), lead.chars ++ phrase.chars = input.toList := by
  intro environment
  rw [backtrackingArithmetic_eq] at built
  cases built
  have faithful : environment.source.Faithful :=
    Environment.faithful_ofText input registry options tracing
  have own := selfContained_recursive name edition limit
  have guarded := guarded_recursive name edition limit
  refine ⟨fun lead phrase enough chars_eq => ?_, fun fuel result parsed => ?_⟩
  · have room : Room environment.plain (recursive name edition limit) (6 * phrase.depth + 6) := by
      intro other known
      cases known
      exact enough
    have reads : ∀ offset, Reads environment.plain (recursive name edition limit) [] offset "expr"
        .sum phrase.depth := fun offset =>
      reads_expressions guarded (faithful_plain faithful) (forgetful_plain _)
        (clear_nil _ _ offset) (room.mono (by simp))
    obtain ⟨fuel, result, parsed, bare_eq⟩ := (Reads.parsed own guarded.toLexicon faithful reads
      (Nat.le_refl _) chars_eq.symm).exists
    refine ⟨fuel, _, result, fun more le => run_eq_of_le faithful le ?_, parsed, bare_eq⟩
    rw [parsed]
    exact fun absurd => nomatch absurd
  · obtain ⟨lead, _, cut, row, rfl⟩ := exists_of_spells own guarded.toLexicon faithful
      (fun depth => spells_guarded guarded faithful depth "expr" (by simp)) parsed
    refine ⟨lead, row.phrase, ?_⟩
    rw [row.chars_phrase]
    exact cut.symm

/-- A product of a sum in parentheses and a number. -/
def sumTimesNumber : Phrase .sum :=
  .product (.times (.factor (.paren .none
      (.plus (.factor (.number (.ofNat 1) .space)) .space
        (.product (.factor (.number (.ofNat 2) .none)))) .none)) .none
    (.number (.ofNat 3) .none))

theorem sumTimesNumber_parsed :
    let environment := Environment.ofText "(1 + 2)*3" {} {} false
    let source := environment.source
    (do Samples.backtrackingArithmetic Workspace.compile; Grammar.setDepthLimit 12 :
      Construction Unit) (Grammar.new "g" 0) = .ok () (recursive "g" 0 12) ∧
      ∃ fuel result, (run environment fuel (recursive "g" 0 12) none).answer = .parsed result ∧
        result.toAst.bare = .ofChildren "mul" [.leaf source "'*'" 7 ['*'],
          .ofChildren "paren" [.ofChildren "add" [.leaf source "'+'" 3 ['+'],
            .leaf source "number" 1 ['1'], .leaf source "number" 5 ['2']]],
          .leaf source "number" 8 ['3']] := by
  intro environment source
  refine ⟨backtrackingArithmetic_eq "g" 0 12, ?_⟩
  obtain ⟨enough, report, result, same, parsed, bare_eq⟩ :=
    (backtracking_parses_expressions (backtrackingArithmetic_eq "g" 0 12) "(1 + 2)*3" {} {}
      false).1 .none sumTimesNumber (by decide) (by decide)
  exact ⟨enough, result, by rw [same enough (Nat.le_refl _), parsed], bare_eq⟩

end Parse

end Rulebook
