/-
This file says where grammars come from. A grammar begins without rules and is changed by
declarations and settings only, one call after another, and calls that are refused may leave
something behind. A registry holds grammars that were published in it. What every call keeps
is therefore true of every grammar.
-/

import Mathlib.Logic.Basic
import Rulebook.Grammar.Registry

namespace Rulebook

variable {Value Result : Type}

/-! ### Constructions -/

namespace Construction

/-- The grammar that a construction leaves behind, whether it is refused or not. -/
def after (construction : Construction Value) (grammar : Grammar) : Grammar :=
  match construction.run grammar with
  | .ok _ grammar => grammar
  | .error _ grammar => grammar

/-- A property of grammars is kept by a construction, whether it is refused or not. -/
def Keeps (property : Grammar → Prop) (construction : Construction Value) : Prop :=
  ∀ grammar, property grammar → property (construction.after grammar)

variable {property : Grammar → Prop}

theorem keeps_pure (value : Value) : Keeps property (pure value : Construction Value) :=
  fun _ holds => holds

theorem keeps_throw (complaint : GrammarError) :
    Keeps property (throw complaint : Construction Value) :=
  fun _ holds => holds

theorem keeps_get : Keeps property (get : Construction Grammar) :=
  fun _ holds => holds

theorem keeps_modify {update : Grammar → Grammar}
    (keeps : ∀ grammar, property grammar → property (update grammar)) :
    Keeps property (modify update : Construction Unit) :=
  keeps

theorem keeps_bind {first : Construction Value} {second : Value → Construction Result}
    (keeps : Keeps property first) (rest : ∀ value, Keeps property (second value)) :
    Keeps property (first >>= second) := by
  intro grammar holds
  have kept := keeps grammar holds
  rw [after] at kept ⊢
  show property (match EStateM.bind first second grammar with
    | .ok _ grammar => grammar
    | .error _ grammar => grammar)
  rw [EStateM.bind]
  cases ended : first grammar with
  | ok value next =>
    change property (match first grammar with
      | .ok _ grammar => grammar
      | .error _ grammar => grammar) at kept
    rw [ended] at kept
    exact rest value next kept
  | error complaint next =>
    change property (match first grammar with
      | .ok _ grammar => grammar
      | .error _ grammar => grammar) at kept
    rw [ended] at kept
    exact kept

theorem after_get_bind (second : Grammar → Construction Value) (grammar : Grammar) :
    (get >>= second : Construction Value).after grammar = (second grammar).after grammar :=
  rfl

theorem after_set_bind (next : Grammar) (second : PUnit → Construction Value)
    (grammar : Grammar) :
    (set next >>= second : Construction Value).after grammar = (second ⟨⟩).after next :=
  rfl

theorem keeps_guard {condition : Prop} [Decidable condition] (complaint : GrammarError) :
    Keeps property (if condition then throw complaint else pure () : Construction Unit) := by
  split
  · exact keeps_throw complaint
  · exact keeps_pure ()

end Construction

namespace Grammar

open Construction

variable {compile : Compiler} {property : Grammar → Prop}

/-! ### Calls -/

/-- The calls by which a grammar is put together. -/
inductive Call where
  | token (name pattern : String) (whitespace : Bool)
  | keyword (literal : String)
  | sequence (name : String) (items : List SequenceItem)
  | choice (name : String) (alternatives : List String) (wrap : Bool)
  | list (name : String) (rule : ListRule)
  | set (name : String) (rule : SetRule)
  | operator (name : String) (associativity : Associativity) (sign operand : String)
  | imported (name grammar rule : String) (wrap : Bool)
  | freshName
  | startSymbol (rule : String)
  | depthLimit (limit : Nat)
  | whitespaceDisabled (disabled : Bool)
  /-- The rules that are shared, the edition of those that replace them, and the order in which
  the tokens are compiled anew belong to the occasion of the call. -/
  | caseInsensitive (shared : Rule → Bool) (edition : Nat) (order : VisitOrder) (value : Bool)

/-- What a call does to a grammar. -/
def Call.perform (compile : Compiler) : Call → Construction Unit
  | .token name pattern whitespace => discard (addToken compile name pattern whitespace)
  | .keyword literal => discard (addKeyword compile literal)
  | .sequence name items => discard (addSequence name items)
  | .choice name alternatives wrap => discard (addChoice name alternatives wrap)
  | .list name rule => discard (addList name rule)
  | .set name rule => discard (addSet name rule)
  | .operator name associativity sign operand =>
    discard (addOperator name associativity sign operand)
  | .imported name grammar rule wrap => discard (addImport name grammar rule wrap)
  | .freshName => discard subruleName
  | .startSymbol rule => setStartSymbol rule
  | .depthLimit limit => setDepthLimit limit
  | .whitespaceDisabled disabled => setWhitespaceDisabled disabled
  | .caseInsensitive shared edition order value =>
    setCaseInsensitive compile shared edition order value

/-- A grammar that came about by calls. A copy may be worked on as well as what it was made
from. -/
inductive Built (compile : Compiler) : Grammar → Prop where
  | new (name : String) (edition : Nat) : Built compile (.new name edition)
  | called {grammar : Grammar} (built : Built compile grammar) (call : Call) :
    Built compile ((call.perform compile).after grammar)
  | copied {grammar : Grammar} (built : Built compile grammar) (edition : Nat) :
    Built compile { grammar with edition }

/-- The grammar that comes about by some calls, made in their order. -/
def ofCalls (compile : Compiler) (name : String) (calls : List Call) : Grammar :=
  calls.foldl (fun grammar call => (call.perform compile).after grammar) (.new name 0)

theorem built_ofCalls (compile : Compiler) (name : String) (calls : List Call) :
    (ofCalls compile name calls).Built compile := by
  have built : ∀ {grammar : Grammar}, grammar.Built compile →
      (calls.foldl (fun grammar call => (call.perform compile).after grammar) grammar).Built
        compile := by
    induction calls with
    | nil => exact fun built => built
    | cons call rest inductionHypothesis =>
      exact fun built => inductionHypothesis (.called built call)
  exact built (.new name 0)

/-! ### Invariants -/

/-- A property of grammars that no call takes away. A token may be declared if it was compiled
under the settings of the grammar, and rules of other kinds always. -/
structure Invariant (compile : Compiler) (property : Grammar → Prop) : Prop where
  /-- It does not depend on anything but the name, the rules and the flag. -/
  settings : ∀ {grammar next : Grammar}, property grammar → next.name = grammar.name →
    next.rules = grammar.rules → next.caseInsensitive = grammar.caseInsensitive → property next
  declared : ∀ {grammar : Grammar} {rule : Rule}, property grammar →
    rule.grammar = grammar.name →
    (∀ token, rule.token? = some token →
      compile token.pattern grammar.caseInsensitive = some token.program) →
    property { grammar with rules := grammar.rules ++ [rule] }
  recompiled : ∀ {grammar : Grammar} ignoreCase shared edition (order : VisitOrder),
    property grammar → property { grammar with
      caseInsensitive := ignoreCase
      rules := (recompileRules compile ignoreCase shared edition
        (order.positions grammar.rules.length) grammar.rules).1 }

/-- A grammar has a property, and the flag says whether case is ignored in it. -/
def Under (ignoreCase : Bool) (property : Grammar → Prop) (grammar : Grammar) : Prop :=
  grammar.caseInsensitive = ignoreCase ∧ property grammar

theorem keeps_of_under {construction : Construction Value}
    (keeps : ∀ ignoreCase, Keeps (Under ignoreCase property) construction) :
    Keeps property construction :=
  fun grammar holds => (keeps grammar.caseInsensitive grammar ⟨rfl, holds⟩).2

theorem keeps_ensureUnique (name : String) : Keeps property (ensureUnique name) :=
  keeps_bind keeps_get fun _ => keeps_guard _

theorem keeps_compiled_bind {ignoreCase : Bool} (name pattern : String)
    {second : Pattern.Program → Construction Value}
    (rest : ∀ program, compile pattern ignoreCase = some program →
      Keeps (Under ignoreCase property) (second program)) :
    Keeps (Under ignoreCase property) (compiled compile name pattern >>= second) := by
  intro grammar holds
  rw [compiled, bind_assoc, after_get_bind, compileToken, holds.1]
  cases found : compile pattern ignoreCase with
  | none => exact keeps_throw _ grammar holds
  | some program => exact rest program found grammar holds

namespace Invariant

variable (invariant : Invariant compile property)
include invariant

theorem keeps_modify {update : Grammar → Grammar} (same : ∀ grammar,
    (update grammar).name = grammar.name ∧ (update grammar).rules = grammar.rules ∧
      (update grammar).caseInsensitive = grammar.caseInsensitive) :
    Keeps property (modify update) :=
  Construction.keeps_modify fun grammar holds =>
    invariant.settings holds (same grammar).1 (same grammar).2.1 (same grammar).2.2

theorem keeps_addRule {ignoreCase : Bool} (name : String) {kind : RuleKind}
    (compiled : ∀ token, kind = .token token →
      compile token.pattern ignoreCase = some token.program) :
    Keeps (Under ignoreCase property) (addRule name kind) := by
  refine keeps_bind (keeps_ensureUnique name) fun _ => ?_
  refine keeps_bind (Construction.keeps_modify fun grammar holds => ⟨holds.1, ?_⟩)
    fun _ => keeps_pure _
  refine invariant.declared holds.2 rfl fun token isToken => ?_
  rw [holds.1]
  refine compiled token ?_
  cases kind with
  | token other => exact congrArg RuleKind.token (Option.some.inj isToken)
  | _ => cases isToken

theorem keeps_insertToken {ignoreCase : Bool} (name : String) {token : TokenRule}
    (compiled : compile token.pattern ignoreCase = some token.program) :
    Keeps (Under ignoreCase property) (insertToken name token) := by
  refine keeps_bind (keeps_ensureUnique name) fun _ => ?_
  refine keeps_bind (Construction.keeps_modify fun _ holds =>
    ⟨holds.1, invariant.settings holds.2 rfl rfl rfl⟩) fun _ => ?_
  refine invariant.keeps_addRule name fun other same => ?_
  rw [← RuleKind.token.inj same]
  exact compiled

theorem keeps_addToken (name pattern : String) (whitespace : Bool) :
    Keeps property (addToken compile name pattern whitespace) := by
  refine keeps_of_under fun ignoreCase => ?_
  refine keeps_bind (keeps_ensureUnique name) fun _ => ?_
  exact keeps_compiled_bind _ _ fun _ compiled => invariant.keeps_insertToken name compiled

theorem keeps_addKeyword (literal : String) : Keeps property (addKeyword compile literal) := by
  refine keeps_of_under fun ignoreCase => ?_
  refine keeps_bind keeps_get fun grammar => ?_
  dsimp only
  split
  · split
    · exact keeps_pure _
    · exact keeps_throw _
  · refine keeps_bind (keeps_ensureUnique _) fun _ => ?_
    exact keeps_compiled_bind _ _ fun _ compiled => invariant.keeps_insertToken _ compiled

theorem keeps_setCaseInsensitive (shared : Rule → Bool) (edition : Nat) (order : VisitOrder)
    (value : Bool) : Keeps property (setCaseInsensitive compile shared edition order value) := by
  intro grammar holds
  have recompiled := invariant.recompiled value shared edition order holds
  rw [setCaseInsensitive, after_get_bind, after_set_bind]
  split
  · exact keeps_throw _ _ recompiled
  · exact keeps_pure () _ recompiled

theorem keeps_perform (call : Call) : Keeps property (call.perform compile) := by
  have discarded : ∀ {Value : Type} {construction : Construction Value},
      Keeps property construction → Keeps property (discard construction) :=
    fun keeps => keeps_bind keeps fun _ => keeps_pure _
  have plain : ∀ name kind, (∀ token, kind ≠ RuleKind.token token) →
      Keeps property (addRule name kind) :=
    fun name _ noToken => keeps_of_under fun _ =>
      invariant.keeps_addRule name fun token isToken => absurd isToken (noToken token)
  cases call with
  | token name pattern whitespace =>
    exact discarded (invariant.keeps_addToken name pattern whitespace)
  | keyword literal => exact discarded (invariant.keeps_addKeyword literal)
  | sequence name items => exact discarded (plain _ _ nofun)
  | choice name alternatives wrap => exact discarded (plain _ _ nofun)
  | list name rule => exact discarded (plain _ _ nofun)
  | set name rule => exact discarded (plain _ _ nofun)
  | operator name associativity sign operand => exact discarded (plain _ _ nofun)
  | imported name grammar rule wrap => exact discarded (plain _ _ nofun)
  | freshName =>
    exact discarded (keeps_bind (invariant.keeps_modify fun _ => ⟨rfl, rfl, rfl⟩) fun _ =>
      keeps_bind keeps_get fun _ => keeps_pure _)
  | startSymbol rule => exact invariant.keeps_modify fun _ => ⟨rfl, rfl, rfl⟩
  | depthLimit limit => exact invariant.keeps_modify fun _ => ⟨rfl, rfl, rfl⟩
  | whitespaceDisabled disabled => exact invariant.keeps_modify fun _ => ⟨rfl, rfl, rfl⟩
  | caseInsensitive shared edition order value =>
    exact invariant.keeps_setCaseInsensitive shared edition order value

/-- What is true of grammars without rules, and taken away by no call, is true of all. -/
theorem of_built (new : ∀ name edition, property (.new name edition)) {grammar : Grammar}
    (built : grammar.Built compile) : property grammar := by
  induction built with
  | new name edition => exact new name edition
  | called built call inductionHypothesis =>
    exact invariant.keeps_perform call _ inductionHypothesis
  | copied built edition inductionHypothesis =>
    exact invariant.settings inductionHypothesis rfl rfl rfl

end Invariant

/-! ### Rules visited one after another -/

section

variable {ignoreCase : Bool} {shared : Rule → Bool} {edition position : Nat} {later : List Nat}
  {rules : List Rule} {rule next : Rule} {complaint : GrammarError}

theorem recompileRules_of_none (found : rules[position]? = none) :
    recompileRules compile ignoreCase shared edition (position :: later) rules =
      recompileRules compile ignoreCase shared edition later rules := by
  rw [recompileRules, found]

theorem recompileRules_of_ok (found : rules[position]? = some rule)
    (recompiled : recompileRule compile ignoreCase (rule.renew shared edition) = .ok next) :
    recompileRules compile ignoreCase shared edition (position :: later) rules =
      recompileRules compile ignoreCase shared edition later (rules.set position next) := by
  rw [recompileRules, found]
  dsimp only
  rw [recompiled]

theorem recompileRules_of_error (found : rules[position]? = some rule)
    (refused : recompileRule compile ignoreCase (rule.renew shared edition) = .error complaint) :
    recompileRules compile ignoreCase shared edition (position :: later) rules =
      (rules.set position (rule.renew shared edition), some complaint) := by
  rw [recompileRules, found]
  dsimp only
  rw [refused]

/-- What stays true when one rule is visited, whether its token can be compiled or not, is true
wherever the recompilation stops. -/
theorem recompileRules_keeps (property : List Rule → Prop)
    (renewed : ∀ {rules position rule}, property rules → rules[position]? = some rule →
      property (rules.set position (rule.renew shared edition)))
    (recompiled : ∀ {rules position rule next}, property rules → rules[position]? = some rule →
      recompileRule compile ignoreCase (rule.renew shared edition) = .ok next →
      property (rules.set position next))
    (positions : List Nat) {rules : List Rule} (holds : property rules) :
    property (recompileRules compile ignoreCase shared edition positions rules).1 := by
  induction positions generalizing rules with
  | nil => exact holds
  | cons position later inductionHypothesis =>
    cases found : rules[position]? with
    | none =>
      rw [recompileRules_of_none found]
      exact inductionHypothesis holds
    | some rule =>
      cases ended : recompileRule compile ignoreCase (rule.renew shared edition) with
      | error complaint =>
        rw [recompileRules_of_error found ended]
        exact renewed holds found
      | ok next =>
        rw [recompileRules_of_ok found ended]
        exact inductionHypothesis (recompiled holds found ended)

end

/-! ### Declarations -/

variable {ignoreCase : Bool} {shared : Rule → Bool} {edition : Nat}

/-- A rule was declared in a grammar of some name, and if it is a token, it was compiled from
its pattern. -/
def Declares (compile : Compiler) (grammar : String) (rule : Rule) : Prop :=
  rule.grammar = grammar ∧ ∀ token, rule.token? = some token →
    ∃ ignoreCase, compile token.pattern ignoreCase = some token.program

/-- All rules of a grammar were declared in it, or in a grammar of its name. -/
def Declared (compile : Compiler) (grammar : Grammar) : Prop :=
  ∀ rule ∈ grammar.rules, Declares compile grammar.name rule

theorem Declares.recompileRule {grammar : String} {rule next : Rule}
    (declares : Declares compile grammar rule)
    (recompiled : Grammar.recompileRule compile ignoreCase rule = .ok next) :
    Declares compile grammar next := by
  unfold Grammar.recompileRule at recompiled
  split at recompiled
  · rename_i token _
    unfold compileToken at recompiled
    cases found : compile token.pattern ignoreCase with
    | none =>
      rw [found] at recompiled
      cases recompiled
    | some program =>
      rw [found] at recompiled
      rw [← Except.ok.inj recompiled]
      refine ⟨declares.1, fun other isToken => ?_⟩
      rw [← Option.some.inj isToken]
      exact ⟨ignoreCase, found⟩
  · rw [← Except.ok.inj recompiled]
    exact declares

theorem Declares.renew {grammar : String} {rule : Rule} (declares : Declares compile grammar rule)
    (shared : Rule → Bool) (edition : Nat) :
    Declares compile grammar (rule.renew shared edition) := by
  rw [Rule.renew]
  split <;> exact declares

/-- Rules that are compiled anew stay as they should be, in whatever order that is done and even
if not all of them can be compiled. -/
theorem declares_recompileRules {grammar : String} (positions : List Nat) {rules : List Rule}
    (declares : ∀ rule ∈ rules, Declares compile grammar rule) :
    ∀ rule ∈ (recompileRules compile ignoreCase shared edition positions rules).1,
      Declares compile grammar rule := by
  have declares_set : ∀ {rules : List Rule} {position : Nat} {next : Rule},
      (∀ rule ∈ rules, Declares compile grammar rule) → Declares compile grammar next →
      ∀ rule ∈ rules.set position next, Declares compile grammar rule := by
    intro rules position next declares here rule member
    rcases List.mem_or_eq_of_mem_set member with old | rfl
    · exact declares rule old
    · exact here
  refine recompileRules_keeps (∀ rule ∈ ·, Declares compile grammar rule) ?_ ?_ positions declares
  · intro rules position rule declares found
    exact declares_set declares ((declares rule (List.mem_of_getElem? found)).renew _ _)
  · intro rules position rule next declares found recompiled
    have owned := (declares rule (List.mem_of_getElem? found)).renew shared edition
    exact declares_set declares (owned.recompileRule recompiled)

theorem invariant_declared : Invariant compile (Declared compile) where
  settings declared name_eq rules_eq _ := by
    rw [Declared, name_eq, rules_eq]
    exact declared
  declared := by
    intro grammar rule declared name_eq compiled other member
    rcases List.mem_append.mp member with old | new
    · exact declared other old
    · rw [List.mem_singleton.mp new]
      exact ⟨name_eq, fun token isToken => ⟨_, compiled token isToken⟩⟩
  recompiled _ _ _ _ declared := declares_recompileRules _ declared

/-- However a grammar came about, it was the one to declare its rules. -/
theorem Built.declared {grammar : Grammar} (built : grammar.Built compile) :
    grammar.Declared compile :=
  invariant_declared.of_built (fun _ _ => List.forall_mem_nil _) built

end Grammar

namespace Registry

/-! ### Registries -/

/-- A registry in which grammars were published and from which they were withdrawn. -/
inductive Built (compile : Compiler) : Registry → Prop where
  | empty : Built compile {}
  | registered {registry : Registry} {grammar : Grammar} (built : Built compile registry)
    (published : grammar.Built compile) : Built compile (registry.register grammar).1
  | unregistered {registry : Registry} (built : Built compile registry) (name : String) :
    Built compile (registry.unregister name)

/-- A published grammar goes by its own name. -/
theorem Built.of_lookup? {compile : Compiler} {registry : Registry}
    (built : registry.Built compile) {name : String} {grammar : Grammar}
    (found : registry.lookup? name = some grammar) :
    grammar.Built compile ∧ grammar.name = name := by
  induction built with
  | empty => cases found
  | @registered registry other built published inductionHypothesis =>
    rw [lookup?, register] at found
    by_cases same : name = other.name
    · subst same
      rw [Sorted.lookup_put_self] at found
      rw [← Option.some.inj found]
      exact ⟨published, rfl⟩
    · rw [Sorted.lookup_put_other same] at found
      exact inductionHypothesis found
  | unregistered built withdrawn inductionHypothesis =>
    rw [lookup?, unregister] at found
    by_cases same : name = withdrawn
    · rw [same, Sorted.lookup_erase_self] at found
      cases found
    · rw [Sorted.lookup_erase_other same] at found
      exact inductionHypothesis found

end Registry

end Rulebook
