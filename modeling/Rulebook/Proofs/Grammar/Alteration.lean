/-
This file says what a call makes of a grammar. A declaration looks for whatever may be wrong with
it before it changes anything. So it is refused and the grammar is what it was, or one rule more
stands behind the others. Settings change a setting. Only the call that switches the treatment of
case goes through the rules that are there, in any order, and it may stop on the way.
-/

import Rulebook.Proofs.Grammar.Compilation
import Rulebook.Proofs.Grammar.Declaration

namespace Rulebook

theorem Rule.token?_of_plain {rule : Rule} (plain : ∀ token, rule.kind ≠ .token token) :
    rule.token? = none := by
  rw [token?]
  split
  · exact absurd ‹_› (plain _)
  · rfl

namespace Grammar

variable {Value Result : Type} {compile : Compiler} {grammar next : Grammar}

/-! ### What declarations answer -/

/-- After a refusal nothing more is done. -/
theorem bind_of_error {first : Construction Value} {complaint : GrammarError}
    (refused : first grammar = .error complaint next)
    (second : Value → Construction Result) :
    (first >>= second) grammar = .error complaint next := by
  show EStateM.bind first second grammar = _
  rw [EStateM.bind, refused]

theorem ensureUnique_of_taken {name : String} (taken : grammar.contains name = true) :
    ensureUnique name grammar = .error (.duplicateRule grammar.name name) grammar := by
  rw [ensureUnique, bind_of_ok (get_eq grammar), taken]
  rfl

theorem run_addRule (grammar : Grammar) (name : String) (kind : RuleKind) :
    (addRule name kind).run grammar =
      if grammar.contains name then .error (.duplicateRule grammar.name name) grammar
      else .ok name (grammar.withRule name kind) := by
  cases taken : grammar.contains name with
  | false => exact addRule_of_fresh taken kind
  | true => exact bind_of_error (ensureUnique_of_taken taken) _

/-- A pattern that makes no program is refused. -/
theorem compiled_of_resists {name pattern : String}
    (resists : compile pattern grammar.caseInsensitive = none) :
    compiled compile name pattern grammar =
      .error (.invalidTokenPattern name pattern) grammar := by
  rw [compiled, bind_of_ok (get_eq grammar), compileToken, resists]
  rfl

theorem run_addToken (grammar : Grammar) (name pattern : String) (whitespace : Bool) :
    (addToken compile name pattern whitespace).run grammar =
      if grammar.contains name then .error (.duplicateRule grammar.name name) grammar
      else match compile pattern grammar.caseInsensitive with
        | none => .error (.invalidTokenPattern name pattern) grammar
        | some program => .ok name
          (grammar.withToken name { pattern, program, whitespace, literal := none }) := by
  cases taken : grammar.contains name with
  | true => exact bind_of_error (ensureUnique_of_taken taken) _
  | false =>
    cases known : compile pattern grammar.caseInsensitive with
    | some program => exact addToken_of_fresh taken known whitespace
    | none =>
      exact (bind_of_ok (ensureUnique_of_fresh taken)).trans
        (bind_of_error (compiled_of_resists known) _)

/-- The name of a keyword. -/
def keywordName (literal : String) : String :=
  "'" ++ literal ++ "'"

/-- A rule may serve as a keyword: it is a token made from a literal, and no whitespace. -/
def isReusable (grammar : Grammar) (name : String) : Bool :=
  ((grammar.rule? name).bind Rule.token?).any fun token => token.isKeyword && !token.whitespace

theorem run_addKeyword (grammar : Grammar) (literal : String) :
    (addKeyword compile literal).run grammar =
      match grammar.tokenPatterns.lookup (literalPattern literal) with
      | some existing =>
        if grammar.isReusable existing then .ok existing grammar
        else .error (.keywordConflict literal) grammar
      | none =>
        if grammar.contains (keywordName literal) then
          .error (.duplicateRule grammar.name (keywordName literal)) grammar
        else match compile (literalPattern literal) grammar.caseInsensitive with
          | none =>
            .error (.invalidTokenPattern (keywordName literal) (literalPattern literal)) grammar
          | some program => .ok (keywordName literal)
            (grammar.withToken (keywordName literal) (.ofKeyword literal program)) := by
  have begun : (addKeyword compile literal).run grammar = _ := bind_of_ok (get_eq grammar)
  cases used : grammar.tokenPatterns.lookup (literalPattern literal) with
  | some existing =>
    rw [begun, used]
    dsimp only
    rw [isReusable]
    split <;> rfl
  | none =>
    cases taken : grammar.contains (keywordName literal) with
    | true =>
      rw [begun, used]
      exact bind_of_error (ensureUnique_of_taken taken) _
    | false =>
      cases known : compile (literalPattern literal) grammar.caseInsensitive with
      | some program => exact addKeyword_of_fresh used taken known
      | none =>
        rw [begun, used]
        exact (bind_of_ok (ensureUnique_of_fresh taken)).trans
          (bind_of_error (compiled_of_resists known) _)

/-! ### What calls make of a grammar -/

/-- A grammar told to treat case in a way, with its tokens compiled anew as far as that went. -/
def recased (compile : Compiler) (shared : Rule → Bool) (edition : Nat) (order : VisitOrder)
    (value : Bool) (grammar : Grammar) : Grammar :=
  { grammar with
    caseInsensitive := value
    rules := (recompileRules compile value shared edition
      (order.positions grammar.rules.length) grammar.rules).1 }

/-- What a call makes of a grammar that is not refused and does not switch the treatment of
case. -/
inductive Extends (compile : Compiler) (grammar : Grammar) : Grammar → Prop where
  /-- Rules and all that is known of them stay as they are. -/
  | settings {next : Grammar} (name_eq : next.name = grammar.name)
    (rules_eq : next.rules = grammar.rules) (whitespace_eq : next.whitespace = grammar.whitespace)
    (patterns_eq : next.tokenPatterns = grammar.tokenPatterns)
    (case_eq : next.caseInsensitive = grammar.caseInsensitive) : Extends compile grammar next
  | rule {name : String} {kind : RuleKind} (fresh : grammar.contains name = false)
    (plain : ∀ token, kind ≠ .token token) : Extends compile grammar (grammar.withRule name kind)
  | token {name : String} {token : TokenRule} (fresh : grammar.contains name = false)
    (known : compile token.pattern grammar.caseInsensitive = some token.program)
    (literal : ∀ literal, token.literal = some literal →
      name = keywordName literal ∧ token.pattern = literalPattern literal ∧
        token.whitespace = false) :
    Extends compile grammar (grammar.withToken name token)

theorem Extends.refl (grammar : Grammar) : grammar.Extends compile grammar :=
  .settings rfl rfl rfl rfl rfl

/-- What a call makes of a grammar, whether it is refused or not. -/
inductive Alters (compile : Compiler) (grammar : Grammar) : Grammar → Prop where
  | extended {next : Grammar} (extended : grammar.Extends compile next) :
    Alters compile grammar next
  | recased (shared : Rule → Bool) (edition : Nat) (order : VisitOrder) (value : Bool) :
    Alters compile grammar (grammar.recased compile shared edition order value)

/-- A construction is refused and changes nothing, or it extends the grammar. -/
def Decides (compile : Compiler) (construction : Construction Value) (grammar : Grammar) :
    Prop :=
  (∃ complaint, construction.run grammar = .error complaint grammar) ∨
    ∃ value next, construction.run grammar = .ok value next ∧ grammar.Extends compile next

/-- The answer of a construction may be disregarded. -/
theorem Decides.discard {construction : Construction Value}
    (decides : Decides compile construction grammar) :
    Decides compile (discard construction) grammar := by
  refine decides.imp (fun ⟨complaint, refused⟩ => ⟨complaint, bind_of_error refused _⟩) ?_
  rintro ⟨value, next, done, extended⟩
  exact ⟨⟨⟩, next, bind_of_ok done, extended⟩

theorem decides_addRule (grammar : Grammar) (name : String) {kind : RuleKind}
    (plain : ∀ token, kind ≠ .token token) :
    Decides compile (addRule name kind) grammar := by
  rw [Decides, run_addRule]
  cases taken : grammar.contains name with
  | true => exact .inl ⟨_, rfl⟩
  | false => exact .inr ⟨_, _, rfl, .rule taken plain⟩

theorem decides_addToken (grammar : Grammar) (name pattern : String) (whitespace : Bool) :
    Decides compile (addToken compile name pattern whitespace) grammar := by
  rw [Decides, run_addToken]
  cases taken : grammar.contains name with
  | true => exact .inl ⟨_, rfl⟩
  | false =>
    cases known : compile pattern grammar.caseInsensitive with
    | none => exact .inl ⟨_, rfl⟩
    | some program => exact .inr ⟨_, _, rfl, .token taken known fun _ absurd => nomatch absurd⟩

theorem decides_addKeyword (grammar : Grammar) (literal : String) :
    Decides compile (addKeyword compile literal) grammar := by
  rw [Decides, run_addKeyword]
  cases used : grammar.tokenPatterns.lookup (literalPattern literal) with
  | some existing =>
    dsimp only
    split
    · exact .inr ⟨_, _, rfl, .refl grammar⟩
    · exact .inl ⟨_, rfl⟩
  | none =>
    cases taken : grammar.contains (keywordName literal) with
    | true => exact .inl ⟨_, rfl⟩
    | false =>
      cases known : compile (literalPattern literal) grammar.caseInsensitive with
      | none => exact .inl ⟨_, rfl⟩
      | some program =>
        refine .inr ⟨_, _, rfl, .token taken known fun other same => ?_⟩
        rw [← Option.some.inj same]
        exact ⟨rfl, rfl, rfl⟩

/-- The call switches the treatment of case. -/
def Call.isRecasing : Call → Bool
  | .caseInsensitive _ _ _ _ => true
  | _ => false

/-- All calls but one are refused without any change, or extend the grammar. -/
theorem decides_perform (compile : Compiler) {call : Call}
    (notRecasing : call.isRecasing = false) (grammar : Grammar) :
    Decides compile (call.perform compile) grammar := by
  cases call with
  | token name pattern whitespace =>
    exact (decides_addToken grammar name pattern whitespace).discard
  | keyword literal => exact (decides_addKeyword grammar literal).discard
  | sequence name items => exact .discard (decides_addRule grammar name nofun)
  | choice name alternatives wrap => exact .discard (decides_addRule grammar name nofun)
  | list name rule => exact .discard (decides_addRule grammar name nofun)
  | set name rule => exact .discard (decides_addRule grammar name nofun)
  | operator name associativity sign operand =>
    exact .discard (decides_addRule grammar name nofun)
  | imported name grammar' rule wrap => exact .discard (decides_addRule grammar name nofun)
  | freshName => exact .inr ⟨_, _, rfl, .settings rfl rfl rfl rfl rfl⟩
  | startSymbol rule => exact .inr ⟨_, _, rfl, .settings rfl rfl rfl rfl rfl⟩
  | depthLimit limit => exact .inr ⟨_, _, rfl, .settings rfl rfl rfl rfl rfl⟩
  | whitespaceDisabled disabled => exact .inr ⟨_, _, rfl, .settings rfl rfl rfl rfl rfl⟩
  | caseInsensitive shared edition order value => cases notRecasing

/-- The call that switches the treatment of case does so whether it is refused or not. -/
theorem run_recasing (shared : Rule → Bool) (edition : Nat) (order : VisitOrder) (value : Bool)
    (grammar : Grammar) :
    ((Call.caseInsensitive shared edition order value).perform compile).run grammar =
      match (recompileRules compile value shared edition
        (order.positions grammar.rules.length) grammar.rules).2 with
      | some complaint => .error complaint (grammar.recased compile shared edition order value)
      | none => .ok () (grammar.recased compile shared edition order value) :=
  run_setCaseInsensitive grammar order value

/-- Refused or not, a call alters a grammar in one of a few ways. -/
theorem alters_after (call : Call) (grammar : Grammar) :
    grammar.Alters compile ((call.perform compile).after grammar) := by
  rw [Construction.after]
  cases recasing : call.isRecasing with
  | false =>
    rcases decides_perform compile recasing grammar with
      ⟨complaint, refused⟩ | ⟨value, next, done, extended⟩
    · rw [refused]
      exact .extended (.refl grammar)
    · rw [done]
      exact .extended extended
  | true =>
    cases call with
    | caseInsensitive shared edition order value =>
      rw [run_recasing]
      cases (recompileRules compile value shared edition
        (order.positions grammar.rules.length) grammar.rules).2 with
      | some complaint => exact .recased shared edition order value
      | none => exact .recased shared edition order value
    | _ => cases recasing

/-- What is true of grammars without rules and kept by every alteration is true of all. -/
theorem Built.of_alters {property : Grammar → Prop}
    (new : ∀ name edition, property (.new name edition))
    (altered : ∀ {grammar next : Grammar}, property grammar → grammar.Alters compile next →
      property next) (built : grammar.Built compile) : property grammar := by
  induction built with
  | new name edition => exact new name edition
  | called built call inductionHypothesis =>
    exact altered inductionHypothesis (alters_after call _)
  | copied built edition inductionHypothesis =>
    exact altered inductionHypothesis (.extended (.settings rfl rfl rfl rfl rfl))

end Grammar

end Rulebook
