/-
This file says that all a grammar knows about its rules fits together. A grammar keeps its rules,
a list of its whitespace tokens, and a record of which token was declared by which pattern. No
call takes a rule away or changes what was declared, so the three are in step at any time, also
after calls that were refused.

A keyword is found again by its pattern. This is safe since a literal can be read off the pattern
that was made of it.
-/

import Rulebook.Proofs.Grammar.Alteration
import Rulebook.Proofs.Grammar.References
import Rulebook.Workspace

namespace Rulebook

/-! ### Patterns of literals -/

/-- The literal of which a pattern was made. An edge of a word ends it. -/
def readLiteral : List Char → List Char
  | [] => []
  | '\\' :: c :: rest => if Pattern.Escape.isMeta c then c :: readLiteral rest else []
  | c :: rest => c :: readLiteral rest

/-- A character as it stands in the pattern of a literal. -/
def escapeChar (c : Char) : List Char :=
  if Pattern.Escape.isMeta c then ['\\', c] else [c]

theorem readLiteral_escape {suffix : List Char} (ends : readLiteral suffix = [])
    (chars : List Char) : readLiteral (chars.flatMap escapeChar ++ suffix) = chars := by
  induction chars with
  | nil => exact ends
  | cons c rest inductionHypothesis =>
    rw [List.flatMap_cons, List.append_assoc, escapeChar]
    split
    · rename_i isMeta
      rw [List.cons_append, List.singleton_append, readLiteral, if_pos isMeta, inductionHypothesis]
    · rename_i notMeta
      have plain : c ≠ '\\' := by
        rintro rfl
        exact notMeta (by decide)
      rw [List.singleton_append, readLiteral]
      · rw [inductionHypothesis]
      · exact fun _ _ backslash _ => plain backslash

theorem readLiteral_literalPattern (literal : String) :
    readLiteral (Grammar.literalPattern literal).toList = literal.toList := by
  rw [Grammar.literalPattern, String.toList_append, String.toList_ofList]
  refine readLiteral_escape ?_ literal.toList
  split <;> decide

/-- Different literals make different patterns. -/
theorem literalPattern_injective : Function.Injective Grammar.literalPattern := by
  intro left right same
  rw [← String.toList_inj, ← readLiteral_literalPattern, same, readLiteral_literalPattern]

/-! ### What was declared -/

/-- A kind of rule as it was declared. Programs come from patterns and are left out. -/
def RuleKind.declaration : RuleKind → RuleKind
  | .token declared => .token { declared with program := default }
  | kind => kind

/-- A rule as it was declared, in whatever edition. -/
def Rule.declaration (rule : Rule) : Rule :=
  { rule with edition := 0, kind := rule.kind.declaration }

theorem Rule.declaration_renew (shared : Rule → Bool) (edition : Nat) (rule : Rule) :
    (rule.renew shared edition).declaration = rule.declaration := by
  rw [renew_eq]
  rfl

theorem Rule.token?_declaration (rule : Rule) :
    rule.declaration.token? = rule.token?.map fun token => { token with program := default } := by
  rw [token?, token?, declaration]
  cases rule.kind <;> rfl

theorem Rule.isWhitespace_declaration (rule : Rule) :
    rule.declaration.isWhitespace = rule.isWhitespace := by
  rw [isWhitespace, isWhitespace, token?_declaration, Option.any_map]

namespace Grammar

variable {compile : Compiler} {grammar next : Grammar}

/-- The rules of a grammar as they were declared. -/
def declarations (grammar : Grammar) : List Rule :=
  grammar.rules.map Rule.declaration

theorem map_name_declarations (grammar : Grammar) :
    grammar.declarations.map (·.name) = grammar.rules.map (·.name) :=
  List.map_map

theorem contains_iff {name : String} :
    grammar.contains name = true ↔ name ∈ grammar.rules.map (·.name) := by
  rw [contains, rule?, List.find?_isSome, List.mem_map]
  exact exists_congr fun rule => and_congr_right fun _ => beq_iff_eq

/-- Nothing that was declared is different after a rule has been compiled anew. -/
theorem declaration_of_recompileRule {ignoreCase : Bool} {rule next : Rule}
    (recompiled : recompileRule compile ignoreCase rule = .ok next) :
    next.declaration = rule.declaration := by
  rw [recompileRule] at recompiled
  cases kind : rule.kind with
  | token token =>
    rw [kind] at recompiled
    dsimp only at recompiled
    rw [compileToken] at recompiled
    cases known : compile token.pattern ignoreCase with
    | none =>
      rw [known] at recompiled
      cases recompiled
    | some program =>
      rw [known] at recompiled
      rw [← Except.ok.inj recompiled, Rule.declaration, Rule.declaration, kind]
      rfl
  | _ =>
    rw [kind] at recompiled
    rw [← Except.ok.inj recompiled]

theorem map_declaration_recompileRules (ignoreCase : Bool) (shared : Rule → Bool)
    (edition : Nat) (positions : List Nat) (rules : List Rule) :
    (recompileRules compile ignoreCase shared edition positions rules).1.map Rule.declaration =
      rules.map Rule.declaration := by
  refine recompileRules_keeps (·.map Rule.declaration = rules.map Rule.declaration) ?_ ?_
    positions rfl
  · intro visited position rule same found
    rw [map_set_of_eq found (rule.declaration_renew shared edition), same]
  · intro visited position rule next same found recompiled
    rw [map_set_of_eq found ?_, same]
    rw [declaration_of_recompileRule recompiled, Rule.declaration_renew]

theorem declarations_recased (shared : Rule → Bool) (edition : Nat) (order : VisitOrder)
    (value : Bool) (grammar : Grammar) :
    (grammar.recased compile shared edition order value).declarations = grammar.declarations :=
  map_declaration_recompileRules value shared edition _ grammar.rules

theorem declarations_withRule (grammar : Grammar) (name : String) (kind : RuleKind) :
    (grammar.withRule name kind).declarations =
      grammar.declarations ++ [Rule.declaration ⟨name, grammar.name, grammar.edition, kind⟩] :=
  List.map_append

theorem declarations_withToken (grammar : Grammar) (name : String) (token : TokenRule) :
    (grammar.withToken name token).declarations =
      grammar.declarations ++
        [Rule.declaration ⟨name, grammar.name, grammar.edition, .token token⟩] :=
  List.map_append

/-- What was declared stays declared. -/
theorem Alters.declarations_retained (alters : grammar.Alters compile next) :
    grammar.declarations <+: next.declarations := by
  cases alters with
  | recased shared edition order value => exact ⟨[], by rw [List.append_nil, declarations_recased]⟩
  | extended extended =>
    cases extended with
    | settings name_eq rules_eq whitespace_eq patterns_eq case_eq =>
      exact ⟨[], by rw [List.append_nil, declarations, declarations, rules_eq]⟩
    | rule fresh plain =>
      rw [declarations_withRule]
      exact List.prefix_append _ _
    | token fresh known literal =>
      rw [declarations_withToken]
      exact List.prefix_append _ _

/-! ### What a grammar knows of its rules -/

/-- The names, the whitespace tokens and the patterns that a grammar has noted are those of the
rules that were declared in it. -/
structure Consistent (grammar : Grammar) : Prop where
  distinct : (grammar.declarations.map (·.name)).Nodup
  owned : ∀ rule ∈ grammar.declarations, rule.grammar = grammar.name
  whitespace_eq : grammar.whitespace = (grammar.declarations.filter (·.isWhitespace)).map (·.name)
  recorded : ∀ rule ∈ grammar.declarations, ∀ token, rule.token? = some token →
    (token.pattern, rule.name) ∈ grammar.tokenPatterns
  declared : ∀ entry ∈ grammar.tokenPatterns, ∃ rule ∈ grammar.declarations, ∃ token,
    rule.token? = some token ∧ rule.name = entry.2 ∧ token.pattern = entry.1
  keywords : ∀ rule ∈ grammar.declarations, ∀ token, rule.token? = some token →
    ∀ literal, token.literal = some literal → rule.name = keywordName literal ∧
      token.pattern = literalPattern literal ∧ token.whitespace = false

theorem consistent_new (name : String) (edition : Nat) : (new name edition).Consistent where
  distinct := List.nodup_nil
  owned := List.forall_mem_nil _
  whitespace_eq := rfl
  recorded := List.forall_mem_nil _
  declared := List.forall_mem_nil _
  keywords := List.forall_mem_nil _

theorem Consistent.of_same (consistent : grammar.Consistent) (name_eq : next.name = grammar.name)
    (declarations_eq : next.declarations = grammar.declarations)
    (whitespace_eq : next.whitespace = grammar.whitespace)
    (patterns_eq : next.tokenPatterns = grammar.tokenPatterns) : next.Consistent := by
  obtain ⟨distinct, owned, whitespace, recorded, declared, keywords⟩ := consistent
  rw [← declarations_eq] at distinct owned whitespace recorded declared keywords
  rw [← name_eq] at owned
  rw [← whitespace_eq] at whitespace
  rw [← patterns_eq] at recorded declared
  exact ⟨distinct, owned, whitespace, recorded, declared, keywords⟩

/-- A declaration under a new name is noted, and all is consistent again. -/
theorem Consistent.declare (consistent : grammar.Consistent) {rule : Rule}
    (fresh : grammar.contains rule.name = false) (owned : rule.grammar = grammar.name)
    (keyword : ∀ token, rule.token? = some token → ∀ literal, token.literal = some literal →
      rule.name = keywordName literal ∧ token.pattern = literalPattern literal ∧
        token.whitespace = false)
    (name_eq : next.name = grammar.name)
    (declarations_eq : next.declarations = grammar.declarations ++ [rule])
    (whitespace_eq : next.whitespace =
      grammar.whitespace ++ if rule.isWhitespace then [rule.name] else [])
    (patterns_eq : next.tokenPatterns =
      (rule.token?.map fun token => (token.pattern, rule.name)).toList ++ grammar.tokenPatterns) :
    next.Consistent where
  distinct := by
    rw [declarations_eq, List.map_append, List.nodup_append]
    refine ⟨consistent.distinct, List.nodup_singleton _, ?_⟩
    rintro _ known _ new rfl
    rw [List.mem_singleton.mp new, map_name_declarations, ← contains_iff, fresh] at known
    cases known
  owned := by
    rw [declarations_eq, name_eq]
    exact List.forall_mem_append.mpr ⟨consistent.owned, List.forall_mem_singleton.mpr owned⟩
  whitespace_eq := by
    rw [whitespace_eq, declarations_eq, List.filter_append, List.map_append,
      consistent.whitespace_eq, List.filter_singleton]
    cases rule.isWhitespace <;> rfl
  recorded := by
    rw [declarations_eq, patterns_eq]
    refine List.forall_mem_append.mpr ⟨fun other member token isToken => ?_,
      List.forall_mem_singleton.mpr fun token isToken => ?_⟩
    · exact List.mem_append_right _ (consistent.recorded other member token isToken)
    · rw [isToken]
      exact List.mem_append_left _ List.mem_cons_self
  declared := by
    rw [declarations_eq, patterns_eq]
    refine List.forall_mem_append.mpr ⟨fun entry member => ?_, fun entry member => ?_⟩
    · obtain ⟨token, isToken, rfl⟩ := Option.map_eq_some_iff.mp (Option.mem_toList.mp member)
      exact ⟨rule, List.mem_append_right _ List.mem_cons_self, token, isToken, rfl, rfl⟩
    · obtain ⟨other, listed, known⟩ := consistent.declared entry member
      exact ⟨other, List.mem_append_left _ listed, known⟩
  keywords := by
    rw [declarations_eq]
    exact List.forall_mem_append.mpr ⟨consistent.keywords, List.forall_mem_singleton.mpr keyword⟩

theorem Consistent.extended (consistent : grammar.Consistent)
    (extended : grammar.Extends compile next) : next.Consistent := by
  cases extended with
  | settings name_eq rules_eq whitespace_eq patterns_eq case_eq =>
    have declarations_eq : next.declarations = grammar.declarations := by
      rw [declarations, declarations, rules_eq]
    exact consistent.of_same name_eq declarations_eq whitespace_eq patterns_eq
  | @rule name kind fresh plain =>
    have noToken :
        (Rule.declaration ⟨name, grammar.name, grammar.edition, kind⟩).token? = none := by
      rw [Rule.token?_declaration, Rule.token?_of_plain plain]
      rfl
    refine consistent.declare fresh rfl (fun token isToken => ?_) rfl
      (declarations_withRule _ _ _) ?_ ?_
    · rw [noToken] at isToken
      cases isToken
    · rw [Rule.isWhitespace, noToken]
      exact (List.append_nil _).symm
    · rw [noToken]
      rfl
  | @token name token fresh known literal =>
    refine consistent.declare fresh rfl (fun other isToken => ?_) rfl
      (declarations_withToken _ _ _) ?_ rfl
    · rw [← Option.some.inj isToken]
      exact literal
    · show (if token.whitespace then grammar.whitespace ++ [name] else grammar.whitespace) =
        grammar.whitespace ++ if token.whitespace then [name] else []
      cases token.whitespace
      · exact (List.append_nil _).symm
      · rfl

/-- Whatever a call makes of a consistent grammar is consistent. -/
theorem Consistent.altered (consistent : grammar.Consistent)
    (alters : grammar.Alters compile next) : next.Consistent := by
  cases alters with
  | extended extended => exact consistent.extended extended
  | recased shared edition order value =>
    exact consistent.of_same rfl (declarations_recased _ _ _ _ _) rfl rfl

/-- However a grammar came about, it is consistent. -/
theorem Built.consistent (built : grammar.Built compile) : grammar.Consistent :=
  built.of_alters consistent_new Consistent.altered

/-! ### Looking rules up -/

/-- A rule is found under its own name. -/
theorem Consistent.rule?_of_mem (consistent : grammar.Consistent) {rule : Rule}
    (member : rule ∈ grammar.rules) : grammar.rule? rule.name = some rule := by
  have known : grammar.contains rule.name = true :=
    contains_iff.mpr (List.mem_map.mpr ⟨rule, member, rfl⟩)
  obtain ⟨other, found⟩ := Option.isSome_iff_exists.mp known
  have distinct := consistent.distinct
  rw [map_name_declarations] at distinct
  rw [found, List.inj_on_of_nodup_map distinct (mem_rules_of_rule? found) member (rule?_name found)]

/-- An entry leads to a token with its pattern. -/
theorem Consistent.token_of_entry (consistent : grammar.Consistent) {entry : String × String}
    (member : entry ∈ grammar.tokenPatterns) :
    ∃ rule token, grammar.rule? entry.2 = some rule ∧ rule.token? = some token ∧
      token.pattern = entry.1 := by
  obtain ⟨_, listed, token, isToken, named, pattern_eq⟩ := consistent.declared entry member
  obtain ⟨rule, inGrammar, rfl⟩ := List.mem_map.mp listed
  rw [Rule.token?_declaration, Option.map_eq_some_iff] at isToken
  obtain ⟨token, isToken, rfl⟩ := isToken
  exact ⟨rule, token, named ▸ consistent.rule?_of_mem inGrammar, isToken, pattern_eq⟩

/-- The pattern of a token leads to an entry. -/
theorem Consistent.entry_of_token (consistent : grammar.Consistent) {rule : Rule}
    (member : rule ∈ grammar.rules) {token : TokenRule} (isToken : rule.token? = some token) :
    (token.pattern, rule.name) ∈ grammar.tokenPatterns := by
  refine consistent.recorded rule.declaration (List.mem_map_of_mem member)
    { token with program := default } ?_
  rw [Rule.token?_declaration, isToken]
  rfl

/-- The name and the pattern of a keyword are made of its literal. -/
theorem Consistent.keyword_of_token (consistent : grammar.Consistent) {rule : Rule}
    (member : rule ∈ grammar.rules) {token : TokenRule} (isToken : rule.token? = some token)
    {literal : String} (isLiteral : token.literal = some literal) :
    rule.name = keywordName literal ∧ token.pattern = literalPattern literal ∧
      token.whitespace = false := by
  refine consistent.keywords rule.declaration (List.mem_map_of_mem member)
    { token with program := default } ?_ literal isLiteral
  rw [Rule.token?_declaration, isToken]
  rfl

theorem keywordName_injective : Function.Injective keywordName := by
  intro left right same
  exact (String.append_right_inj "'").mp ((String.append_left_inj "'").mp same)

/-- A name under which there is a keyword for a literal. -/
def IsKeyword (grammar : Grammar) (name literal : String) : Prop :=
  ∃ rule token, grammar.rule? name = some rule ∧ rule.token? = some token ∧
    token.whitespace = false ∧ token.literal = some literal

theorem Consistent.token_of_lookup (consistent : grammar.Consistent) {pattern name : String}
    (known : grammar.tokenPatterns.lookup pattern = some name) :
    ∃ rule token, grammar.rule? name = some rule ∧ rule.token? = some token ∧
      token.pattern = pattern := by
  obtain ⟨_, _, split_eq, -⟩ := List.lookup_eq_some_iff.mp known
  have member : (pattern, name) ∈ grammar.tokenPatterns := by
    rw [split_eq]
    exact List.mem_append_right _ List.mem_cons_self
  exact consistent.token_of_entry member

/-- A keyword that is asked for is one that is known by its pattern already, or it is new. -/
theorem addKeyword_cases {literal name : String}
    (answered : (addKeyword compile literal).run grammar = .ok name next) :
    (next = grammar ∧ grammar.tokenPatterns.lookup (literalPattern literal) = some name ∧
        grammar.isReusable name = true) ∨
      (name = keywordName literal ∧ grammar.contains name = false ∧
        ∃ program, compile (literalPattern literal) grammar.caseInsensitive = some program ∧
          next = grammar.withToken name (.ofKeyword literal program)) := by
  rw [run_addKeyword] at answered
  cases used : grammar.tokenPatterns.lookup (literalPattern literal) with
  | some existing =>
    rw [used] at answered
    dsimp only at answered
    cases reusable : grammar.isReusable existing with
    | false =>
      rw [reusable] at answered
      cases answered
    | true =>
      rw [reusable] at answered
      cases answered
      exact .inl ⟨rfl, rfl, reusable⟩
  | none =>
    rw [used] at answered
    cases taken : grammar.contains (keywordName literal) with
    | true =>
      rw [taken] at answered
      cases answered
    | false =>
      rw [taken] at answered
      cases known : compile (literalPattern literal) grammar.caseInsensitive with
      | none =>
        rw [known] at answered
        cases answered
      | some program =>
        rw [known] at answered
        cases answered
        exact .inr ⟨rfl, taken, program, rfl, rfl⟩

/-- An answer to a request for a keyword is the literal in quotes, and the keyword is there. -/
theorem Consistent.of_addKeyword (consistent : grammar.Consistent) {literal name : String}
    (answered : (addKeyword compile literal).run grammar = .ok name next) :
    name = keywordName literal ∧ next.IsKeyword name literal := by
  rcases addKeyword_cases answered with ⟨rfl, used, reusable⟩ | ⟨named, fresh, program, known, rfl⟩
  · -- The pattern leads to a keyword, and its literal can be read off the pattern.
    obtain ⟨rule, token, found, isToken, pattern_eq⟩ := consistent.token_of_lookup used
    rw [isReusable, found, Option.bind_some, isToken, Option.any_some, Bool.and_eq_true,
      Bool.not_eq_true', TokenRule.isKeyword, Option.isSome_iff_exists] at reusable
    obtain ⟨⟨other, isLiteral⟩, plain⟩ := reusable
    obtain ⟨named, made, -⟩ :=
      consistent.keyword_of_token (mem_rules_of_rule? found) isToken isLiteral
    have same : other = literal := literalPattern_injective (made.symm.trans pattern_eq)
    rw [same] at named isLiteral
    exact ⟨(rule?_name found).symm.trans named, rule, token, found, isToken, plain, isLiteral⟩
  · have after : (grammar.withToken name (.ofKeyword literal program)).Consistent := by
      refine consistent.extended (.token fresh known fun other same => ?_)
      rw [← Option.some.inj same]
      exact ⟨named, rfl, rfl⟩
    exact ⟨named, _, _, after.rule?_of_mem (List.mem_append_right _ List.mem_cons_self), rfl, rfl,
      rfl⟩

/-- However a grammar came about, every rule is found under its own name and belongs to the
grammar; no call, refused or not, takes a rule away or changes what it declares; the whitespace
tokens are listed once each in the order of their declaration; and the record of patterns has
every token, and nothing else. Therefore a request for a keyword is answered with a keyword for
this very literal, and requests for different literals are never answered alike. -/
theorem rules_are_in_order (built : grammar.Built compile) :
    (∀ rule ∈ grammar.rules, grammar.rule? rule.name = some rule ∧ rule.grammar = grammar.name) ∧
      (∀ call : Call,
        grammar.declarations <+: ((call.perform compile).after grammar).declarations) ∧
      (grammar.whitespace = (grammar.rules.filter (·.isWhitespace)).map (·.name) ∧
        grammar.whitespace.Nodup) ∧
      (∀ rule ∈ grammar.rules, ∀ token, rule.token? = some token →
        ∃ name, grammar.tokenPatterns.lookup token.pattern = some name) ∧
      (∀ pattern name, grammar.tokenPatterns.lookup pattern = some name →
        ∃ rule token, grammar.rule? name = some rule ∧ rule.token? = some token ∧
          token.pattern = pattern) ∧
      (∀ literal name next, (addKeyword compile literal).run grammar = .ok name next →
        name = "'" ++ literal ++ "'" ∧ next.IsKeyword name literal) ∧
      ∀ other : Grammar, other.Built compile → ∀ left right name next next',
        (addKeyword compile left).run grammar = .ok name next →
        (addKeyword compile right).run other = .ok name next' → left = right := by
  have consistent := built.consistent
  have whitespace_eq : grammar.whitespace =
      (grammar.rules.filter (·.isWhitespace)).map (·.name) := by
    rw [consistent.whitespace_eq, declarations, List.filter_map, List.map_map]
    refine congrArg _ (List.filter_congr fun rule _ => ?_)
    exact rule.isWhitespace_declaration
  refine ⟨fun rule member => ⟨consistent.rule?_of_mem member, ?_⟩,
    fun call => (alters_after call grammar).declarations_retained, ⟨whitespace_eq, ?_⟩,
    fun rule member token isToken => ?_, fun pattern name => consistent.token_of_lookup,
    fun literal name next => consistent.of_addKeyword,
    fun other otherBuilt left right name next next' first second => ?_⟩
  · exact consistent.owned rule.declaration (List.mem_map_of_mem member)
  · rw [consistent.whitespace_eq]
    exact consistent.distinct.sublist (List.filter_sublist.map _)
  · exact Option.isSome_iff_exists.mp (List.lookup_isSome_iff.mpr
      ⟨_, consistent.entry_of_token member isToken, beq_self_eq_true _⟩)
  · obtain ⟨named, -⟩ := consistent.of_addKeyword first
    obtain ⟨alike, -⟩ := otherBuilt.consistent.of_addKeyword second
    exact keywordName_injective (named.symm.trans alike)

/-- A point is a token that was declared by hand, so there is no keyword for it. -/
def pointed : Grammar :=
  ofCalls Workspace.compile "g" [.token "blank" " " true, .token "point" "\\." false, .keyword ".",
    .keyword "if"]

/-- What was refused leaves nothing behind, and a keyword is found again. -/
theorem rules_of_pointed_are_in_order :
    pointed.rules.map (·.name) = ["blank", "point", "'if'"] ∧ pointed.whitespace = ["blank"] ∧
      (addKeyword Workspace.compile "if").run pointed = .ok "'if'" pointed ∧
      pointed.IsKeyword "'if'" "if" := by
  have built : pointed.Built Workspace.compile := built_ofCalls _ _ _
  obtain ⟨-, -, -, -, -, keyword, -⟩ := rules_are_in_order built
  have again : (addKeyword Workspace.compile "if").run pointed = .ok "'if'" pointed := rfl
  exact ⟨rfl, rfl, again, (keyword _ _ _ again).2⟩

end Grammar

end Rulebook
