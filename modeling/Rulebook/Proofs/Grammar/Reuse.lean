/-
This file says how long a keyword is found again. A grammar looks for a keyword by its pattern, and
for a pattern it notes the latest declaration only. No call but one gets in the way: whoever
declares a token by hand with the pattern of the keyword, under another name, takes the note over.
The keyword stays in the grammar, but from then on it is refused to those who ask for it.
-/

import Rulebook.Proofs.Grammar.Consistency

namespace Rulebook.Grammar

variable {compile : Compiler} {grammar next : Grammar} {literal name : String}

/-! ### Tokens that may serve as keywords -/

theorem isReusable_eq (grammar : Grammar) (name : String) :
    grammar.isReusable name = ((grammar.declarations.find? (·.name == name)).bind
      Rule.token?).any fun token => token.isKeyword && !token.whitespace := by
  have found : grammar.declarations.find? (·.name == name) =
      (grammar.rule? name).map Rule.declaration := by
    rw [declarations, List.find?_map, rule?]
    rfl
  rw [found, isReusable]
  cases grammar.rule? name with
  | none => rfl
  | some rule =>
    rw [Option.bind_some, Option.map_some, Option.bind_some, Rule.token?_declaration,
      Option.any_map]
    rfl

/-- As long as nothing that was declared goes, a rule serves as a keyword or does not. -/
theorem isReusable_retained (retained : grammar.declarations <+: next.declarations)
    (known : grammar.contains name = true) : next.isReusable name = grammar.isReusable name := by
  obtain ⟨rule, member, named⟩ := List.mem_map.mp (map_name_declarations grammar ▸
    contains_iff.mp known)
  obtain ⟨found, finds⟩ : ∃ found, grammar.declarations.find? (·.name == name) = some found :=
    Option.isSome_iff_exists.mp (List.find?_isSome.mpr ⟨rule, member, beq_iff_eq.mpr named⟩)
  obtain ⟨later, declarations_eq⟩ := retained
  rw [isReusable_eq, isReusable_eq, ← declarations_eq, List.find?_append, finds, Option.some_or]

/-- A token that was declared by hand is no keyword. -/
theorem isReusable_withToken (fresh : grammar.contains name = false) {token : TokenRule}
    (plain : token.literal = none) : (grammar.withToken name token).isReusable name = false := by
  rw [isReusable, rule?_withToken fresh, Option.bind_some, Rule.token?, Option.any_some,
    TokenRule.isKeyword, plain]
  rfl

/-! ### What is noted for the pattern of a keyword -/

/-- There is a keyword for a literal, or was one, and a rule is noted for its pattern. -/
structure Notes (grammar : Grammar) (literal name : String) : Prop where
  noted : grammar.tokenPatterns.lookup (literalPattern literal) = some name
  known : grammar.contains name = true
  keyword : grammar.contains (keywordName literal) = true

/-- A request for a keyword whose pattern is noted changes nothing. -/
theorem Notes.run_addKeyword (notes : grammar.Notes literal name) :
    (addKeyword compile literal).run grammar =
      if grammar.isReusable name then .ok name grammar
      else .error (.keywordConflict literal) grammar := by
  rw [Grammar.run_addKeyword, notes.noted]

/-- A keyword that was asked for is noted, and it may serve again. -/
theorem Consistent.notes (consistent : grammar.Consistent)
    (answered : (addKeyword compile literal).run grammar = .ok name next) :
    next.Notes literal name ∧ next.isReusable name = true := by
  obtain ⟨named, rule, token, found, isToken, plain, isLiteral⟩ :=
    consistent.of_addKeyword answered
  have known : next.contains name = true := by
    rw [contains, found]
    rfl
  have noted : next.tokenPatterns.lookup (literalPattern literal) = some name := by
    rcases addKeyword_cases answered with ⟨rfl, used, -⟩ | ⟨-, -, program, -, rfl⟩
    · exact used
    · exact List.lookup_cons_self
  refine ⟨⟨noted, known, named ▸ known⟩, ?_⟩
  rw [isReusable, found, Option.bind_some, isToken, Option.any_some, TokenRule.isKeyword, isLiteral,
    plain]
  rfl

/-! ### Calls -/

/-- The call is granted, and it declares a token by hand with the pattern of a keyword. -/
def Call.Usurps (compile : Compiler) (grammar : Grammar) (literal : String) (call : Call) : Prop :=
  ∃ name whitespace, call = .token name (literalPattern literal) whitespace ∧
    ∃ next, (call.perform compile).run grammar = .ok () next

/-- What was declared is there after any call. -/
theorem contains_after (compile : Compiler) (call : Call)
    (known : grammar.contains name = true) :
    ((call.perform compile).after grammar).contains name = true := by
  have altered : grammar.Alters compile ((call.perform compile).after grammar) :=
    alters_after call grammar
  obtain ⟨later, declarations_eq⟩ := altered.declarations_retained
  rw [contains_iff, ← map_name_declarations] at known ⊢
  rw [← declarations_eq, List.map_append]
  exact List.mem_append_left _ known

/-- The call asks for a token, by its pattern or by its literal. -/
def Call.asksForToken : Call → Bool
  | .token _ _ _ | .keyword _ => true
  | _ => false

/-- Calls that do not ask for a token note nothing. -/
theorem keeps_patterns {patterns : List (String × String)} {call : Call}
    (asksNot : call.asksForToken = false) :
    Construction.Keeps (fun grammar => grammar.tokenPatterns = patterns)
      (call.perform compile) := by
  have declared : ∀ name kind, Construction.Keeps
      (fun grammar => grammar.tokenPatterns = patterns) (discard (addRule name kind)) :=
    fun name kind => Construction.keeps_bind (Construction.keeps_bind (keeps_ensureUnique name)
      fun _ => Construction.keeps_bind (Construction.keeps_modify fun _ same => same)
        fun _ => Construction.keeps_pure _) fun _ => Construction.keeps_pure _
  cases call with
  | token name pattern whitespace => cases asksNot
  | keyword literal => cases asksNot
  | sequence name items => exact declared name _
  | choice name alternatives wrap => exact declared name _
  | list name rule => exact declared name _
  | set name rule => exact declared name _
  | operator name associativity sign operand => exact declared name _
  | imported name grammar rule wrap => exact declared name _
  | caseInsensitive shared edition order value =>
    intro grammar same
    rw [Construction.after, run_recasing]
    cases (recompileRules compile value shared edition
      (order.positions grammar.rules.length) grammar.rules).2 with
    | none => exact same
    | some complaint => exact same
  | _ => exact fun _ same => same

/-- A note for a pattern is not touched by what is declared with another pattern. -/
theorem lookup_withToken {pattern : String} {token : TokenRule} (other : token.pattern ≠ pattern) :
    (grammar.withToken name token).tokenPatterns.lookup pattern =
      grammar.tokenPatterns.lookup pattern := by
  show ((token.pattern, name) :: grammar.tokenPatterns).lookup pattern = _
  rw [List.lookup_cons, beq_eq_false_iff_ne.mpr other.symm]

/-- A token that is declared by hand and not refused stands behind the other rules. -/
theorem granted_token {pattern : String} {whitespace : Bool}
    (granted : ((Call.token name pattern whitespace).perform compile).run grammar = .ok () next) :
    grammar.contains name = false ∧ ∃ program, next =
      grammar.withToken name { pattern, program, whitespace, literal := none } := by
  have run_eq : (addToken compile name pattern whitespace).run grammar = _ :=
    run_addToken grammar name pattern whitespace
  cases taken : grammar.contains name with
  | true =>
    rw [taken] at run_eq
    have refused : _ = EStateM.Result.ok () next := (bind_of_error run_eq _).symm.trans granted
    cases refused
  | false =>
    rw [taken] at run_eq
    cases known : compile pattern grammar.caseInsensitive with
    | none =>
      rw [known] at run_eq
      have refused : _ = EStateM.Result.ok () next := (bind_of_error run_eq _).symm.trans granted
      cases refused
    | some program =>
      rw [known] at run_eq
      have done : _ = EStateM.Result.ok () next := (bind_of_ok run_eq).symm.trans granted
      cases done
      exact ⟨rfl, program, rfl⟩

/-- A keyword that is asked for and not refused was there, or it stands behind the other rules. -/
theorem granted_keyword
    (granted : ((Call.keyword literal).perform compile).run grammar = .ok () next) :
    next = grammar ∨ grammar.contains (keywordName literal) = false ∧ ∃ program, next =
      grammar.withToken (keywordName literal) (.ofKeyword literal program) := by
  cases answered : (addKeyword compile literal).run grammar with
  | error complaint refused =>
    have absurd : _ = EStateM.Result.ok () next := (bind_of_error answered _).symm.trans granted
    cases absurd
  | ok name after =>
    have done : _ = EStateM.Result.ok () next := (bind_of_ok answered).symm.trans granted
    cases done
    rcases addKeyword_cases answered with ⟨same, -⟩ | ⟨rfl, fresh, program, -, new⟩
    · exact .inl same
    · exact .inr ⟨fresh, program, new⟩

/-- As long as there is a keyword, its note is taken over by no call but a declaration by hand. -/
theorem Notes.lookup_after (notes : grammar.Notes literal name) {call : Call}
    (loyal : ¬ call.Usurps compile grammar literal) :
    ((call.perform compile).after grammar).tokenPatterns.lookup (literalPattern literal) =
      some name := by
  cases asks : call.asksForToken with
  | false => rw [keeps_patterns asks grammar rfl, notes.noted]
  | true =>
    cases ran : (call.perform compile).run grammar with
    | error complaint refused =>
      have plain : call.isRecasing = false := by
        cases call with
        | caseInsensitive shared edition order value => cases asks
        | _ => rfl
      rw [Construction.after, ran]
      rcases decides_perform compile plain grammar with ⟨_, unchanged⟩ | ⟨_, _, done, -⟩
      · rw [ran] at unchanged
        cases unchanged
        exact notes.noted
      · rw [ran] at done
        cases done
    | ok value next =>
      rw [Construction.after, ran]
      cases call with
      | token other pattern whitespace =>
        obtain ⟨-, program, rfl⟩ := granted_token ran
        refine (lookup_withToken fun same => loyal ?_).trans notes.noted
        exact ⟨other, whitespace, congrArg (Call.token other · whitespace) same, _, ran⟩
      | keyword other =>
        rcases granted_keyword ran with rfl | ⟨fresh, program, rfl⟩
        · exact notes.noted
        · refine (lookup_withToken fun same => ?_).trans notes.noted
          rw [literalPattern_injective same, notes.keyword] at fresh
          cases fresh
      | _ => cases asks

/-! ### Any number of calls -/

/-- A loyal call leaves a keyword as it is. -/
theorem Notes.after_loyal (notes : grammar.Notes literal name) {call : Call}
    (loyal : ¬ call.Usurps compile grammar literal) :
    ((call.perform compile).after grammar).Notes literal name ∧
      ((call.perform compile).after grammar).isReusable name = grammar.isReusable name := by
  have altered : grammar.Alters compile ((call.perform compile).after grammar) :=
    alters_after call grammar
  exact ⟨⟨notes.lookup_after loyal, contains_after compile call notes.known,
    contains_after compile call notes.keyword⟩,
    isReusable_retained altered.declarations_retained notes.known⟩

/-- After a call that usurps it, the pattern of a keyword leads to what is no keyword. -/
theorem Notes.after_usurping (notes : grammar.Notes literal name) {call : Call}
    (usurps : call.Usurps compile grammar literal) :
    ∃ usurper, ((call.perform compile).after grammar).Notes literal usurper ∧
      ((call.perform compile).after grammar).isReusable usurper = false := by
  obtain ⟨usurper, whitespace, rfl, next, granted⟩ := usurps
  have keyword := contains_after compile
    (.token usurper (literalPattern literal) whitespace) notes.keyword
  obtain ⟨fresh, program, rfl⟩ := granted_token granted
  rw [Construction.after, granted] at keyword ⊢
  have known : usurper ∈ ((grammar.withToken usurper
      ⟨literalPattern literal, program, whitespace, none⟩).rules.map (·.name)) := by
    rw [withToken, withRule, List.map_append]
    exact List.mem_append_right _ List.mem_cons_self
  exact ⟨usurper, ⟨List.lookup_cons_self, contains_iff.mpr known, keyword⟩,
    isReusable_withToken fresh rfl⟩

/-- The grammar after some calls, made in their order. -/
def afterCalls (compile : Compiler) (grammar : Grammar) (calls : List Call) : Grammar :=
  calls.foldl (fun grammar call => (call.perform compile).after grammar) grammar

/-- One of some calls usurps a keyword, after those before it have been made. -/
def Usurped (compile : Compiler) (literal : String) : Grammar → List Call → Prop
  | _, [] => False
  | grammar, call :: rest =>
    call.Usurps compile grammar literal ∨
      Usurped compile literal ((call.perform compile).after grammar) rest

/-- What leads to no keyword never leads to one again. -/
theorem Notes.after_lost (notes : grammar.Notes literal name)
    (lost : grammar.isReusable name = false) (calls : List Call) :
    ∃ usurper, (grammar.afterCalls compile calls).Notes literal usurper ∧
      (grammar.afterCalls compile calls).isReusable usurper = false := by
  induction calls generalizing grammar name with
  | nil => exact ⟨name, notes, lost⟩
  | cons call rest inductionHypothesis =>
    by_cases usurps : call.Usurps compile grammar literal
    · obtain ⟨usurper, notes, lost⟩ := notes.after_usurping usurps
      exact inductionHypothesis notes lost
    · obtain ⟨notes, same⟩ := notes.after_loyal usurps
      exact inductionHypothesis notes (same.trans lost)

/-- A keyword that may serve does so until it is usurped, and not afterwards. -/
theorem Notes.after_calls (compile : Compiler) (notes : grammar.Notes literal name)
    (reusable : grammar.isReusable name = true) (calls : List Call) :
    (¬ Usurped compile literal grammar calls →
        (grammar.afterCalls compile calls).Notes literal name ∧
          (grammar.afterCalls compile calls).isReusable name = true) ∧
      (Usurped compile literal grammar calls →
        ∃ usurper, (grammar.afterCalls compile calls).Notes literal usurper ∧
          (grammar.afterCalls compile calls).isReusable usurper = false) := by
  induction calls generalizing grammar with
  | nil => exact ⟨fun _ => ⟨notes, reusable⟩, False.elim⟩
  | cons call rest inductionHypothesis =>
    by_cases usurps : call.Usurps compile grammar literal
    · obtain ⟨usurper, notes, lost⟩ := notes.after_usurping usurps
      exact ⟨fun loyal => absurd (.inl usurps) loyal, fun _ => notes.after_lost lost rest⟩
    · obtain ⟨notes, same⟩ := notes.after_loyal usurps
      obtain ⟨kept, lost⟩ := inductionHypothesis notes (same.trans reusable)
      exact ⟨fun loyal => kept fun later => loyal (.inr later),
        fun usurped => lost (usurped.resolve_left usurps)⟩

/-- A keyword that was answered with a name is answered with this name after any further calls,
refused or not, and the request changes nothing, unless one of the calls declared a token by hand
with the very pattern of the keyword. After such a call the keyword is refused for good. -/
theorem keywords_are_found_until_usurped (built : grammar.Built compile)
    (answered : (addKeyword compile literal).run grammar = .ok name next) (calls : List Call) :
    let later := next.afterCalls compile calls
    (¬ Usurped compile literal next calls →
        (addKeyword compile literal).run later = .ok name later) ∧
      (Usurped compile literal next calls →
        (addKeyword compile literal).run later = .error (.keywordConflict literal) later) := by
  intro later
  obtain ⟨notes, reusable⟩ := built.consistent.notes answered
  obtain ⟨kept, lost⟩ := notes.after_calls compile reusable calls
  refine ⟨fun loyal => ?_, fun usurped => ?_⟩
  · obtain ⟨notes, reusable⟩ := kept loyal
    rw [notes.run_addKeyword, if_pos reusable]
  · obtain ⟨usurper, notes, lost⟩ := lost usurped
    rw [notes.run_addKeyword, lost, if_neg Bool.false_ne_true]

/-- A grammar of one keyword. -/
def conditional : Grammar :=
  ofCalls Workspace.compile "g" [.keyword "if"]

/-- A word is declared, and once more with the pattern of the keyword, which is refused. The keyword
is found again after that. -/
theorem if_is_found :
    let calls : List Call := [.token "word" "[a-z]+" false, .token "word" "if\\b" false,
      .keyword "then", .whitespaceDisabled true]
    (addKeyword Workspace.compile "if").run (.new "g" 0) = .ok "'if'" conditional ∧
      ¬ Usurped Workspace.compile "if" conditional calls ∧
      (addKeyword Workspace.compile "if").run (conditional.afterCalls Workspace.compile calls) =
        .ok "'if'" (conditional.afterCalls Workspace.compile calls) := by
  intro calls
  have answered : (addKeyword Workspace.compile "if").run (.new "g" 0) = .ok "'if'" conditional :=
    rfl
  have loyal : ¬ Usurped Workspace.compile "if" conditional calls := by
    have other : "[a-z]+" ≠ literalPattern "if" := by decide
    rintro (⟨_, _, same, -⟩ | ⟨_, _, -, next, granted⟩ | ⟨_, _, same, -⟩ | ⟨_, _, same, -⟩ | none)
    · exact other (Call.token.inj same).2.1
    · cases granted
    · cases same
    · cases same
    · exact none
  exact ⟨answered, loyal, (keywords_are_found_until_usurped (.new "g" 0) answered calls).1 loyal⟩

/-- A token that is declared with the pattern of a keyword is not refused, but the keyword is
afterwards. -/
theorem if_is_lost : ∃ next,
    (addKeyword Workspace.compile "if").run (.new "g" 0) = .ok "'if'" conditional ∧
      ((Call.token "if_token" "if\\b" false).perform Workspace.compile).run conditional =
        .ok () next ∧
      (addKeyword Workspace.compile "if").run next = .error (.keywordConflict "if") next :=
  ⟨_, rfl, rfl, rfl⟩

end Rulebook.Grammar
