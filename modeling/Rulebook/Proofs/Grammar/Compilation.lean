/-
This file says what it comes to that a grammar is told to treat case as it does already. Every
token of a grammar was compiled under the settings of the grammar, so that compiling it again
gives the program that is there. There is one way for a token to be left behind: a grammar was
told to treat case in another way, and some pattern makes no program then. But as long as there
is such a token, telling the grammar the same once more is refused.

What remains of a call that is not refused is that rules which are shared with other grammars
become declarations of their own.
-/

import Rulebook.Proofs.Grammar.Provenance

namespace Rulebook

@[simp]
theorem Rule.renew_name (shared : Rule → Bool) (edition : Nat) (rule : Rule) :
    (rule.renew shared edition).name = rule.name := by
  rw [renew]
  split <;> rfl

@[simp]
theorem Rule.renew_kind (shared : Rule → Bool) (edition : Nat) (rule : Rule) :
    (rule.renew shared edition).kind = rule.kind := by
  rw [renew]
  split <;> rfl

theorem Rule.renew_eq (shared : Rule → Bool) (edition : Nat) (rule : Rule) :
    rule.renew shared edition = { rule with edition := (rule.renew shared edition).edition } := by
  rw [renew]
  split <;> rfl

@[simp]
theorem Rule.renew_renew (shared : Rule → Bool) (edition : Nat) (rule : Rule) :
    (rule.renew shared edition).renew shared edition = rule.renew shared edition := by
  by_cases isShared : shared rule = true
  · have renewed : rule.renew shared edition = { rule with edition } := by
      rw [renew, if_pos isShared]
    rw [renewed, renew]
    split <;> rfl
  · have same : rule.renew shared edition = rule := by rw [renew, if_neg isShared]
    rw [same, same]

/-! ### Lists in which one item is replaced -/

section

variable {Item Image : Type} {items : List Item} {item : Item} {position : Nat}

theorem map_set_of_eq {image : Item → Image} (found : items[position]? = some item) {next : Item}
    (same : image next = image item) : (items.set position next).map image = items.map image := by
  obtain ⟨bounded, rfl⟩ := List.getElem?_eq_some_iff.mp found
  rw [List.map_set, same, ← List.map_set, List.set_getElem_self]

theorem eq_or_mem_set {other : Item} (member : other ∈ items)
    (found : items[position]? = some item) (next : Item) :
    other = item ∨ other ∈ items.set position next := by
  obtain ⟨place, foundOther⟩ := List.mem_iff_getElem?.mp member
  by_cases same : position = place
  · subst same
    exact .inl (Option.some.inj (foundOther.symm.trans found))
  · refine .inr (List.mem_of_getElem? (i := place) ?_)
    rw [List.getElem?_set_ne same, foundOther]

end

namespace Grammar

variable {compile : Compiler} {ignoreCase : Bool} {shared : Rule → Bool} {edition : Nat}

/-- If a rule declares a token, then its program is that of its pattern. -/
def Compiles (compile : Compiler) (ignoreCase : Bool) (rule : Rule) : Prop :=
  ∀ token, rule.token? = some token →
    compile token.pattern ignoreCase = some token.program

/-- A rule declares a token with a pattern that makes no program. -/
def Resists (compile : Compiler) (ignoreCase : Bool) (rule : Rule) : Prop :=
  ∃ token, rule.token? = some token ∧ compile token.pattern ignoreCase = none

/-- All tokens of a grammar were compiled under its settings, or else there is one that
cannot be. -/
def Compiled (compile : Compiler) (grammar : Grammar) : Prop :=
  (∀ rule ∈ grammar.rules, Compiles compile grammar.caseInsensitive rule) ∨
    ∃ rule ∈ grammar.rules, Resists compile grammar.caseInsensitive rule

/-! ### Rules compiled anew -/

/-- A rule is compiled anew unless it declares a token whose pattern makes no program. -/
theorem recompileRule_cases (compile : Compiler) (ignoreCase : Bool) (rule : Rule) :
    (∃ next, recompileRule compile ignoreCase rule = .ok next ∧
        Compiles compile ignoreCase next) ∨
      ∃ complaint, recompileRule compile ignoreCase rule = .error complaint ∧
        Resists compile ignoreCase rule := by
  rw [recompileRule]
  cases kind : rule.kind with
  | token token =>
    dsimp only
    rw [compileToken]
    cases found : compile token.pattern ignoreCase with
    | none => exact .inr ⟨_, rfl, token, by rw [Rule.token?, kind], found⟩
    | some program =>
      refine .inl ⟨_, rfl, fun other isToken => ?_⟩
      rw [← Option.some.inj isToken]
      exact found
  | _ =>
    refine .inl ⟨rule, rfl, fun other isToken => ?_⟩
    rw [Rule.token?, kind] at isToken
    cases isToken

theorem compiles_of_recompileRule {rule next : Rule}
    (recompiled : recompileRule compile ignoreCase rule = .ok next) :
    Compiles compile ignoreCase next := by
  rcases recompileRule_cases compile ignoreCase rule with
    ⟨other, ended, compiles⟩ | ⟨complaint, refused, -⟩
  · rw [recompiled] at ended
    rw [Except.ok.inj ended]
    exact compiles
  · rw [recompiled] at refused
    cases refused

theorem recompileRule_of_resists {rule : Rule} (resists : Resists compile ignoreCase rule) :
    ∃ complaint, recompileRule compile ignoreCase rule = .error complaint := by
  rcases recompileRule_cases compile ignoreCase rule with ⟨next, ended, -⟩ | ⟨complaint, ended, -⟩
  · obtain ⟨token, isToken, none_eq⟩ := resists
    rw [recompileRule] at ended
    rw [Rule.token?] at isToken
    cases kind : rule.kind with
    | token other =>
      rw [kind] at ended isToken
      dsimp only at ended isToken
      rw [Option.some.inj isToken, compileToken, none_eq] at ended
      cases ended
    | _ =>
      rw [kind] at isToken
      cases isToken
  · exact ⟨complaint, ended⟩

/-- What was compiled already is compiled to the same. -/
theorem recompileRule_of_compiles {rule : Rule} (compiles : Compiles compile ignoreCase rule) :
    recompileRule compile ignoreCase rule = .ok rule := by
  rw [recompileRule]
  cases kind : rule.kind with
  | token token =>
    have found := compiles token (by rw [Rule.token?, kind])
    dsimp only
    rw [compileToken, found]
    dsimp only
    rw [← kind]
  | _ => rfl

theorem compiles_renew {rule : Rule} :
    Compiles compile ignoreCase (rule.renew shared edition) ↔
      Compiles compile ignoreCase rule := by
  rw [Compiles, Compiles, Rule.token?, Rule.token?, Rule.renew_kind]

theorem resists_renew {rule : Rule} :
    Resists compile ignoreCase (rule.renew shared edition) ↔ Resists compile ignoreCase rule := by
  rw [Resists, Resists, Rule.token?, Rule.token?, Rule.renew_kind]

/-- A token with a pattern that makes no program has not been compiled. -/
theorem Resists.not_compiles {rule : Rule} (resists : Resists compile ignoreCase rule) :
    ¬ Compiles compile ignoreCase rule := by
  intro compiles
  obtain ⟨token, isToken, none_eq⟩ := resists
  rw [compiles token isToken] at none_eq
  cases none_eq

/-! ### Rules that are still to be visited -/

/-- Every rule has a property, or its position is among those still to be visited. -/
def Pending (property : Rule → Prop) (positions : List Nat) (rules : List Rule) : Prop :=
  ∀ position rule, rules[position]? = some rule → position ∈ positions ∨ property rule

section

variable {property : Rule → Prop} {position : Nat} {later : List Nat} {rules : List Rule}

/-- An order leaves no rule out. -/
theorem VisitOrder.pending (order : VisitOrder) (property : Rule → Prop) (rules : List Rule) :
    Pending property (order.positions rules.length) rules := by
  intro position rule found
  obtain ⟨bounded, -⟩ := List.getElem?_eq_some_iff.mp found
  exact .inl ((order.complete rules.length).mem_iff.mpr (List.mem_range.mpr bounded))

theorem VisitOrder.nodup_positions (order : VisitOrder) (count : Nat) :
    (order.positions count).Nodup :=
  (order.complete count).nodup_iff.mpr List.nodup_range

theorem Pending.all (pending : Pending property [] rules) : ∀ rule ∈ rules, property rule := by
  intro rule member
  obtain ⟨position, found⟩ := List.mem_iff_getElem?.mp member
  exact (pending position rule found).resolve_left List.not_mem_nil

/-- There is nothing to visit behind the last rule. -/
theorem Pending.of_none (pending : Pending property (position :: later) rules)
    (found : rules[position]? = none) : Pending property later rules := by
  intro other rule foundOther
  refine (pending other rule foundOther).imp (fun member => ?_) id
  refine (List.mem_cons.mp member).resolve_left fun same => ?_
  rw [same, found] at foundOther
  cases foundOther

/-- A rule that has been visited may be crossed off. -/
theorem Pending.set (pending : Pending property (position :: later) rules) {next : Rule}
    (visited : property next) : Pending property later (rules.set position next) := by
  intro other rule found
  by_cases same : position = other
  · subst same
    rw [List.getElem?_set_self'] at found
    obtain ⟨_, -, rfl⟩ := Option.map_eq_some_iff.mp found
    exact .inr visited
  · rw [List.getElem?_set_ne same] at found
    refine (pending other rule found).imp (fun member => ?_) id
    exact (List.mem_cons.mp member).resolve_left fun eq => same eq.symm

end

/-- If every rule is visited, then afterwards all tokens have been compiled, or there is a token
that cannot be, which is one that could not be before. -/
theorem recompileRules_cases (shared : Rule → Bool) (edition : Nat) {positions : List Nat}
    {rules : List Rule} (pending : Pending (Compiles compile ignoreCase) positions rules) :
    ((recompileRules compile ignoreCase shared edition positions rules).2 = none ∧
        ∀ rule ∈ (recompileRules compile ignoreCase shared edition positions rules).1,
          Compiles compile ignoreCase rule) ∨
      ((recompileRules compile ignoreCase shared edition positions rules).2 ≠ none ∧
        (∃ rule ∈ rules, Resists compile ignoreCase rule) ∧
        ∃ rule ∈ (recompileRules compile ignoreCase shared edition positions rules).1,
          Resists compile ignoreCase rule) := by
  induction positions generalizing rules with
  | nil => exact .inl ⟨rfl, pending.all⟩
  | cons position later inductionHypothesis =>
    cases found : rules[position]? with
    | none =>
      rw [recompileRules_of_none found]
      exact inductionHypothesis (pending.of_none found)
    | some rule =>
      have member : rule ∈ rules := List.mem_of_getElem? found
      rcases recompileRule_cases compile ignoreCase (rule.renew shared edition) with
        ⟨next, ended, compiles⟩ | ⟨complaint, ended, resists⟩
      · rw [recompileRules_of_ok found ended]
        refine (inductionHypothesis (pending.set compiles)).imp_right ?_
        rintro ⟨complains, ⟨other, memberOther, resists⟩, remains⟩
        rcases List.mem_or_eq_of_mem_set memberOther with old | rfl
        · exact ⟨complains, ⟨other, old, resists⟩, remains⟩
        · exact absurd compiles resists.not_compiles
      · rw [recompileRules_of_error found ended]
        obtain ⟨bounded, -⟩ := List.getElem?_eq_some_iff.mp found
        exact .inr ⟨Option.some_ne_none complaint, ⟨rule, member, resists_renew.mp resists⟩,
          _, List.mem_set bounded _, resists⟩

/-- Rules that were compiled already are renewed, and nothing else happens to them. -/
theorem recompileRules_of_compiles {positions : List Nat} {rules : List Rule}
    (pending : Pending (fun rule => rule.renew shared edition = rule) positions rules)
    (compiles : ∀ rule ∈ rules, Compiles compile ignoreCase rule) :
    recompileRules compile ignoreCase shared edition positions rules =
      (rules.map (Rule.renew shared edition), none) := by
  induction positions generalizing rules with
  | nil => rw [recompileRules, List.map_congr_left pending.all, List.map_id']
  | cons position later inductionHypothesis =>
    cases found : rules[position]? with
    | none =>
      rw [recompileRules_of_none found]
      exact inductionHypothesis (pending.of_none found) compiles
    | some rule =>
      have here : Compiles compile ignoreCase (rule.renew shared edition) :=
        compiles_renew.mpr (compiles rule (List.mem_of_getElem? found))
      have renewed := rule.renew_renew shared edition
      rw [recompileRules_of_ok found (recompileRule_of_compiles here),
        inductionHypothesis (pending.set renewed), map_set_of_eq found renewed]
      intro other member
      rcases List.mem_or_eq_of_mem_set member with old | rfl
      · exact compiles other old
      · exact here

/-- A token that cannot be compiled is still there afterwards. -/
theorem exists_resists_recompileRules (shared : Rule → Bool) (edition : Nat)
    (positions : List Nat) {rules : List Rule}
    (resists : ∃ rule ∈ rules, Resists compile ignoreCase rule) :
    ∃ rule ∈ (recompileRules compile ignoreCase shared edition positions rules).1,
      Resists compile ignoreCase rule := by
  refine recompileRules_keeps (∃ rule ∈ ·, Resists compile ignoreCase rule) ?_ ?_ positions resists
  · rintro rules position rule ⟨other, member, resists⟩ found
    rcases eq_or_mem_set member found (rule.renew shared edition) with rfl | stays
    · obtain ⟨bounded, -⟩ := List.getElem?_eq_some_iff.mp found
      exact ⟨_, List.mem_set bounded _, resists_renew.mpr resists⟩
    · exact ⟨other, stays, resists⟩
  · rintro rules position rule next ⟨other, member, resists⟩ found recompiled
    rcases eq_or_mem_set member found next with rfl | stays
    · obtain ⟨complaint, refused⟩ := recompileRule_of_resists (resists_renew.mpr resists)
      rw [refused] at recompiled
      cases recompiled
    · exact ⟨other, stays, resists⟩

/-- A token that cannot be compiled gives reason to complain. -/
theorem complains_of_resists (shared : Rule → Bool) (edition : Nat) {positions : List Nat}
    {rules : List Rule} (pending : Pending (Compiles compile ignoreCase) positions rules)
    (resists : ∃ rule ∈ rules, Resists compile ignoreCase rule) :
    (recompileRules compile ignoreCase shared edition positions rules).2 ≠ none := by
  rcases recompileRules_cases shared edition pending with ⟨-, compiled⟩ | ⟨complains, -⟩
  · obtain ⟨rule, member, resists⟩ :=
      exists_resists_recompileRules shared edition positions resists
    exact absurd (compiled rule member) resists.not_compiles
  · exact complains

/-! ### Grammars -/

theorem invariant_compiled : Invariant compile (Compiled compile) where
  settings compiled _ rules_eq flag_eq := by
    rw [Compiled, rules_eq, flag_eq]
    exact compiled
  declared := by
    intro grammar rule compiled _ compiles
    refine compiled.imp (fun all other member => ?_) fun ⟨other, member, resists⟩ => ?_
    · rcases List.mem_append.mp member with old | new
      · exact all other old
      · rw [List.mem_singleton.mp new]
        exact compiles
    · exact ⟨other, List.mem_append_left _ member, resists⟩
  recompiled _ shared edition order _ := by
    rcases recompileRules_cases shared edition (order.pending _ _) with
      ⟨-, compiled⟩ | ⟨-, -, resists⟩
    · exact .inl compiled
    · exact .inr resists

/-- However a grammar came about, its tokens were compiled under its settings, or one of them
cannot be. -/
theorem Built.compiled {grammar : Grammar} (built : grammar.Built compile) :
    grammar.Compiled compile :=
  invariant_compiled.of_built (fun _ _ => .inl (List.forall_mem_nil _)) built

theorem run_setCaseInsensitive (grammar : Grammar) (order : VisitOrder) (value : Bool) :
    (setCaseInsensitive compile shared edition order value).run grammar =
      let recompiled := recompileRules compile value shared edition
        (order.positions grammar.rules.length) grammar.rules
      let next := { grammar with caseInsensitive := value, rules := recompiled.1 }
      match recompiled.2 with
      | some complaint => .error complaint next
      | none => .ok () next := by
  dsimp only
  show EStateM.run (match (recompileRules compile value shared edition
      (order.positions grammar.rules.length) grammar.rules).2 with
    | some complaint => throw complaint
    | none => pure () : Construction Unit) _ = _
  cases (recompileRules compile value shared edition (order.positions grammar.rules.length)
    grammar.rules).2 <;> rfl

/-- The rules of a grammar that others share become declarations of its own. -/
def renew (shared : Rule → Bool) (edition : Nat) (grammar : Grammar) : Grammar :=
  { grammar with rules := grammar.rules.map (Rule.renew shared edition) }

theorem rule?_renew (shared : Rule → Bool) (edition : Nat) (grammar : Grammar) (name : String) :
    (grammar.renew shared edition).rule? name =
      (grammar.rule? name).map (Rule.renew shared edition) := by
  have named : (fun rule : Rule => rule.name == name) ∘ Rule.renew shared edition =
      fun rule => rule.name == name := by
    funext rule
    rw [Function.comp, Rule.renew_name]
  rw [rule?, renew, List.find?_map, named, rule?]

/-- Telling a grammar to treat case as it does is not refused if all of its tokens were compiled,
and it renews the rules, in whatever order they are visited. -/
theorem setCaseInsensitive_eq_renew {grammar : Grammar} (order : VisitOrder)
    (compiles : ∀ rule ∈ grammar.rules, Compiles compile grammar.caseInsensitive rule) :
    (setCaseInsensitive compile shared edition order grammar.caseInsensitive).run grammar =
      .ok () (grammar.renew shared edition) := by
  rw [run_setCaseInsensitive, recompileRules_of_compiles (order.pending _ _) compiles]
  rfl

/-- If telling a grammar to treat case as it does is not refused, then it renews the rules. -/
theorem eq_renew_of_setCaseInsensitive {grammar next : Grammar} (built : grammar.Built compile)
    {order : VisitOrder}
    (told : (setCaseInsensitive compile shared edition order grammar.caseInsensitive).run grammar =
      .ok () next) : next = grammar.renew shared edition := by
  rcases built.compiled with compiles | resists
  · rw [setCaseInsensitive_eq_renew order compiles] at told
    cases told
    rfl
  · rw [run_setCaseInsensitive] at told
    obtain ⟨complaint, ended⟩ := Option.ne_none_iff_exists'.mp
      (complains_of_resists shared edition (order.pending _ _) resists)
    dsimp only at told
    rw [ended] at told
    cases told

end Grammar

end Rulebook
