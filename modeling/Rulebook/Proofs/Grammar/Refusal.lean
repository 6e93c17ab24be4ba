/-
This file says what refused calls leave behind. A refused declaration leaves nothing. The call
that switches the treatment of case, however, has switched it before it goes through the tokens.
It does so in any order, and it stops at a token that makes no program under the new treatment.
After this refusal some tokens may ignore case while others respect it. Without it, all tokens of
a grammar are compiled under its settings at any time.
-/

import Rulebook.Proofs.Grammar.Consistency

namespace Rulebook.Grammar

variable {compile : Compiler} {ignoreCase : Bool} {shared : Rule → Bool} {edition : Nat}
  {grammar next : Grammar}

/-! ### Rules on the way to another treatment of case -/

/-- A rule is the same declaration as before. If it is a token, then it is as it was, or it was
compiled for a treatment of case. -/
def Recompiled (compile : Compiler) (ignoreCase : Bool) (rule next : Rule) : Prop :=
  next.declaration = rule.declaration ∧
    (next.kind = rule.kind ∨ Compiles compile ignoreCase next)

theorem Recompiled.renew {rule next : Rule} (recompiled : Recompiled compile ignoreCase rule next)
    (shared : Rule → Bool) (edition : Nat) :
    Recompiled compile ignoreCase rule (next.renew shared edition) := by
  rw [Recompiled, Rule.declaration_renew, Rule.renew_kind, compiles_renew]
  exact recompiled

/-- If one item is replaced, then the others are related to what they were. -/
theorem forall₂_set {Item : Type} {related : Item → Item → Prop} {items others : List Item}
    (all : List.Forall₂ related items others) {position : Nat} {other next : Item}
    (found : others[position]? = some other)
    (replaced : ∀ {item}, related item other → related item next) :
    List.Forall₂ related items (others.set position next) := by
  induction all generalizing position with
  | nil => cases found
  | cons first rest inductionHypothesis =>
    cases position with
    | zero =>
      rw [← Option.some.inj found] at replaced
      exact .cons (replaced first) rest
    | succ position => exact .cons first (inductionHypothesis found)

/-- Wherever the recompilation stops, it has left no rule out and changed none into another. -/
theorem recompiled_recompileRules (ignoreCase : Bool) (shared : Rule → Bool) (edition : Nat)
    (positions : List Nat) (rules : List Rule) :
    List.Forall₂ (Recompiled compile ignoreCase) rules
      (recompileRules compile ignoreCase shared edition positions rules).1 := by
  refine recompileRules_keeps (List.Forall₂ (Recompiled compile ignoreCase) rules) ?_ ?_
    positions (List.forall₂_same.mpr fun _ _ => ⟨rfl, .inl rfl⟩)
  · intro visited position rule all found
    exact forall₂_set all found fun recompiled => recompiled.renew shared edition
  · intro visited position rule next all found ended
    refine forall₂_set all found fun recompiled => ⟨?_, .inr (compiles_of_recompileRule ended)⟩
    rw [declaration_of_recompileRule ended, Rule.declaration_renew, recompiled.1]

/-! ### The way through the rules -/

/-- A switch of the treatment of case came to a token that cannot be compiled. What was visited
`before` has been compiled, the token itself was renewed at most, and what was to be visited
`after` was not touched. -/
structure Interrupted (compile : Compiler) (ignoreCase : Bool) (shared : Rule → Bool)
    (edition : Nat) (rules next : List Rule) (before : List Nat) (position : Nat)
    (after : List Nat) : Prop where
  compiled : ∀ visited ∈ before, ∀ rule, next[visited]? = some rule →
    Compiles compile ignoreCase rule
  refused : ∃ rule, rules[position]? = some rule ∧ Resists compile ignoreCase rule ∧
    next[position]? = some (rule.renew shared edition)
  untouched : ∀ unvisited ∈ after, next[unvisited]? = rules[unvisited]?

theorem getElem?_set_of_unvisited {rules : List Rule} {first other : Nat} {later : List Nat}
    (notLater : first ∉ later) (member : other ∈ later) (next : Rule) :
    (rules.set first next)[other]? = rules[other]? := by
  refine List.getElem?_set_ne ?_
  rintro rfl
  exact notLater member

/-- Rules that are not visited are not touched. -/
theorem getElem?_recompileRules {positions : List Nat} {other : Nat} (unvisited : other ∉ positions)
    (rules : List Rule) :
    (recompileRules compile ignoreCase shared edition positions rules).1[other]? =
      rules[other]? := by
  induction positions generalizing rules with
  | nil => rfl
  | cons position later inductionHypothesis =>
    obtain ⟨different, notLater⟩ := List.ne_and_not_mem_of_not_mem_cons unvisited
    cases found : rules[position]? with
    | none => rw [recompileRules_of_none found, inductionHypothesis notLater]
    | some rule =>
      cases ended : recompileRule compile ignoreCase (rule.renew shared edition) with
      | error complaint =>
        rw [recompileRules_of_error found ended, List.getElem?_set_ne different.symm]
      | ok next =>
        rw [recompileRules_of_ok found ended, inductionHypothesis notLater,
          List.getElem?_set_ne different.symm]

/-- A recompilation that ends with a complaint was interrupted on its way. The induction is on the
positions to be visited; none of them comes twice, so what has been visited stays as it is. -/
theorem interrupted_recompileRules {positions : List Nat} (distinct : positions.Nodup)
    {rules : List Rule}
    (complains : (recompileRules compile ignoreCase shared edition positions rules).2 ≠ none) :
    ∃ before position after, positions = before ++ position :: after ∧
      Interrupted compile ignoreCase shared edition rules
        (recompileRules compile ignoreCase shared edition positions rules).1 before position
        after := by
  induction positions generalizing rules with
  | nil => exact absurd rfl complains
  | cons first later inductionHypothesis =>
    obtain ⟨notLater, distinctLater⟩ := List.nodup_cons.mp distinct
    cases found : rules[first]? with
    | none =>
      rw [recompileRules_of_none found] at complains ⊢
      obtain ⟨before, position, after, rfl, interrupted⟩ :=
        inductionHypothesis distinctLater complains
      refine ⟨first :: before, position, after, rfl, ?_, interrupted.refused,
        interrupted.untouched⟩
      refine List.forall_mem_cons.mpr ⟨fun rule here => ?_, interrupted.compiled⟩
      rw [getElem?_recompileRules notLater, found] at here
      cases here
    | some rule =>
      rcases recompileRule_cases compile ignoreCase (rule.renew shared edition) with
        ⟨next, ended, compiles⟩ | ⟨complaint, ended, resists⟩
      · rw [recompileRules_of_ok found ended] at complains ⊢
        obtain ⟨before, position, after, rfl, interrupted⟩ :=
          inductionHypothesis distinctLater complains
        refine ⟨first :: before, position, after, rfl,
          List.forall_mem_cons.mpr ⟨fun rule here => ?_, interrupted.compiled⟩, ?_,
          fun other member => ?_⟩
        · obtain ⟨bounded, -⟩ := List.getElem?_eq_some_iff.mp found
          rw [getElem?_recompileRules notLater, List.getElem?_set_self bounded] at here
          cases here
          exact compiles
        · have here : position ∈ before ++ position :: after :=
            List.mem_append_right _ List.mem_cons_self
          rw [← getElem?_set_of_unvisited notLater here next]
          exact interrupted.refused
        · have ahead : other ∈ before ++ position :: after :=
            List.mem_append_right _ (List.mem_cons_of_mem _ member)
          rw [interrupted.untouched other member, getElem?_set_of_unvisited notLater ahead]
      · rw [recompileRules_of_error found ended]
        obtain ⟨bounded, -⟩ := List.getElem?_eq_some_iff.mp found
        exact ⟨[], first, later, rfl, List.forall_mem_nil _,
          ⟨rule, found, resists_renew.mp resists, List.getElem?_set_self bounded⟩,
          fun unvisited member => getElem?_set_of_unvisited notLater member _⟩

/-! ### Grammars -/

/-- A grammar that came about by calls, and no switch of the treatment of case was refused. -/
inductive Steady (compile : Compiler) : Grammar → Prop where
  | new (name : String) (edition : Nat) : Steady compile (.new name edition)
  | called {grammar : Grammar} (steady : Steady compile grammar) (call : Call)
    (granted : call.isRecasing = true →
      ∃ next, (call.perform compile).run grammar = .ok () next) :
    Steady compile ((call.perform compile).after grammar)
  | copied {grammar : Grammar} (steady : Steady compile grammar) (edition : Nat) :
    Steady compile { grammar with edition }

theorem compiles_of_extends
    (compiles : ∀ rule ∈ grammar.rules, Compiles compile grammar.caseInsensitive rule)
    (extended : grammar.Extends compile next) :
    ∀ rule ∈ next.rules, Compiles compile next.caseInsensitive rule := by
  cases extended with
  | settings name_eq rules_eq whitespace_eq patterns_eq case_eq =>
    rw [rules_eq, case_eq]
    exact compiles
  | rule fresh plain =>
    refine List.forall_mem_append.mpr ⟨compiles, List.forall_mem_singleton.mpr ?_⟩
    intro token isToken
    rw [Rule.token?_of_plain plain] at isToken
    cases isToken
  | token fresh known literal =>
    refine List.forall_mem_append.mpr ⟨compiles, List.forall_mem_singleton.mpr ?_⟩
    intro token isToken
    rw [← Option.some.inj isToken]
    exact known

/-- Unless a switch of the treatment of case was refused, all tokens are compiled under the
settings of the grammar. -/
theorem Steady.compiles (steady : grammar.Steady compile) :
    ∀ rule ∈ grammar.rules, Compiles compile grammar.caseInsensitive rule := by
  induction steady with
  | new name edition => exact List.forall_mem_nil _
  | copied steady edition inductionHypothesis => exact inductionHypothesis
  | @called grammar steady call granted inductionHypothesis =>
    rw [Construction.after]
    cases recasing : call.isRecasing with
    | false =>
      rcases decides_perform compile recasing grammar with
        ⟨complaint, refused⟩ | ⟨value, next, done, extended⟩
      · rw [refused]
        exact inductionHypothesis
      · rw [done]
        exact compiles_of_extends inductionHypothesis extended
    | true =>
      cases call with
      | caseInsensitive shared edition order value =>
        obtain ⟨next, done⟩ := granted rfl
        rw [run_recasing] at done ⊢
        rcases recompileRules_cases shared edition (order.pending _ grammar.rules) with
          ⟨silent, all⟩ | ⟨complains, -⟩
        · rw [silent]
          exact all
        · obtain ⟨complaint, complains⟩ := Option.ne_none_iff_exists'.mp complains
          rw [complains] at done
          cases done
      | _ => cases recasing

/-- A refused call changes nothing, unless it is the one that switches the treatment of case. That
one is refused because of a token that makes no program; the treatment of case is switched then,
the tokens that were visited before this one, in whatever order, are compiled anew, and everything
else is as it was but for the editions of the rules that were visited. So all tokens are compiled
under the settings of their grammar, or there is one that cannot be; and the latter comes from
refused switches only. -/
theorem refusals_leave_at_most_a_switch (built : grammar.Built compile) :
    (∀ call complaint next, (Call.perform compile call).run grammar = .error complaint next →
        next = grammar ∨
          ∃ shared edition order value, call = .caseInsensitive shared edition order value ∧
            next = { grammar with caseInsensitive := value, rules := next.rules } ∧
            List.Forall₂ (Recompiled compile value) grammar.rules next.rules ∧
            (∃ rule ∈ grammar.rules, Resists compile value rule) ∧
            ∃ before position after,
              order.positions grammar.rules.length = before ++ position :: after ∧
              Interrupted compile value shared edition grammar.rules next.rules before position
                after) ∧
      ((∀ rule ∈ grammar.rules, Compiles compile grammar.caseInsensitive rule) ∨
        ∃ rule ∈ grammar.rules, Resists compile grammar.caseInsensitive rule) ∧
      (grammar.Steady compile →
        ∀ rule ∈ grammar.rules, Compiles compile grammar.caseInsensitive rule) := by
  refine ⟨fun call complaint next refused => ?_, built.compiled, Steady.compiles⟩
  cases recasing : call.isRecasing with
  | false =>
    rcases decides_perform compile recasing grammar with
      ⟨complaint, unchanged⟩ | ⟨value, next, done, -⟩
    · rw [refused] at unchanged
      cases unchanged
      exact .inl rfl
    · rw [refused] at done
      cases done
  | true =>
    cases call with
    | caseInsensitive shared edition order value =>
      rw [run_recasing] at refused
      rcases recompileRules_cases shared edition (order.pending _ grammar.rules) with
        ⟨silent, -⟩ | ⟨complains, resists, -⟩
      · rw [silent] at refused
        cases refused
      · have interrupted := interrupted_recompileRules (order.nodup_positions _) complains
        obtain ⟨complaint, complains⟩ := Option.ne_none_iff_exists'.mp complains
        rw [complains] at refused
        cases refused
        exact .inr ⟨shared, edition, order, value, rfl, rfl,
          recompiled_recompileRules value shared edition _ grammar.rules, resists, interrupted⟩
    | _ => cases recasing

/-- A compiler that respects case and cannot do otherwise. -/
def caseful : Compiler :=
  fun _ ignoreCase => if ignoreCase then none else some default

/-- A grammar of two tokens. -/
def letters : Grammar :=
  ofCalls caseful "g" [.token "a" "a" false, .token "b" "b" false]

/-- A name that is taken is refused, and nothing comes of it. -/
theorem second_a_leaves_nothing :
    letters.Built caseful ∧
      ((Call.token "a" "c" true).perform caseful).run letters =
        .error (.duplicateRule "g" "a") letters ∧
      ∀ complaint next, ((Call.token "a" "c" true).perform caseful).run letters =
        .error complaint next → next = letters := by
  have built : letters.Built caseful := built_ofCalls _ _ _
  refine ⟨built, rfl, fun complaint next refused => ?_⟩
  rcases (refusals_leave_at_most_a_switch built).1 _ complaint next refused with
    unchanged | ⟨_, _, _, _, different, -⟩
  · exact unchanged
  · cases different

/-- The switch of the treatment of case is refused, but the grammar has another one now, for which
its tokens were not compiled. -/
theorem refused_switch_remains :
    letters.Built caseful ∧
      ∃ complaint next,
        ((Call.caseInsensitive (fun _ => false) 1 .declared true).perform caseful).run letters =
          .error complaint next ∧
        letters.caseInsensitive = false ∧ next.caseInsensitive = true ∧
        ∃ rule ∈ next.rules, ¬ Compiles caseful next.caseInsensitive rule := by
  refine ⟨built_ofCalls _ _ _, .invalidTokenPattern "a" "a", _, rfl, rfl, rfl, _,
    List.mem_cons_self, fun compiles => ?_⟩
  cases compiles _ rfl

end Rulebook.Grammar
