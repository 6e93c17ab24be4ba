/-
This file says which rules a rule may ask for, and how long a chain of rules can be in which
every rule is asked for by the one above it. Two things keep such a chain short. Between two
operators no rule comes twice, if every cycle of references goes through an operator; and an
operator comes again only further on in the input.
-/

import Mathlib.Data.List.Chain
import Mathlib.Data.List.Nodup
import Mathlib.Data.List.Perm.Subperm
import Mathlib.Data.List.ProdSigma
import Mathlib.Data.List.TakeWhile
import Mathlib.Logic.Relation
import Rulebook.Grammar.Basic

namespace Rulebook

/-! ### References -/

/-- The names of the rules that a rule of this kind may ask for. An import asks for its rule
in another grammar. -/
def RuleKind.references : RuleKind → List String
  | .token _ => []
  | .sequence items => items.map (·.rule)
  | .choice rule => rule.alternatives
  | .list rule => rule.item :: rule.separator.toList ++ rule.opening.toList ++ rule.closing.toList
  | .set rule => rule.items ++ rule.separator.toList ++ rule.opening.toList ++ rule.closing.toList
  | .operator rule => [rule.operator, rule.operand]
  | .imported rule => [rule.rule]

namespace Rule

/-- The rule declares an operator. -/
def isOperator (rule : Rule) : Bool :=
  match rule.kind with
  | .operator _ => true
  | _ => false

/-- The rule stands for a rule of another grammar. -/
def isImport (rule : Rule) : Bool :=
  match rule.kind with
  | .imported _ => true
  | _ => false

theorem isOperator_of_isToken {rule : Rule} (isToken : rule.isToken = true) :
    rule.isOperator = false := by
  cases kind : rule.kind with
  | operator operator => simp [Rule.isToken, token?, kind] at isToken
  | _ => rw [isOperator, kind]

@[simp]
theorem same_self (rule : Rule) : rule.same rule = true := by
  simp [same]

end Rule

namespace Grammar

/-- In a grammar, one rule may ask for another. -/
def Leads (grammar : Grammar) (above below : Rule) : Prop :=
  ∃ name ∈ above.kind.references, grammar.rule? name = some below

/-- One rule may ask for another, and neither of them is an operator. -/
def LeadsPlainly (grammar : Grammar) (above below : Rule) : Prop :=
  grammar.Leads above below ∧ above.isOperator = false ∧ below.isOperator = false

/-- Every cycle of references goes through an operator. -/
def Unlooped (grammar : Grammar) : Prop :=
  ∀ rule, ¬ Relation.TransGen grammar.LeadsPlainly rule rule

/-- The rules that rules of a grammar ask for are there, imports apart. -/
def Closed (grammar : Grammar) : Prop :=
  ∀ name rule, grammar.rule? name = some rule → rule.isImport = false →
    ∀ reference ∈ rule.kind.references, grammar.contains reference = true

/-- The operators of a grammar. -/
def operators (grammar : Grammar) : List Rule :=
  grammar.rules.filter (·.isOperator)

/-- The other rules of a grammar. -/
def plainRules (grammar : Grammar) : List Rule :=
  grammar.rules.filter (!·.isOperator)

theorem mem_rules_of_rule? {grammar : Grammar} {name : String} {rule : Rule}
    (found : grammar.rule? name = some rule) : rule ∈ grammar.rules :=
  List.mem_of_find?_eq_some found

theorem rule?_name {grammar : Grammar} {name : String} {rule : Rule}
    (found : grammar.rule? name = some rule) : rule.name = name :=
  eq_of_beq (List.find?_some found :)

/-- If the plain rules of a grammar lead to plain rules of a lower rank only, then every cycle
goes through an operator. -/
theorem unlooped_of_rank {grammar : Grammar} (rank : Rule → Nat)
    (falls : ∀ above ∈ grammar.rules, ∀ below, grammar.LeadsPlainly above below →
      rank below < rank above) : grammar.Unlooped := by
  have lower : ∀ above ∈ grammar.rules, ∀ below,
      Relation.TransGen grammar.LeadsPlainly above below →
        below ∈ grammar.rules ∧ rank below < rank above := by
    intro above listed below leads
    induction leads with
    | single leads =>
      obtain ⟨name, -, found⟩ := leads.1
      exact ⟨mem_rules_of_rule? found, falls above listed _ leads⟩
    | tail _ leads inductionHypothesis =>
      obtain ⟨name, -, found⟩ := leads.1
      obtain ⟨between, less⟩ := inductionHypothesis
      exact ⟨mem_rules_of_rule? found, (falls _ between _ leads).trans less⟩
  intro rule leads
  obtain ⟨above, -, last⟩ := Relation.TransGen.tail'_iff.mp leads
  obtain ⟨name, -, found⟩ := last.1
  exact Nat.lt_irrefl _ (lower rule (mem_rules_of_rule? found) rule leads).2

/-! ### Chains of rules -/

/-- A chain of rules, the lowest first, each with the offset at which it started. -/
abbrev Chain := List (Rule × Nat)

/-- A chain of rules of a grammar in which each rule is asked for by the one above it, and an
operator starts further on than all occurrences of it above. -/
structure Climbs (grammar : Grammar) (size : Nat) (chain : Chain) : Prop where
  found : ∀ step ∈ chain, step.1 ∈ grammar.rules
  inside : ∀ step ∈ chain, step.2 ≤ size
  leads : chain.IsChain fun below above => grammar.Leads above.1 below.1
  further : chain.Pairwise fun below above => below.1.isOperator = true →
    above.1.same below.1 = true → above.2 < below.2

variable {grammar : Grammar} {size : Nat} {chain : Chain} {step : Rule × Nat}

theorem Climbs.tail (climbs : grammar.Climbs size (step :: chain)) :
    grammar.Climbs size chain where
  found other member := climbs.found other (List.mem_cons_of_mem _ member)
  inside other member := climbs.inside other (List.mem_cons_of_mem _ member)
  leads := climbs.leads.tail
  further := (List.pairwise_cons.mp climbs.further).2

/-- An operator comes at most once at each offset. -/
theorem Climbs.operators_le (climbs : grammar.Climbs size chain) :
    (chain.filter (·.1.isOperator)).length ≤ grammar.operators.length * (size + 1) := by
  have distinct : (chain.filter (·.1.isOperator)).Nodup := by
    refine (climbs.further.filter _).imp_of_mem fun member _ less equal => ?_
    subst equal
    exact Nat.lt_irrefl _ (less (List.mem_filter.mp member).2 (Rule.same_self _))
  have within : chain.filter (·.1.isOperator) ⊆
      grammar.operators ×ˢ List.range (size + 1) := by
    intro step member
    obtain ⟨inChain, isOperator⟩ := List.mem_filter.mp member
    refine List.mem_product.mpr ⟨List.mem_filter.mpr ⟨climbs.found step inChain, isOperator⟩, ?_⟩
    exact List.mem_range.mpr (Nat.lt_succ_of_le (climbs.inside step inChain))
  have le := (List.subperm_of_subset distinct within).length_le
  rwa [List.length_product, List.length_range] at le

/-- Below the lowest operator no rule comes twice. -/
theorem Climbs.plain_le (unlooped : grammar.Unlooped) (climbs : grammar.Climbs size chain) :
    (chain.takeWhile (!·.1.isOperator)).length ≤ grammar.plainRules.length := by
  have plain : ∀ step ∈ chain.takeWhile (!·.1.isOperator), step.1.isOperator = false :=
    fun step member => by simpa using List.mem_takeWhile_imp member
  have leads := climbs.leads
  rw [← List.takeWhile_append_dropWhile (p := (!·.1.isOperator)) (l := chain)] at leads
  have led : (chain.takeWhile (!·.1.isOperator)).IsChain fun below above =>
      Relation.TransGen grammar.LeadsPlainly above.1 below.1 :=
    leads.left_of_append.imp_of_mem_imp fun below above belowMember aboveMember leads =>
      .single ⟨leads, plain above aboveMember, plain below belowMember⟩
  have transitive : IsTrans (Rule × Nat) fun below above =>
      Relation.TransGen grammar.LeadsPlainly above.1 below.1 :=
    ⟨fun _ _ _ lower upper => upper.trans lower⟩
  have distinct : ((chain.takeWhile (!·.1.isOperator)).map Prod.fst).Nodup := by
    refine List.pairwise_map.mpr ((List.isChain_iff_pairwise.mp led).imp fun leads same => ?_)
    rw [same] at leads
    exact unlooped _ leads
  have within : (chain.takeWhile (!·.1.isOperator)).map Prod.fst ⊆ grammar.plainRules := by
    intro rule member
    obtain ⟨step, inRun, rfl⟩ := List.mem_map.mp member
    have inChain := (List.takeWhile_sublist _).subset inRun
    exact List.mem_filter.mpr ⟨climbs.found step inChain, by simp [plain step inRun]⟩
  have le := (List.subperm_of_subset distinct within).length_le
  rwa [List.length_map] at le

/-- A chain is made of its operators and of runs of other rules, one before each operator and
one at the end. The run at the beginning may still become longer. -/
theorem Climbs.length_add_le (unlooped : grammar.Unlooped)
    (climbs : grammar.Climbs size chain) :
    chain.length + 1 +
        (grammar.plainRules.length - (chain.takeWhile (!·.1.isOperator)).length) ≤
      ((chain.filter (·.1.isOperator)).length + 1) * (grammar.plainRules.length + 1) := by
  induction chain with
  | nil => simp; omega
  | cons step rest inductionHypothesis =>
    have before := inductionHypothesis climbs.tail
    have bound := climbs.plain_le unlooped
    cases isOperator : step.1.isOperator with
    | true =>
      simp only [List.length_cons, List.takeWhile_cons, List.filter_cons, isOperator, Bool.not_true,
        Bool.false_eq_true, if_false, if_true, List.length_nil] at bound ⊢
      rw [Nat.add_mul _ 1]
      omega
    | false =>
      simp only [List.length_cons, List.takeWhile_cons, List.filter_cons, isOperator,
        Bool.not_false, Bool.false_eq_true, if_false, if_true] at bound ⊢
      omega

/-- How long chains can be over a text of some size, and one more. -/
def stackBound (grammar : Grammar) (size : Nat) : Nat :=
  (grammar.operators.length * (size + 1) + 1) * (grammar.plainRules.length + 1)

/-- A chain is no longer than its operators and the runs of other rules between them allow. -/
theorem Climbs.length_lt (unlooped : grammar.Unlooped) (climbs : grammar.Climbs size chain) :
    chain.length < grammar.stackBound size := by
  have total := climbs.length_add_le unlooped
  have most := Nat.mul_le_mul_right (grammar.plainRules.length + 1)
    (Nat.succ_le_succ climbs.operators_le)
  exact Nat.lt_of_lt_of_le (by omega) (total.trans most)

end Grammar

end Rulebook
