/-
This file says how the matches of lists read. The options of a list make a regular expression for
its parts, and the semantic children of a match of the list are matches of the rules that are asked
for as the parts in a word of the expression. So no separator stands last unless the list allows
for it, and there is an item unless the list may have none.
-/

import Mathlib.Computability.RegularExpressions
import Rulebook.Proofs.Parse.Matches

namespace Rulebook

open Rulebook.Part (whenAsked separated)

namespace ListRule

/-- The expression for a part that is there if there is a rule for it. -/
def expressionOf (asked : Option String) (part : Part) : RegularExpression Part :=
  if asked.isSome then .char part else 1

/-- The expression for what a list takes between its delimiters: an item and more items behind
separators, and perhaps one more separator; or nothing at all. -/
def innerExpression (rule : ListRule) : RegularExpression Part :=
  .char (.item 0) * (expressionOf rule.separator .separator * .char (.item 0)).star *
      (1 + if rule.separator.isSome && rule.allowTrailing then .char .separator else 0) +
    if rule.nullable then 1 else 0

/-- The expression for the parts of a list. -/
def expression (rule : ListRule) : RegularExpression Part :=
  expressionOf rule.opening .opening * rule.innerExpression * expressionOf rule.closing .closing

/-- Some parts are in the order in which a list takes them. -/
structure Spells (rule : ListRule) (parts : List Part) : Prop where
  word : parts ∈ rule.expression.matches'
  /-- If no separator may stand behind the last item, then none does, before the closing delimiter
  or at the end. -/
  untrailed : rule.allowTrailing = false → ∀ front, parts ≠ front ++ [.separator] ∧
    parts ≠ front ++ [.separator, .closing]
  /-- If the list may not be empty, then it has an item. -/
  filled : rule.nullable = false → .item 0 ∈ parts

variable {rule : ListRule}

theorem whenAsked_mem (asked : Option String) (part : Part) :
    whenAsked asked part ∈ (expressionOf asked part).matches' := by
  rw [whenAsked, expressionOf]
  cases asked with
  | none => exact (Language.mem_one _).mpr rfl
  | some asked => exact rfl

/-- Items with separators between them are an item, and more items behind separators. -/
theorem separated_eq (separator : Option String) (count : Nat) :
    separated separator (List.replicate (count + 1) (.item 0)) =
      .item 0 :: (List.replicate count (whenAsked separator .separator ++ [.item 0])).flatten := by
  induction count with
  | zero => cases separator <;> rfl
  | succ count inductionHypothesis =>
    rw [Part.separated_replicate, inductionHypothesis, List.replicate_succ',
      List.flatten_append, List.flatten_singleton, List.cons_append, List.cons_append,
      List.append_assoc]

theorem separated_mem (separator : Option String) (count : Nat) :
    separated separator (List.replicate (count + 1) (.item 0)) ∈
      (.char (.item 0) *
        (expressionOf separator .separator * .char (.item 0)).star :
          RegularExpression Part).matches' := by
  rw [separated_eq, RegularExpression.matches'_mul]
  refine Language.mem_mul.mpr ⟨[.item 0], rfl, _, ?_, rfl⟩
  refine Language.join_mem_kstar fun word member => ?_
  rw [List.eq_of_mem_replicate member]
  exact Language.mem_mul.mpr ⟨_, whenAsked_mem separator .separator, _, rfl, rfl⟩

/-- What a list takes between its delimiters is in the expression for it. -/
theorem inner_mem {count : Nat} {trailing : List Part}
    (empty : count = 0 → rule.nullable = true ∧ trailing = [])
    (last : trailing = [] ∨
      trailing = [.separator] ∧ rule.separator.isSome = true ∧ rule.allowTrailing = true) :
    separated rule.separator (List.replicate count (.item 0)) ++ trailing ∈
      rule.innerExpression.matches' := by
  rw [innerExpression, RegularExpression.matches'_add, Language.mem_add]
  cases count with
  | zero =>
    obtain ⟨nullable, rfl⟩ := empty rfl
    rw [nullable]
    cases rule.separator <;> exact .inr rfl
  | succ count =>
    refine .inl (Language.mem_mul.mpr ⟨_, separated_mem rule.separator count, _, ?_, rfl⟩)
    rw [RegularExpression.matches'_add, Language.mem_add]
    rcases last with rfl | ⟨rfl, separated, allowed⟩
    · exact .inl rfl
    · rw [separated, allowed]
      exact .inr rfl

/-- What comes last before a closing delimiter, if nothing trails, is an item or the opening
delimiter. -/
theorem last_of_untrailed {opening separator : Option String} {count : Nat} {before : List Part}
    {part : Part}
    (split : whenAsked opening .opening ++ separated separator (List.replicate count (.item 0)) =
      before ++ [part]) : part = .opening ∨ part = .item 0 := by
  cases count with
  | zero =>
    have alone : whenAsked opening .opening = before ++ [part] := by
      cases separator <;> simpa [separated] using split
    rw [whenAsked] at alone
    cases opening with
    | none => exact absurd alone.symm (List.append_ne_nil_of_right_ne_nil _ (List.cons_ne_nil _ _))
    | some opening =>
      have alone : [] ++ [Part.opening] = before ++ [part] := alone
      exact .inl (List.singleton_inj.mp (List.append_inj' alone rfl).2).symm
  | succ count =>
    rw [List.replicate_succ', Part.separated_concat, ← List.append_assoc] at split
    exact .inr (List.singleton_inj.mp (List.append_inj' split rfl).2).symm

/-- If nothing trails, then no separator stands last, before a closing delimiter or at the end. -/
theorem untrailed_of_takes (opening separator closing : Option String) (count : Nat)
    (front : List Part) :
    let inner := whenAsked opening .opening ++ separated separator (List.replicate count (.item 0))
    inner ++ whenAsked closing .closing ≠ front ++ [.separator] ∧
      inner ++ whenAsked closing .closing ≠ front ++ [.separator, .closing] := by
  intro inner
  have last : ∀ before part, inner = before ++ [part] → part = .opening ∨ part = .item 0 :=
    fun _ _ split => last_of_untrailed split
  rw [List.append_cons front .separator [.closing]]
  cases closing with
  | none =>
    have closed_eq : inner ++ whenAsked none .closing = inner := List.append_nil inner
    rw [closed_eq]
    constructor
    · intro split
      rcases last _ _ split with absurd | absurd <;> cases absurd
    · intro split
      rcases last _ _ split with absurd | absurd <;> cases absurd
  | some closing =>
    have closed_eq : inner ++ whenAsked (some closing) .closing = inner ++ [.closing] := rfl
    rw [closed_eq]
    constructor
    · intro split
      cases List.singleton_inj.mp (List.append_inj' split rfl).2
    · intro split
      rcases last _ _ (List.append_inj' split rfl).1 with absurd | absurd <;> cases absurd

/-- What a list takes is spelled as its options say. -/
theorem spells_of_takes {parts : List Part} (takes : (RuleKind.list rule).Takes parts) :
    rule.Spells parts := by
  obtain ⟨count, trailing, empty, last, rfl⟩ := takes
  refine ⟨?_, fun forbidden front => ?_, fun filled => ?_⟩
  · exact Language.mem_mul.mpr ⟨_, Language.mem_mul.mpr ⟨_, whenAsked_mem _ _, _,
      inner_mem empty last, rfl⟩, _, whenAsked_mem _ _, rfl⟩
  · obtain rfl : trailing = [] := last.resolve_right fun allowed => by
      rw [forbidden] at allowed
      cases allowed.2.2
    rw [List.append_nil]
    exact untrailed_of_takes rule.opening rule.separator rule.closing count front
  · cases count with
    | zero =>
      rw [(empty rfl).1] at filled
      cases filled
    | succ count =>
      rw [separated_eq]
      exact List.mem_append_left _ (List.mem_append_right _ List.mem_cons_self)

end ListRule

namespace Parse

/-- All matches of lists read as words of the expressions of the lists. -/
theorem lists_read_as_spelled (input : String) (registry : Registry) (options : ParseOptions)
    (tracing : Bool) (first : Grammar) :
    OfMatches RuleKind.list (Environment.ofText input registry options tracing) first
      fun grammar list builder id => ∃ parts, list.Spells parts ∧
        ReadsAs grammar (.list list) builder.tree parts (builder.semantic id) := by
  refine ofMatches_of_matchFrom (Environment.faithful_ofText input registry options tracing)
    (fun _ _ => ⟨rfl, rfl⟩) fun grammar rule list tree id _ isMatch kind => ?_
  obtain ⟨parts, takes, reads⟩ := isMatch.reads fun part => by rw [kind]; rfl
  rw [kind] at takes reads
  exact ⟨parts, ListRule.spells_of_takes takes, reads⟩

/-- Items between delimiters. There are separators, also after the last item. -/
def rowsOfItems : Grammar :=
  .ofCalls Workspace.compile "g" [.token "x" "x" false, .token "comma" "," false,
    .token "open" "<" false, .token "close" ">" false,
    .list "row"
      { item := "x", separator := some "comma", opening := some "open", closing := some "close",
        allowTrailing := true },
    .startSymbol "row"]

/-- Two items with two separators read as they are spelled. -/
theorem row_reads_as_spelled : ∃ result grammar list parts,
    (run (Environment.ofText "<x,x,>" {} {} false) 6 rowsOfItems none).answer = .parsed result ∧
      list.Spells parts ∧ parts.length = 6 ∧ ReadsAs grammar (.list list) result.tree parts
        (result.tree.node 1).semantic.toList := by
  obtain ⟨result, parsed, isList, size_eq⟩ : ∃ result,
      (run (Environment.ofText "<x,x,>" {} {} false) 6 rowsOfItems none).answer =
        .parsed result ∧ (result.tree.node 1).rule?.any (·.kind.label == "list") = true ∧
        (result.tree.node 1).semantic.size = 6 := by
    decide +kernel
  obtain ⟨rule, isRule, labelled⟩ := Match.Node.exists_rule isList
  cases kind : rule.kind with
  | list list =>
    obtain ⟨grammar, -, -, parts, spells, reads⟩ :=
      (lists_read_as_spelled "<x,x,>" {} {} false rowsOfItems).2 6 none result parsed 1 rule list
        isRule kind
    refine ⟨result, grammar, list, parts, parsed, spells, ?_, reads⟩
    rw [reads.length_eq]
    exact size_eq
  | _ =>
    rw [kind] at labelled
    cases labelled

end Parse

end Rulebook
