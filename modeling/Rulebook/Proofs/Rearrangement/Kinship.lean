/-
This file says what it is for a grammar to declare the items of its sets in another order, and when
the order should make no difference. The items have to be tokens of which no two match at the same
offset. If tokens are remembered, then what is remembered of an item has to be what the item does,
whichever grammar it was remembered for.
-/

import Rulebook.Proofs.Editions.Kinship
import Rulebook.Proofs.Parse.Soundness

namespace Rulebook

/-! ### Rules -/

/-- Two kinds of rules are the same, or they are sets of the same items in two orders. -/
inductive RuleKind.Rearranged : RuleKind → RuleKind → Prop where
  | same (kind : RuleKind) : Rearranged kind kind
  | set {left right : SetRule} (perm : left.items.Perm right.items)
    (right_eq : right = { left with items := right.items }) : Rearranged (.set left) (.set right)

/-- Two rules are the same, up to the order of the items of a set. -/
structure Rule.Rearranged (left right : Rule) : Prop where
  kind : left.kind.Rearranged right.kind
  right_eq : right = { left with kind := right.kind }

namespace Rule.Rearranged

variable {left right other other' : Rule} {token : TokenRule}

theorem refl (rule : Rule) : rule.Rearranged rule :=
  ⟨.same rule.kind, rfl⟩

theorem name_eq (rearranged : left.Rearranged right) : right.name = left.name := by
  rw [rearranged.right_eq]

theorem grammar_eq (rearranged : left.Rearranged right) : right.grammar = left.grammar := by
  rw [rearranged.right_eq]

theorem token?_eq (rearranged : left.Rearranged right) : right.token? = left.token? := by
  rw [token?, token?]
  obtain ⟨kinds, -⟩ := rearranged
  generalize left.kind = kind, right.kind = kind' at kinds
  cases kinds <;> rfl

theorem isToken_eq (rearranged : left.Rearranged right) : right.isToken = left.isToken := by
  rw [isToken, isToken, rearranged.token?_eq]

/-- A rule whose kind is the same is the same. -/
theorem eq_of_kind (rearranged : left.Rearranged right) (same : right.kind = left.kind) :
    right = left := by
  rw [rearranged.right_eq, same]

/-- A token stays the same. -/
theorem eq_of_token (rearranged : left.Rearranged right) (isToken : left.token? = some token) :
    right = left := by
  refine rearranged.eq_of_kind ?_
  obtain ⟨kinds, -⟩ := rearranged
  rw [token?] at isToken
  generalize left.kind = kind, right.kind = kind' at kinds isToken
  cases kinds with
  | same => rfl
  | set => cases isToken

theorem isTransparent_eq (rearranged : left.Rearranged right) :
    Parse.isTransparent right.kind = Parse.isTransparent left.kind := by
  obtain ⟨kinds, -⟩ := rearranged
  generalize left.kind = kind, right.kind = kind' at kinds
  cases kinds <;> rfl

theorem same_eq (rearranged : left.Rearranged right) (rearranged' : other.Rearranged other') :
    other'.same right = other.same left := by
  rw [rearranged.right_eq, rearranged'.right_eq]
  rfl

end Rule.Rearranged

/-! ### Grammars -/

namespace Grammar

/-- What the token of a name takes at an offset, if the name is that of a token. -/
def matchAt? (grammar : Grammar) (source : Source) (name : String) (offset : Nat) : Option Nat :=
  ((grammar.rule? name).bind Rule.token?).bind (·.matchAt? source offset)

/-- Some items are tokens, and no two of them match at the same offset of a text. -/
structure Exclusive (grammar : Grammar) (source : Source) (items : List String) : Prop where
  isToken : ∀ item ∈ items, ∃ rule token, grammar.rule? item = some rule ∧
    rule.token? = some token
  apart : ∀ item ∈ items, ∀ other ∈ items, ∀ offset,
    (grammar.matchAt? source item offset).isSome = true →
      (grammar.matchAt? source other offset).isSome = true → item = other

end Grammar

namespace Parse

/-- A token that a parse may come to goes by the name of a grammar and the name of a rule. -/
def GoesBy (environment : Environment) (first : Grammar) (grammar name : String)
    (token : TokenRule) : Prop :=
  ∃ rule, Known environment first rule ∧ rule.grammar = grammar ∧ rule.name = name ∧
    rule.token? = some token

/-- All tokens that go by two names do the same. -/
def Unanimous (environment : Environment) (first : Grammar) (grammar name : String) : Prop :=
  ∀ token token', GoesBy environment first grammar name token →
    GoesBy environment first grammar name token' → ∀ offset,
      token.matchAt? environment.source offset = token'.matchAt? environment.source offset

variable {environment : Environment} {first : Grammar} {grammar name : String} {token : TokenRule}

/-- Where tokens are unanimous, what is remembered of one of them is what each of them does. -/
theorem Unanimous.recalled (unanimous : Unanimous environment first grammar name)
    (goesBy : GoesBy environment first grammar name token) {offset : Nat} {outcome : Option Nat}
    (recalls : Recalls environment first ⟨grammar, offset, name⟩ outcome) :
    token.matchAt? environment.source offset = outcome := by
  obtain ⟨rule, other, known, isToken, grammar_eq, name_eq, remembered⟩ := recalls
  exact (unanimous token other goesBy ⟨rule, known, grammar_eq.symm, name_eq.symm, isToken⟩
    offset).trans remembered

end Parse

/-- Some items of a grammar may be declared in any order. They exclude one another, and if tokens
are remembered, then all tokens that go by the names of an item do the same. -/
structure Grammar.Exchangeable (grammar : Grammar) (environment : Parse.Environment)
    (first : Grammar) (items : List String) : Prop
    extends grammar.Exclusive environment.source items where
  unanimous : environment.options.memoizeTokens = true → ∀ item ∈ items, ∀ rule,
    grammar.rule? item = some rule → Parse.Unanimous environment first rule.grammar rule.name

/-- Two rules are the same, up to the order of the items of a set; and if it is another order, then
these items may be declared in any order. -/
structure Rule.Reordered (environment : Parse.Environment) (first grammar : Grammar)
    (left right : Rule) : Prop extends left.Rearranged right where
  exchangeable : ∀ set set', left.kind = .set set → right.kind = .set set' →
    set'.items ≠ set.items → grammar.Exchangeable environment first set.items

/-- Two grammars are the same, up to the order of items that may be declared in any order. -/
abbrev Grammar.Reordered (left : Grammar) (environment : Parse.Environment)
    (first right : Grammar) : Prop :=
  left.Allied (Rule.Reordered environment first left) right

/-- A grammar may stay as it is. -/
theorem Grammar.reordered_refl (environment : Parse.Environment) (first grammar : Grammar) :
    grammar.Reordered environment first grammar := by
  refine ⟨rfl, rfl, rfl, rfl, rfl, fun name => ?_⟩
  cases grammar.rule? name with
  | none => exact .none
  | some rule =>
    refine .some ⟨.refl rule, fun set set' kind kind' different => absurd ?_ different⟩
    rw [RuleKind.set.inj (kind.symm.trans kind')]

/-- It is enough that the rules are the same one after the other, and that the items of every set
may be declared in any order. -/
theorem Grammar.reordered_of_forall₂ {environment : Parse.Environment} {first left right : Grammar}
    (name_eq : right.name = left.name) (whitespace_eq : right.whitespace = left.whitespace)
    (startSymbol_eq : right.startSymbol = left.startSymbol)
    (depthLimit_eq : right.depthLimit = left.depthLimit)
    (whitespaceDisabled_eq : right.whitespaceDisabled = left.whitespaceDisabled)
    (rules : List.Forall₂ Rule.Rearranged left.rules right.rules)
    (exchangeable : ∀ rule ∈ left.rules, ∀ set, rule.kind = .set set →
      left.Exchangeable environment first set.items) :
    left.Reordered environment first right := by
  refine ⟨name_eq, whitespace_eq, startSymbol_eq, depthLimit_eq, whitespaceDisabled_eq,
    fun name => ?_⟩
  rw [rule?, rule?]
  have kept : ∀ {rule rule'}, rule ∈ left.rules → rule.Rearranged rule' →
      rule.Reordered environment first left rule' := fun member rearranged =>
    ⟨rearranged, fun set _ kind _ _ => exchangeable _ member set kind⟩
  generalize left.rules = own, right.rules = other at rules kept
  induction rules with
  | nil => exact .none
  | @cons rule rule' rest rest' rearranged _ inductionHypothesis =>
    rw [List.find?_cons, List.find?_cons, rearranged.name_eq]
    cases rule.name == name with
    | true => exact .some (kept List.mem_cons_self rearranged)
    | false => exact inductionHypothesis fun member => kept (List.mem_cons_of_mem _ member)

end Rulebook
