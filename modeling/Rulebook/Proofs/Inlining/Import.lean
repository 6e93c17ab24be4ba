/-
This file shows that an import is equivalent to a reference within one grammar. A host imports
rules of a guest. If all rules of the guest are taken over into the host, and each import is
replaced by a choice of nothing but the rule that it imports, then every text is parsed with
the same result. The two grammars have to have the same settings and the same whitespace
tokens, and no other names in common.
-/

import Rulebook.Proofs.Inlining.Simulation
import Rulebook.Proofs.Parse.Transparency

namespace Rulebook

open Parse (Answer Environment)

variable {compile : Compiler} {host guest merged : Grammar} {rule other : Rule} {name : String}

/-! ### Hosts and guests -/

/-- Two rules declare the same whitespace token. -/
def Rule.SameBlank (compile : Compiler) (left right : Rule) : Prop :=
  left.name = right.name ∧ ∃ token token', left.token? = some token ∧
    right.token? = some token' ∧ token.Alike compile token' ∧
      token'.whitespace = token.whitespace ∧ token'.literal = token.literal

namespace Grammar

/-- A grammar, the host, may import rules of another one, the guest, and of no other. They have
the same settings and the same whitespace tokens, and no other names in common; and each asks
for no other rules than its own, imports apart. The guest itself does not import. -/
structure Hosts (compile : Compiler) (host guest : Grammar) : Prop where
  depthLimit_eq : guest.depthLimit = host.depthLimit
  whitespaceDisabled_eq : guest.whitespaceDisabled = host.whitespaceDisabled
  blanks : List.Forall₂ (Rule.SameBlank compile) host.whitespaceTokens guest.whitespaceTokens
  distinct : ∀ name, host.contains name = true → guest.contains name = true →
    name ∈ host.whitespaceTokens.map (·.name)
  closed : host.Closed
  guest_closed : guest.Closed
  guest_plain : ∀ name rule, guest.rule? name = some rule → rule.isImport = false
  imports : ∀ name rule target, host.rule? name = some rule → rule.kind = .imported target →
    target.grammar = guest.name ∧ guest.contains target.rule = true

end Grammar

namespace Grammar

/-- A grammar has the rules of a host and of its guest and no others, with choices in the place
of the imports. -/
structure Absorbs (merged host guest : Grammar) : Prop where
  depthLimit_eq : merged.depthLimit = host.depthLimit
  whitespaceDisabled_eq : merged.whitespaceDisabled = host.whitespaceDisabled
  blanks : merged.whitespaceTokens.map (·.name) = host.whitespaceTokens.map (·.name)
  host_rules : ∀ name rule, host.rule? name = some rule →
    ∃ other, merged.rule? name = some other ∧ other.kind = rule.kind.inlined
  guest_rules : ∀ name rule, guest.rule? name = some rule → host.contains name = false →
    ∃ other, merged.rule? name = some other ∧ other.kind = rule.kind
  nothing_else : ∀ name, merged.contains name = true →
    host.contains name = true ∨ guest.contains name = true

end Grammar

/-! ### Taking the rules over -/

namespace Grammar

/-- A host with the rules of its guest that it does not have, and with choices in the place of
the imports. -/
def absorb (host guest : Grammar) : Grammar :=
  { host with
    rules := host.rules.map (fun rule => { rule with kind := rule.kind.inlined }) ++
      guest.rules.filter fun rule => !host.contains rule.name }

theorem rule?_absorb (host guest : Grammar) (name : String) :
    (host.absorb guest).rule? name =
      ((host.rule? name).map fun rule => { rule with kind := rule.kind.inlined }).or
        (guest.rule? name) := by
  have from_host : (host.rules.map fun rule =>
      ({ rule with kind := rule.kind.inlined } : Rule)).find? (·.name == name) =
        (host.rule? name).map fun rule => { rule with kind := rule.kind.inlined } := by
    rw [List.find?_map]
    rfl
  rw [rule?, absorb, List.find?_append, from_host]
  cases isHost : host.rule? name with
  | some rule => rfl
  | none =>
    rw [Option.map_none, Option.none_or, Option.none_or, List.find?_filter]
    refine congrArg (List.find? · guest.rules) (funext fun rule => ?_)
    by_cases named : rule.name = name
    · have absent : host.contains rule.name = false := by
        rw [named, contains, isHost]
        rfl
      rw [absent, named]
      simp
    · simp [beq_false_of_ne named]

/-- A host that declares the whitespace it skips absorbs its guests. -/
theorem absorbs_absorb (host guest : Grammar)
    (declared : ∀ name ∈ host.whitespace, host.contains name = true) :
    (host.absorb guest).Absorbs host guest where
  depthLimit_eq := rfl
  whitespaceDisabled_eq := rfl
  blanks := by
    have same : ∀ name ∈ host.whitespace, (host.absorb guest).rule? name =
        (host.rule? name).map fun rule => { rule with kind := rule.kind.inlined } := by
      intro name member
      obtain ⟨rule, found⟩ := Option.isSome_iff_exists.mp (declared name member)
      rw [rule?_absorb, found]
      rfl
    show (host.whitespace.filterMap (host.absorb guest).rule?).map _ = _
    rw [List.filterMap_congr same, whitespaceTokens, List.map_filterMap, List.map_filterMap]
    refine congrArg (List.filterMap · host.whitespace) (funext fun name => ?_)
    cases host.rule? name <;> rfl
  host_rules name rule found := ⟨_, by rw [rule?_absorb, found]; rfl, rfl⟩
  guest_rules name rule found absent := by
    have none : host.rule? name = none := Option.not_isSome_iff_eq_none.mp
      (by rw [show (host.rule? name).isSome = false from absent]; exact Bool.false_ne_true)
    exact ⟨rule, by rw [rule?_absorb, none, found]; rfl, rfl⟩
  nothing_else name contained := by
    rw [contains, rule?_absorb, Option.isSome_or, Option.isSome_map] at contained
    exact Bool.or_eq_true_iff.mp contained

end Grammar

/-! ### Rules that stand for one another -/

theorem Rule.SameBlank.plain (same : Rule.SameBlank compile rule other) :
    rule.isImport = false := by
  obtain ⟨-, token, -, isToken, -⟩ := same
  rw [token?] at isToken
  rw [isImport]
  cases kind : rule.kind with
  | imported target =>
    rw [kind] at isToken
    cases isToken
  | _ => rfl

theorem Rule.SameBlank.like (same : Rule.SameBlank compile rule other) :
    other.kind.Like rule.kind := by
  obtain ⟨-, token, token', isToken, isToken', alike, whitespace_eq, literal_eq⟩ := same
  rw [Rule.token?] at isToken isToken'
  generalize rule.kind = kind, other.kind = kind' at *
  cases kind with
  | token self =>
    cases kind' with
    | token self' =>
      cases isToken
      cases isToken'
      exact .token alike.matchAt?_eq whitespace_eq.symm
        (by rw [TokenRule.isKeyword, TokenRule.isKeyword, literal_eq])
    | _ => cases isToken'
  | _ => cases isToken

namespace Grammar

variable (hosts : host.Hosts compile guest) (absorbs : merged.Absorbs host guest)

include hosts

/-- The names of the whitespace tokens of a host are those of its guest. -/
theorem Hosts.names_eq :
    guest.whitespaceTokens.map (·.name) = host.whitespaceTokens.map (·.name) := by
  have blanks := hosts.blanks
  generalize host.whitespaceTokens = left, guest.whitespaceTokens = right at blanks
  induction blanks with
  | nil => rfl
  | cons same _ inductionHypothesis =>
    rw [List.map_cons, List.map_cons, inductionHypothesis, same.1]

/-- A rule of the guest that goes by the name of a rule of the host is the same whitespace
token. -/
theorem Hosts.sameBlank (found : guest.rule? name = some rule)
    (contained : host.contains name = true) :
    ∃ other, host.rule? name = some other ∧ Rule.SameBlank compile other rule := by
  have named : name ∈ host.whitespaceTokens.map (·.name) :=
    hosts.distinct name contained (by rw [contains, found]; rfl)
  obtain ⟨other, member, rfl⟩ := List.mem_map.mp named
  have paired : ∃ blank ∈ guest.whitespaceTokens, Rule.SameBlank compile other blank := by
    have blanks := hosts.blanks
    generalize host.whitespaceTokens = left, guest.whitespaceTokens = right at blanks member
    induction blanks with
    | nil => cases member
    | @cons _ blank _ _ same _ inductionHypothesis =>
      rcases List.mem_cons.mp member with rfl | later
      · exact ⟨blank, List.mem_cons_self, same⟩
      · obtain ⟨blank, isBlank, same⟩ := inductionHypothesis later
        exact ⟨blank, List.mem_cons_of_mem _ isBlank, same⟩
  obtain ⟨blank, isBlank, same⟩ := paired
  have found' := rule?_of_mem_whitespaceTokens isBlank
  rw [← same.1, found, Option.some.injEq] at found'
  exact ⟨other, rule?_of_mem_whitespaceTokens member, found' ▸ same⟩

include absorbs

/-- All rules of the host and of the guest have rules standing for them. -/
theorem Absorbs.standsFor (found : host.rule? name = some rule ∨ guest.rule? name = some rule) :
    merged.StandsFor rule := by
  rcases found with found | found
  · obtain ⟨other, found', kind_eq⟩ := absorbs.host_rules name rule found
    refine ⟨other, (rule?_name found).symm ▸ found', ?_⟩
    rw [kind_eq]
    exact rule.kind.like_inlined
  · have plain := hosts.guest_plain name rule found
    cases contained : host.contains name with
    | false =>
      obtain ⟨other, found', kind_eq⟩ := absorbs.guest_rules name rule found contained
      refine ⟨other, (rule?_name found).symm ▸ found', ?_⟩
      have like := rule.kind.like_inlined
      rw [Rule.inlined_eq plain] at like
      rw [kind_eq]
      exact like
    | true =>
      obtain ⟨blank, isBlank, same⟩ := hosts.sameBlank found contained
      obtain ⟨other, found', kind_eq⟩ := absorbs.host_rules name blank isBlank
      refine ⟨other, (rule?_name found).symm ▸ found', ?_⟩
      rw [kind_eq, Rule.inlined_eq same.plain]
      exact same.like

theorem Absorbs.contains_of
    (contained : host.contains name = true ∨ guest.contains name = true) :
    merged.contains name = true := by
  have found : ∃ rule, host.rule? name = some rule ∨ guest.rule? name = some rule := by
    rcases contained with contained | contained
    · exact (Option.isSome_iff_exists.mp contained).imp fun _ found => .inl found
    · exact (Option.isSome_iff_exists.mp contained).imp fun _ found => .inr found
  obtain ⟨rule, found⟩ := found
  obtain ⟨other, found', -⟩ := absorbs.standsFor hosts found
  have named : rule.name = name := found.elim rule?_name rule?_name
  rw [contains, ← named, found']
  rfl

/-- Every rule comes from the host or from the guest. -/
theorem Absorbs.exists_original (found : merged.rule? name = some rule) :
    ∃ original, (host.rule? name = some original ∨ guest.rule? name = some original) ∧
      rule.kind = original.kind.inlined := by
  have contained : merged.contains name = true := by
    rw [contains, found]
    rfl
  cases isHost : host.rule? name with
  | some original =>
    obtain ⟨other, found', kind_eq⟩ := absorbs.host_rules name original isHost
    rw [found, Option.some.injEq] at found'
    exact ⟨original, .inl rfl, found' ▸ kind_eq⟩
  | none =>
    have absent : host.contains name = false := by rw [contains, isHost]; rfl
    rcases absorbs.nothing_else name contained with inHost | inGuest
    · rw [absent] at inHost
      cases inHost
    · obtain ⟨original, isGuest⟩ := Option.isSome_iff_exists.mp inGuest
      obtain ⟨other, found', kind_eq⟩ := absorbs.guest_rules name original isGuest absent
      rw [found, Option.some.injEq] at found'
      refine ⟨original, .inr isGuest, ?_⟩
      rw [Rule.inlined_eq (hosts.guest_plain name original isGuest), found', kind_eq]

theorem Absorbs.plain (found : merged.rule? name = some rule) : rule.isImport = false := by
  obtain ⟨original, -, kind_eq⟩ := absorbs.exists_original hosts found
  rw [Rule.isImport, kind_eq]
  cases original.kind <;> rfl

theorem Absorbs.closed (found : merged.rule? name = some rule) :
    ∀ reference ∈ rule.kind.references, merged.contains reference = true := by
  obtain ⟨original, from_either, kind_eq⟩ := absorbs.exists_original hosts found
  intro reference member
  refine absorbs.contains_of hosts ?_
  cases plain : original.isImport with
  | false =>
    rw [kind_eq, Rule.inlined_eq plain] at member
    exact from_either.imp (hosts.closed name original · plain reference member)
      (hosts.guest_closed name original · plain reference member)
  | true =>
    rcases from_either with isHost | isGuest
    · rw [Rule.isImport] at plain
      cases kind : original.kind with
      | imported target =>
        rw [kind_eq, kind] at member
        rw [List.mem_singleton.mp member]
        exact .inr (hosts.imports name original target isHost kind).2
      | _ => rw [kind] at plain; cases plain
    · rw [hosts.guest_plain name original isGuest] at plain
      cases plain

end Grammar

/-! ### The zones -/

namespace Parse

/-- The host, with nothing above it, and the guest, with rules of the host above it. -/
def hostAndGuest (host guest : Grammar) : Zone := fun grammar above =>
  (grammar = host ∧ ∀ name, ¬ above name) ∨
    (grammar = guest ∧ ∀ name, above name ↔ host.contains name = true)

variable {environment : Environment}

theorem merges_hostAndGuest (hosts : host.Hosts compile guest)
    (absorbs : merged.Absorbs host guest)
    (published : environment.registry.lookup? guest.name = some guest) :
    Merges environment merged (hostAndGuest host guest) where
  depthLimit_eq := by
    rintro grammar above (⟨rfl, -⟩ | ⟨rfl, -⟩)
    · exact absorbs.depthLimit_eq
    · exact absorbs.depthLimit_eq.trans hosts.depthLimit_eq.symm
  whitespaceDisabled_eq := by
    rintro grammar above (⟨rfl, -⟩ | ⟨rfl, -⟩)
    · exact absorbs.whitespaceDisabled_eq
    · exact absorbs.whitespaceDisabled_eq.trans hosts.whitespaceDisabled_eq.symm
  whitespaceTokens_eq := by
    rintro grammar above (⟨rfl, -⟩ | ⟨rfl, -⟩)
    · exact Grammar.whitespaceTokens_eq_of_names absorbs.blanks
    · exact Grammar.whitespaceTokens_eq_of_names (absorbs.blanks.trans hosts.names_eq.symm)
  standsFor := by
    rintro grammar above (⟨rfl, -⟩ | ⟨rfl, -⟩) name rule found
    · exact absorbs.standsFor hosts (.inl found)
    · exact absorbs.standsFor hosts (.inr found)
  closed := by
    rintro grammar above (⟨rfl, -⟩ | ⟨rfl, -⟩) name rule found
    · exact hosts.closed name rule found
    · exact hosts.guest_closed name rule found
  foreign := by
    rintro grammar above (⟨rfl, none⟩ | ⟨rfl, some⟩) name rule isAbove found
    · exact absurd isAbove (none name)
    · obtain ⟨other, -, same⟩ := hosts.sameBlank found ((some name).mp isAbove)
      obtain ⟨-, -, token, -, isToken, -⟩ := same
      exact Rule.isOperator_of_isToken (Rule.isToken_of_token? isToken)
  leads := by
    rintro grammar above (⟨rfl, none⟩ | ⟨rfl, some⟩) name rule target found kind
    · obtain ⟨grammar_eq, contained⟩ := hosts.imports name rule target found kind
      refine ⟨guest, (grammar.contains · = true), grammar_eq ▸ published, contained,
        .inr ⟨rfl, fun _ => .rfl⟩, fun name => ?_⟩
      exact fun either => either.resolve_left (none name)
    · have plain := hosts.guest_plain name rule found
      rw [Rule.isImport, kind] at plain
      cases plain

/-- An import is equivalent to a reference within one grammar. Take all rules of a host and of a
guest that it imports into one grammar, with a choice of nothing but the imported rule in the
place of each import. Then from every rule of the host, every text is parsed with the same
result: the same syntax tree and the same counts of rules asked for, matched and not matched,
or the same failure; and with the same work allowed, either both parses come to an end or
neither does. -/
theorem import_is_reference (compile : Compiler) (host guest merged : Grammar)
    (hosts : host.Hosts compile guest) (absorbs : merged.Absorbs host guest)
    (registry : Registry) (published : registry.lookup? guest.name = some guest)
    (input : String) (options : ParseOptions) (tracing : Bool) (fuel : Nat) (start : String)
    (contained : host.contains start = true) :
    let environment := Environment.ofText input registry options tracing
    (run environment fuel host (some start)).answer.Like
      (run environment fuel merged (some start)).answer := by
  intro environment
  have faithful := Environment.faithful_ofText input registry options tracing
  have separate : (run environment fuel host (some start)).answer.Like
      (run environment.plain fuel merged (some start)).answer :=
    like_run (merges_hostAndGuest hosts absorbs published) faithful (.inl ⟨rfl, fun _ => id⟩)
      fuel contained
  have together : (run environment fuel merged (some start)).answer.Like
      (run environment.plain fuel merged (some start)).answer :=
    like_run (merges_alone environment (fun name rule found _ => absorbs.closed hosts found)
      fun name rule found => absorbs.plain hosts found) faithful ⟨rfl, fun _ => id⟩ fuel
      (absorbs.contains_of hosts (.inl contained))
  exact separate.trans_symm together

/-- Sums of ones, with blanks around the signs. -/
def ones : Grammar :=
  .ofCalls Workspace.compile "h" [.token "blank" " " true, .token "one" "1" false,
    .keyword "+", .operator "sum" .right "'+'" "one"]

/-- A letter and a sum, which is imported, in a node of its own. -/
def letterAndSum : Grammar :=
  .ofCalls Workspace.compile "g" [.token "blank" " " true, .token "x" "x" false,
    .imported "total" "h" "sum" true, .sequence "both" [{ rule := "x" }, { rule := "total" }]]

set_option maxRecDepth 4000 in
theorem hosts_ones : letterAndSum.Hosts Workspace.compile ones where
  depthLimit_eq := rfl
  whitespaceDisabled_eq := rfl
  blanks := .cons ⟨rfl, _, _, rfl, rfl, ⟨rfl, false, rfl, rfl⟩, rfl, rfl⟩ .nil
  distinct name inHost inGuest := by
    have shared : ∀ rule ∈ letterAndSum.rules, ones.contains rule.name = true →
        rule.name ∈ letterAndSum.whitespaceTokens.map (·.name) := by decide +kernel
    obtain ⟨rule, found⟩ := Option.isSome_iff_exists.mp inHost
    rw [← Grammar.rule?_name found] at inGuest ⊢
    exact shared rule (Grammar.mem_rules_of_rule? found) inGuest
  closed _ rule found := by
    have closed : ∀ rule ∈ letterAndSum.rules, rule.isImport = false →
        ∀ reference ∈ rule.kind.references, letterAndSum.contains reference = true := by
      decide +kernel
    exact closed rule (Grammar.mem_rules_of_rule? found)
  guest_closed _ rule found := by
    have closed : ∀ rule ∈ ones.rules, rule.isImport = false →
        ∀ reference ∈ rule.kind.references, ones.contains reference = true := by decide +kernel
    exact closed rule (Grammar.mem_rules_of_rule? found)
  guest_plain _ rule found := by
    have plain : ∀ rule ∈ ones.rules, rule.isImport = false := by decide +kernel
    exact plain rule (Grammar.mem_rules_of_rule? found)
  imports name rule target found kind := by
    have only : ∀ rule ∈ letterAndSum.rules, rule.isImport = true → rule.name = "total" := by
      decide +kernel
    have total : letterAndSum.rule? "total" = some ⟨"total", "g", 0,
      .imported { grammar := "h", rule := "sum", wrap := true }⟩ := rfl
    have named := only rule (Grammar.mem_rules_of_rule? found) (by rw [Rule.isImport, kind])
    rw [← Grammar.rule?_name found, named, total] at found
    rw [← Option.some.inj found] at kind
    cases kind
    exact ⟨rfl, by decide +kernel⟩

/-- A letter and an imported sum are parsed as if the sum were declared with the letter. -/
theorem letter_and_sum_alike :
    let registry := (Registry.register {} ones).1
    let environment := Environment.ofText "x 1 + 1" registry {} false
    letterAndSum.Hosts Workspace.compile ones ∧
      (letterAndSum.absorb ones).Absorbs letterAndSum ones ∧
      registry.lookup? ones.name = some ones ∧ letterAndSum.contains "both" = true ∧
      ∀ fuel, (run environment fuel letterAndSum (some "both")).answer.Like
        (run environment fuel (letterAndSum.absorb ones) (some "both")).answer := by
  intro registry environment
  have absorbs : (letterAndSum.absorb ones).Absorbs letterAndSum ones :=
    Grammar.absorbs_absorb _ _ (by decide +kernel)
  have published : registry.lookup? ones.name = some ones := Sorted.lookup_put_self _ _ _
  have contained : letterAndSum.contains "both" = true := by decide +kernel
  refine ⟨hosts_ones, absorbs, published, contained, fun fuel => ?_⟩
  exact import_is_reference Workspace.compile letterAndSum ones _ hosts_ones absorbs registry
    published "x 1 + 1" {} false fuel "both" contained

end Parse

end Rulebook
