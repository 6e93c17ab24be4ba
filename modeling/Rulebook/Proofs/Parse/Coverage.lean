/-
This file shows what the tree of a parse looks like. In every state that is reached it is well
formed. When a parse answers with a tree, the root covers the whole text, its only semantic
child is the match of the start rule, and the tokens of the tree, skipped whitespace
included, are the text.
-/

import Rulebook.Proofs.Parse.Restoration
import Rulebook.Proofs.Tree.Yield

namespace Rulebook.Parse

open Match (Tree)

variable {environment : Environment} {first : Grammar}

/-- What is asked of the match that a parse answers with can be evaluated. -/
instance decidableExistsParsed (answer : Answer) (property : ParseTree → Prop)
    [DecidablePred property] : Decidable (∃ result, answer = .parsed result ∧ property result) :=
  match answer with
  | .parsed result => decidable_of_iff (property result)
      ⟨fun holds => ⟨result, rfl, holds⟩, fun ⟨_, equal, holds⟩ => by cases equal; exact holds⟩
  | .failed _ => isFalse fun ⟨_, equal, _⟩ => by cases equal
  | .exhausted => isFalse fun ⟨_, equal, _⟩ => by cases equal

/-- A parse that answers with a tree has matched its start rule and left nothing. -/
theorem exists_of_parsed {fuel : Nat} {start : Option String} {result : ParseTree}
    (parsed : (run environment fuel first start).answer = .parsed result) :
    ∃ name after, (start <|> first.startSymbol) = some name ∧
      (begin environment fuel name (State.initial first environment.options)).outcome =
        .done true after ∧
      environment.source.size ≤ after.tree.stop Tree.root ∧
      result = ⟨environment.source, after.tree, after.totals⟩ := by
  rw [run] at parsed
  split at parsed
  · cases parsed
  · rename_i name found
    refine ⟨name, ?_⟩
    cases ended : (begin environment fuel name
        (State.initial first environment.options)).outcome with
    | exhausted =>
      rw [ended] at parsed
      cases parsed
    | aborted error after =>
      rw [ended] at parsed
      cases parsed
    | done matched after =>
      rw [ended] at parsed
      cases matched with
      | false => cases parsed
      | true =>
        rw [conclude] at parsed
        by_cases left : after.tree.stop Tree.root < environment.source.size
        · rw [if_pos left] at parsed
          cases parsed
        · rw [if_neg left] at parsed
          cases parsed
          exact ⟨after, found, rfl, Nat.le_of_not_lt left, rfl⟩

/-- What the root of a finished tree looks like. -/
structure Covers (environment : Environment) (first : Grammar) (name : String) (tree : Tree) :
    Prop where
  start_eq : (tree.node Tree.root).start = 0
  stop_eq : tree.stop Tree.root = environment.source.size
  /-- The only semantic child of the root is the match of the start rule. -/
  semantic_eq : ∃ child rule, (tree.node Tree.root).semantic = #[child] ∧
    first.rule? name = some rule ∧ (tree.node child).origin = .rule rule

theorem covers_of_done (faithful : environment.source.Faithful) {fuel : Nat} {name : String}
    {after : State}
    (done : (begin environment fuel name (State.initial first environment.options)).outcome =
      .done true after)
    (nothingLeft : environment.source.size ≤ after.tree.stop Tree.root) :
    after.tree.Intact environment.source.chars ∧ Covers environment first name after.tree := by
  have meets := meets_begin faithful (excuses_always environment first) fuel name
    (ready_initial environment first)
  obtain ⟨middle, skipped, answered⟩ := meets.returns true after done
  have added := answered.added rfl
  have grown := skipped.grown.trans added.grown
  have intact := answered.sound.tree
  have stop_le := faithful.le_size (intact.spans Tree.root intact.nonempty).2.1
  refine ⟨intact, (grown.start_eq skipped.grown.inside).1,
    Nat.le_antisymm stop_le nothingLeft, middle.tree.size, ?_⟩
  obtain ⟨rule, found, origin_eq⟩ := added.origin_eq
  rw [skipped.grammar_eq] at found
  refine ⟨rule, ?_, found, origin_eq⟩
  rw [added.semantic_eq, skipped.semantic_eq]
  rfl

/-- Nothing but the children of the root and its stop change from the beginning of a parse. -/
theorem grown_of_done (faithful : environment.source.Faithful) {fuel : Nat} {name : String}
    {after : State}
    (done : (begin environment fuel name (State.initial first environment.options)).outcome =
      .done true after) : Tree.Grown Tree.root .new after.tree := by
  have meets := meets_begin faithful (excuses_always environment first) fuel name
    (ready_initial environment first)
  obtain ⟨middle, skipped, answered⟩ := meets.returns true after done
  exact skipped.grown.trans (answered.added rfl).grown

/-- The root of a finished tree is no match of a rule. -/
theorem origin_root_of_done (faithful : environment.source.Faithful) {fuel : Nat} {name : String}
    {after : State}
    (done : (begin environment fuel name (State.initial first environment.options)).outcome =
      .done true after) : (after.tree.node Tree.root).origin = .root :=
  ((grown_of_done faithful done).start_eq (grown_of_done faithful done).inside).2.1

/-- Every tree that a parse builds is well formed, at every moment. If the parse succeeds, its
tree covers the text, has the match of the start rule as its only semantic child, and its
tokens, in the order of the listing, make up the text. -/
theorem tree_wellFormed_and_covers (input : String) (registry : Registry)
    (options : ParseOptions) (tracing : Bool) (first : Grammar) :
    let environment := Environment.ofText input registry options tracing
    (∀ start state, Reachable environment first start state →
      state.tree.WellFormed input.toList) ∧
    ∀ fuel start result, (run environment fuel first start).answer = .parsed result →
      result.tree.WellFormed input.toList ∧
      (∃ name, (start <|> first.startSymbol) = some name ∧
        Covers environment first name result.tree) ∧
      result.tree.tokenText result.source result.tree.reachable = input := by
  intro environment
  have faithful := Environment.faithful_ofText input registry options tracing
  refine ⟨fun start state reached => (reached.sound faithful).tree.wellFormed,
    fun fuel start result parsed => ?_⟩
  obtain ⟨name, after, chosen, done, nothingLeft, rfl⟩ := exists_of_parsed parsed
  obtain ⟨intact, covers⟩ := covers_of_done faithful done nothingLeft
  refine ⟨intact.wellFormed, ⟨name, chosen, covers⟩, ?_⟩
  rw [intact.tokenText_reachable faithful, covers.start_eq, covers.stop_eq, faithful.slice_whole]
  exact String.ofList_toList

/-- Both halves of a pair match. -/
theorem tree_of_pair_covers :
    ∃ result, (run (Environment.ofText "xy" {} {} false) 3 pair (some "pair")).answer =
        .parsed result ∧
      result.tree.WellFormed "xy".toList ∧
      result.tree.tokenText result.source result.tree.reachable = "xy" := by
  obtain ⟨result, parsed⟩ : ∃ result, (run (Environment.ofText "xy" {} {} false) 3 pair
      (some "pair")).answer = .parsed result := ⟨_, rfl⟩
  have general := (tree_wellFormed_and_covers "xy" {} {} false pair).2 3 _ result parsed
  exact ⟨result, parsed, general.1, general.2.2⟩

end Rulebook.Parse
