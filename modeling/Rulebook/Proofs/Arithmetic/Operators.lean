/-
This file says how operators read phrases. An operator for products whose operands are factors
reads a product and folds it to the left; an operator for sums whose operands are products reads
a sum and folds it to the right. Which rule reads the operands, and what is above it, is left
open. So the same holds where sums and products are layers of a grammar and where they are
alternatives that guard against themselves.
-/

import Rulebook.Proofs.Arithmetic.Lexicon

namespace Rulebook

namespace Arithmetic

open Unicode (isBlank isDigit)

/-! ### Characters behind a phrase -/

namespace Level

variable {level : Level} {text : List Char} {test : Char → Bool}

theorem Before.stops (before : level.Before text)
    (others : level.followers.all (fun c => !test c) = true) : Stops test text := by
  intro c member
  have other := List.all_eq_true.mp others c (before c member)
  rwa [Bool.not_eq_true'] at other

theorem Before.stops_isBlank (before : level.Before text) : Stops isBlank text :=
  before.stops (by cases level <;> rfl)

theorem Before.stops_isDigit (before : level.Before text) : Stops isDigit text :=
  before.stops (by cases level <;> rfl)

theorem Before.not_mem (before : level.Before text) {sign : Char}
    (other : sign ∉ level.followers) : sign ∉ text.head? :=
  fun member => other (before sign member)

theorem Before.imp {tighter : Level} (before : level.Before text)
    (fewer : level.followers ⊆ tighter.followers) : tighter.Before text :=
  fun c member => fewer (before c member)

theorem before_nil (level : Level) : level.Before [] :=
  fun _ absurd => nomatch absurd

theorem before_cons {c : Char} (follows : c ∈ level.followers) (rest : List Char) :
    level.Before (c :: rest) := by
  rintro _ ⟨⟩
  exact follows

end Level

/-! ### Offsets -/

/-- A sign takes one byte, and what follows it starts behind its blanks. -/
theorem byteCount_linked {sign : Char} (size_eq : sign.utf8Size = 1) (left right : List Char)
    (blanks : Blanks) (offset : Nat) :
    offset + byteCount (left ++ sign :: (blanks.chars ++ right)) =
      offset + byteCount left + 1 + byteCount blanks.chars + byteCount right := by
  rw [byteCount_append, byteCount_cons, byteCount_append, size_eq]
  omega

end Arithmetic

namespace Parse

open Arithmetic

variable {environment : Environment} {grammar : Grammar} {chain above : Grammar.Chain}
  {offset stop depth : Nat} {name operand : String} {rule : Rule} {rest : List Char}

/-- Phrases of a level that nest no deeper than a bound are found for a name at an offset, with
their syntax trees. -/
def Reads (environment : Environment) (grammar : Grammar) (chain : Grammar.Chain)
    (offset : Nat) (name : String) (level : Level) (depth : Nat) : Prop :=
  ∀ (phrase : Phrase level) (rest : List Char), phrase.depth ≤ depth →
    environment.source.rest? offset = some (phrase.chars ++ rest) → level.Before rest →
      Yields environment grammar chain offset name (offset + byteCount phrase.chars)
        (phrase.tree environment.source offset)

/-- The operator for products, with a rule for its operands. -/
def productsOf (operand : String) : OperatorRule :=
  { associativity := .left, operator := "'*'", operand }

/-- The operator for sums, with a rule for its operands. -/
def sumsOf (operand : String) : OperatorRule :=
  { associativity := .right, operator := "'+'", operand }

section

variable (faithful : environment.source.Faithful) (forgetful : Forgetful environment)
  (lexicon : Lexicon grammar) (room : Room environment grammar (chain.length + 1))

include faithful forgetful lexicon room

/-- A product is a first factor and rounds, which are folded to the product itself. -/
theorem rounds_product
    (operands : ∀ later, offset ≤ later →
      Reads environment grammar chain later operand .factor depth)
    (phrase : Phrase .product) {rest : List Char} (shallow : phrase.depth ≤ depth)
    (reads : environment.source.rest? offset = some (phrase.chars ++ rest))
    (before : Level.factor.Before rest) {links : List (Ast.Node × Ast.Node)}
    (rounds : Rounds environment grammar chain (productsOf operand)
      (offset + byteCount phrase.chars) links stop) :
    ∃ middle first more, Yields environment grammar chain offset operand middle first ∧
      Rounds environment grammar chain (productsOf operand) middle more stop ∧
        Ast.Node.foldedLeft "mul" first more =
          Ast.Node.foldedLeft "mul" (phrase.tree environment.source offset) links :=
  match phrase with
  | .factor inner =>
    ⟨_, _, links, operands offset (Nat.le_refl _) inner rest shallow reads before, rounds, rfl⟩
  | .times left blanks right => by
    obtain ⟨leftShallow, rightShallow⟩ := Nat.max_le.mp shallow
    rw [Phrase.chars, byteCount_linked rfl] at rounds
    rw [Phrase.chars, List.append_assoc, List.cons_append, List.append_assoc] at reads
    have atSign := faithful.rest?_append reads
    have sign := yields_sign faithful forgetful room lexicon.times lexicon rfl atSign
      (right.stops_isBlank rest)
    have atRight := faithful.rest?_append (faithful.rest?_cons rfl atSign)
    have last := operands _ (by omega) right rest rightShallow atRight before
    exact rounds_product operands left leftShallow reads (Level.before_cons (by decide) _)
      (.more faithful sign last rounds)

/-- A sum is a first product and rounds, which are folded to the sum itself. -/
theorem rounds_sum (phrase : Phrase .sum) {offset : Nat} {rest : List Char}
    (operands : ∀ later, offset ≤ later →
      Reads environment grammar chain later operand .product depth) (shallow : phrase.depth ≤ depth)
    (reads : environment.source.rest? offset = some (phrase.chars ++ rest))
    (before : Level.sum.Before rest) :
    ∃ middle first more, Yields environment grammar chain offset operand middle first ∧
      Rounds environment grammar chain (sumsOf operand) middle more
        (offset + byteCount phrase.chars) ∧
        Ast.Node.foldedRight "add" first more = phrase.tree environment.source offset :=
  match phrase with
  | .product inner => by
    have ends : Refuses environment grammar chain (offset + byteCount inner.chars) "'+'" :=
      refuses_sign forgetful room lexicon.plus (faithful.rest?_append reads)
        (before.not_mem (by decide))
    have first := operands offset (Nat.le_refl _) inner rest shallow reads
      (before.imp (by decide))
    exact ⟨_, _, [], first, Refuses.rounds faithful ends, rfl⟩
  | .plus left blanks right => by
    obtain ⟨leftShallow, rightShallow⟩ := Nat.max_le.mp shallow
    rw [Phrase.chars, List.append_assoc, List.cons_append, List.append_assoc] at reads
    rw [Phrase.chars, byteCount_linked rfl]
    have atSign := faithful.rest?_append reads
    have sign := yields_sign faithful forgetful room lexicon.plus lexicon rfl atSign
      (right.stops_isBlank rest)
    have atRight := faithful.rest?_append (faithful.rest?_cons rfl atSign)
    have first := operands offset (Nat.le_refl _) left _ leftShallow reads
      (Level.before_cons (by decide) _)
    obtain ⟨middle, second, more, found, rounds, folded⟩ :=
      rounds_sum right (fun later le => operands later (by omega)) rightShallow atRight before
    refine ⟨_, _, _, first, .more faithful sign found rounds, ?_⟩
    rw [Ast.Node.foldedRight, folded]
    rfl

end

/-! ### Operators that read phrases -/

/-- No blanks are left behind a phrase. -/
theorem afterBlanks_behind (faithful : environment.source.Faithful) (lexicon : Lexicon grammar)
    {level : Level} {chars : List Char}
    (reads : environment.source.rest? offset = some (chars ++ rest))
    (before : level.Before rest) :
    Recognition.afterBlanks environment.source grammar (offset + byteCount chars) =
      offset + byteCount chars := by
  rw [afterBlanks_eq faithful lexicon (faithful.rest?_append reads),
    takeWhile_of_stops before.stops_isBlank]
  rfl

section

variable (faithful : environment.source.Faithful) (forgetful : Forgetful environment)
  (lexicon : Lexicon grammar) (room : Room environment grammar (above.length + 1 + 1))

include faithful forgetful lexicon room

omit room in
/-- The token for numbers reads them, with the blanks after them. -/
theorem yields_number_phrase (room : Room environment grammar (chain.length + 1))
    {digits : Digits} {blanks : Blanks}
    (reads : environment.source.rest? offset =
      some ((Phrase.number digits blanks).chars ++ rest)) (before : Level.factor.Before rest) :
    Yields environment grammar chain offset "number"
      (offset + byteCount (Phrase.number digits blanks).chars)
      ((Phrase.number digits blanks).tree environment.source offset) := by
  rw [Phrase.chars, List.append_assoc] at reads
  rw [Phrase.chars, byteCount_append, ← Nat.add_assoc]
  exact yields_number faithful forgetful room lexicon reads before.stops_isBlank
    before.stops_isDigit

/-- An operator for products reads products, if it does not find itself above. -/
theorem reads_products (found : grammar.rule? "mul" = some rule)
    (kind : rule.kind = .operator (productsOf operand)) (free : above.repeats rule offset = false)
    (operands : ∀ later, offset ≤ later →
      Reads environment grammar ((rule, offset) :: above) later operand .factor depth) :
    Reads environment grammar above offset "mul" .product depth := by
  intro phrase rest shallow reads before
  have inner : Room environment grammar (((rule, offset) :: above).length + 1) := room
  have ends : Refuses environment grammar ((rule, offset) :: above)
      (offset + byteCount phrase.chars) "'*'" :=
    refuses_sign forgetful inner lexicon.times (faithful.rest?_append reads)
      (before.not_mem (by decide))
  obtain ⟨middle, first, more, begins, rounds, folded⟩ := rounds_product faithful forgetful lexicon
    inner operands phrase shallow reads (before.imp (by decide)) (Refuses.rounds faithful ends)
  have yields := (Rounds.works faithful kind free begins rounds).yields faithful forgetful found
    (room.mono (Nat.le_succ _))
  have tree_eq : Ast.Node.folded (productsOf operand).associativity "mul" first more =
      phrase.tree environment.source offset := folded
  rwa [afterBlanks_behind faithful lexicon reads before, Grammar.rule?_name found, tree_eq]
    at yields

/-- An operator for sums reads sums, if it does not find itself above. -/
theorem reads_sums (found : grammar.rule? "add" = some rule)
    (kind : rule.kind = .operator (sumsOf operand)) (free : above.repeats rule offset = false)
    (operands : ∀ later, offset ≤ later →
      Reads environment grammar ((rule, offset) :: above) later operand .product depth) :
    Reads environment grammar above offset "add" .sum depth := by
  intro phrase rest shallow reads before
  have inner : Room environment grammar (((rule, offset) :: above).length + 1) := room
  obtain ⟨middle, first, more, begins, rounds, folded⟩ := rounds_sum faithful forgetful lexicon
    inner phrase operands shallow reads before
  have yields := (Rounds.works faithful kind free begins rounds).yields faithful forgetful found
    (room.mono (Nat.le_succ _))
  have tree_eq : Ast.Node.folded (sumsOf operand).associativity "add" first more =
      phrase.tree environment.source offset := folded
  rwa [afterBlanks_behind faithful lexicon reads before, Grammar.rule?_name found, tree_eq]
    at yields

omit room in
/-- A choice reads phrases if it chooses an alternative wherever there is one. -/
theorem reads_of_chooses {level : Level} {choice : ChoiceRule}
    (found : grammar.rule? name = some rule) (kind : rule.kind = .choice choice)
    (plain : choice.wrap = false) (room : Room environment grammar (above.length + 1))
    (chooses : ∀ (phrase : Phrase level) (rest : List Char), phrase.depth ≤ depth →
      environment.source.rest? offset = some (phrase.chars ++ rest) → level.Before rest →
        ∃ alternative, Chooses environment grammar ((rule, offset) :: above) offset
          choice.alternatives alternative (offset + byteCount phrase.chars)
          (phrase.tree environment.source offset)) :
    Reads environment grammar above offset name level depth := by
  intro phrase rest shallow reads before
  obtain ⟨alternative, chooses⟩ := chooses phrase rest shallow reads before
  have yields := (chooses.works faithful kind plain).yields faithful forgetful found room
  rwa [afterBlanks_behind faithful lexicon reads before] at yields

end

end Parse

end Rulebook
