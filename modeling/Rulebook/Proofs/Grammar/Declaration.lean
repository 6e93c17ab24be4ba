/-
This file says what a declaration does that is not refused: the name is new, and the pattern of
a token can be compiled. Declarations one after another then give a grammar that can be written
down.
-/

import Rulebook.Grammar.Basic

namespace Rulebook

open Pattern (Program)

/-- The token of a keyword. -/
def TokenRule.ofKeyword (literal : String) (program : Program) : TokenRule where
  pattern := Grammar.literalPattern literal
  program := program
  whitespace := false
  literal := some literal

namespace Grammar

/-- The grammar with one more rule. -/
def withRule (grammar : Grammar) (name : String) (kind : RuleKind) : Grammar :=
  { grammar with rules := grammar.rules ++ [⟨name, grammar.name, grammar.edition, kind⟩] }

/-- The grammar with one more token. -/
def withToken (grammar : Grammar) (name : String) (token : TokenRule) : Grammar :=
  { grammar.withRule name (.token token) with
    tokenPatterns := (token.pattern, name) :: grammar.tokenPatterns
    whitespace := if token.whitespace then grammar.whitespace ++ [name]
      else grammar.whitespace }

variable {Value Result : Type} {grammar next : Grammar} {compile : Compiler}
  {name pattern literal : String} {program : Program}

/-- A token is found under its name, if no other rule had the name. -/
theorem rule?_withToken (fresh : grammar.contains name = false) (token : TokenRule) :
    (grammar.withToken name token).rule? name =
      some ⟨name, grammar.name, grammar.edition, .token token⟩ := by
  have none : grammar.rule? name = none := Option.not_isSome_iff_eq_none.mp (by
    rw [contains] at fresh
    rw [fresh]
    exact Bool.false_ne_true)
  rw [rule?] at none ⊢
  rw [withToken, withRule, List.find?_append, none, Option.none_or]
  exact List.find?_cons_of_pos (beq_self_eq_true name)

/-- After a declaration that is not refused the next one is made. -/
theorem bind_of_ok {first : Construction Value} {second : Value → Construction Result}
    {value : Value} (done : first grammar = .ok value next) :
    (first >>= second) grammar = second value next := by
  show EStateM.bind first second grammar = _
  rw [EStateM.bind, done]

theorem get_eq (grammar : Grammar) :
    (get : Construction Grammar) grammar = .ok grammar grammar :=
  rfl

theorem setDepthLimit_eq (limit : Nat) (grammar : Grammar) :
    setDepthLimit limit grammar = .ok () { grammar with depthLimit := some limit } :=
  rfl

theorem ensureUnique_of_fresh (fresh : grammar.contains name = false) :
    ensureUnique name grammar = .ok () grammar := by
  rw [ensureUnique, bind_of_ok (get_eq grammar), fresh]
  rfl

theorem compiled_of_compiles (known : compile pattern grammar.caseInsensitive = some program) :
    compiled compile name pattern grammar = .ok program grammar := by
  rw [compiled, bind_of_ok (get_eq grammar), compileToken, known]
  rfl

theorem addRule_of_fresh (fresh : grammar.contains name = false) (kind : RuleKind) :
    addRule name kind grammar = .ok name (grammar.withRule name kind) := by
  rw [addRule, bind_of_ok (ensureUnique_of_fresh fresh)]
  rfl

theorem insertToken_of_fresh (fresh : grammar.contains name = false) (token : TokenRule) :
    insertToken name token grammar = .ok name (grammar.withToken name token) := by
  have still : ({ grammar with
      tokenPatterns := (token.pattern, name) :: grammar.tokenPatterns
      whitespace := if token.whitespace then grammar.whitespace ++ [name]
        else grammar.whitespace } : Grammar).contains name = false := fresh
  rw [insertToken, bind_of_ok (ensureUnique_of_fresh fresh)]
  exact addRule_of_fresh still (.token token)

theorem addToken_of_fresh (fresh : grammar.contains name = false)
    (known : compile pattern grammar.caseInsensitive = some program) (whitespace : Bool) :
    addToken compile name pattern whitespace grammar = .ok name
      (grammar.withToken name { pattern, program, whitespace, literal := none }) := by
  rw [addToken, bind_of_ok (ensureUnique_of_fresh fresh), bind_of_ok (compiled_of_compiles known)]
  exact insertToken_of_fresh fresh _

theorem addKeyword_of_fresh (unused : grammar.tokenPatterns.lookup (literalPattern literal) = none)
    (fresh : grammar.contains ("'" ++ literal ++ "'") = false)
    (known : compile (literalPattern literal) grammar.caseInsensitive = some program) :
    addKeyword compile literal grammar = .ok ("'" ++ literal ++ "'")
      (grammar.withToken ("'" ++ literal ++ "'") (.ofKeyword literal program)) := by
  rw [addKeyword, bind_of_ok (get_eq grammar)]
  dsimp only
  rw [unused]
  dsimp only
  rw [bind_of_ok (ensureUnique_of_fresh fresh), bind_of_ok (compiled_of_compiles known)]
  exact insertToken_of_fresh fresh _

theorem addSequence_of_fresh (fresh : grammar.contains name = false) (items : List SequenceItem) :
    addSequence name items grammar = .ok name (grammar.withRule name (.sequence items)) :=
  addRule_of_fresh fresh _

theorem addChoice_of_fresh (fresh : grammar.contains name = false) (alternatives : List String)
    (wrap : Bool) : addChoice name alternatives wrap grammar =
      .ok name (grammar.withRule name (.choice { alternatives, wrap })) :=
  addRule_of_fresh fresh _

theorem addOperator_of_fresh (fresh : grammar.contains name = false)
    (associativity : Associativity) (operator operand : String) :
    addOperator name associativity operator operand grammar =
      .ok name (grammar.withRule name (.operator { associativity, operator, operand })) :=
  addRule_of_fresh fresh _

end Grammar

end Rulebook
