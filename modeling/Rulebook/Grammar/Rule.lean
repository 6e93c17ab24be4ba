/-
This file holds the rules of a grammar. A rule is a name, the grammar it was declared in
and one of seven kinds. Kinds refer to other rules by name only, so rules can be declared in
any order and may refer to rules that do not exist.

A rule also carries the edition of its declaration. Copies of a grammar share their rules;
two rules are the same declaration exactly when they agree in name and edition.
-/

import Rulebook.Pattern.Search
import Rulebook.Text.Source

namespace Rulebook

open Pattern (Program)

/-- A token: text that matches a pattern. -/
structure TokenRule where
  /-- The pattern as it was declared. -/
  pattern : String
  /-- The pattern, ready to be searched for. -/
  program : Program
  /-- The token is skipped between rules and never reaches the syntax tree. -/
  whitespace : Bool
  /-- The literal that the token was made from, if it is a keyword. -/
  literal : Option String
  deriving Inhabited

/-- The length in bytes of the token at an offset of a text. -/
def TokenRule.matchAt? (token : TokenRule) (source : Source) (offset : Nat) : Option Nat :=
  (source.rest? offset).bind token.program.matchEnd?

/-- A token made from a literal. -/
def TokenRule.isKeyword (token : TokenRule) : Bool :=
  token.literal.isSome

/-- One element of a sequence. -/
structure SequenceItem where
  rule : String
  /-- The sequence fails without this element. -/
  required : Bool := true
  /-- The name under which the element is found on the node of the sequence. -/
  accessor : Option String := none
  deriving DecidableEq, Repr

/-- An ordered choice. -/
structure ChoiceRule where
  alternatives : List String
  /-- The chosen alternative becomes the child of a node named after the choice. -/
  wrap : Bool
  deriving DecidableEq, Repr

/-- A repetition of one item, with optional delimiters and separators. -/
structure ListRule where
  item : String
  separator : Option String := none
  opening : Option String := none
  closing : Option String := none
  /-- No item at all is acceptable. -/
  nullable : Bool := false
  /-- A separator may stand after the last item. -/
  allowTrailing : Bool := false
  deriving DecidableEq, Repr

/-- Some items in any order, each at most once. -/
structure SetRule where
  items : List String
  separator : Option String := none
  opening : Option String := none
  closing : Option String := none
  deriving DecidableEq, Repr

/-- The side to which a chain of operators is folded. -/
inductive Associativity where
  | left
  | right
  deriving DecidableEq, Repr

/-- Operands with operators between them. -/
structure OperatorRule where
  associativity : Associativity
  operator : String
  operand : String
  deriving DecidableEq, Repr

/-- A rule of another grammar. -/
structure ImportRule where
  grammar : String
  rule : String
  /-- The imported node becomes the child of a node named after the import. -/
  wrap : Bool
  deriving DecidableEq, Repr

/-- The seven kinds of rules. -/
inductive RuleKind where
  | token (rule : TokenRule)
  | sequence (items : List SequenceItem)
  | choice (rule : ChoiceRule)
  | list (rule : ListRule)
  | set (rule : SetRule)
  | operator (rule : OperatorRule)
  | imported (rule : ImportRule)
  deriving Inhabited

/-- The name of a kind. -/
def RuleKind.label : RuleKind → String
  | .token _ => "token"
  | .sequence _ => "sequence"
  | .choice _ => "choice"
  | .list _ => "list"
  | .set _ => "set"
  | .operator _ => "operator"
  | .imported _ => "import"

/-- A named rule. -/
structure Rule where
  /-- The name of the rule and of the nodes it produces. -/
  name : String
  /-- The grammar in which the rule was declared. -/
  grammar : String
  /-- The edition of the declaration. -/
  edition : Nat
  kind : RuleKind
  deriving Inhabited

namespace Rule

/-- Two rules are the same declaration. -/
def same (left right : Rule) : Bool :=
  left.name == right.name && left.edition == right.edition

/-- The token that a rule declares, if it declares one. -/
def token? (rule : Rule) : Option TokenRule :=
  match rule.kind with
  | .token token => some token
  | _ => none

/-- The rule declares a token. -/
def isToken (rule : Rule) : Bool :=
  rule.token?.isSome

/-- The rule declares a token that is skipped between rules. -/
def isWhitespace (rule : Rule) : Bool :=
  rule.token?.any (·.whitespace)

/-- The rule declares a keyword. -/
def isKeyword (rule : Rule) : Bool :=
  rule.token?.any (·.isKeyword)

/-- A rule that others share becomes a declaration of its own, in a new edition. -/
def renew (shared : Rule → Bool) (edition : Nat) (rule : Rule) : Rule :=
  if shared rule then { rule with edition } else rule

end Rule

end Rulebook
