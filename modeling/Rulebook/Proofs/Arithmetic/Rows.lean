/-
This file takes arithmetic expressions as rows: operands with signs between them. A row becomes
a phrase by grouping the products in it. The rows that operators join are rows again, whatever
the signs in them. So all that a rule spans is a row, if its operands are, although the grammar
may span the same row in several ways.
-/

import Rulebook.Proofs.Arithmetic.Lexicon
import Rulebook.Proofs.Derivation.Span

namespace Rulebook

namespace Arithmetic

open Unicode (isBlank isDigit)

/-- A sign between operands. -/
inductive Sign where
  | times
  | plus

def Sign.char : Sign → Char
  | .times => '*'
  | .plus => '+'

/-- A sign, the blanks after it and an operand. -/
structure Link (Operand : Type) where
  sign : Sign
  blanks : Blanks
  operand : Operand

/-- Operands with signs between them. -/
structure Row (Operand : Type) where
  first : Operand
  links : List (Link Operand)

variable {Operand Other : Type} {spell : Operand → List Char}

/-! ### Characters -/

def Link.chars (spell : Operand → List Char) (link : Link Operand) : List Char :=
  link.sign.char :: (link.blanks.chars ++ spell link.operand)

namespace Row

def chars (spell : Operand → List Char) (row : Row Operand) : List Char :=
  spell row.first ++ row.links.flatMap (Link.chars spell)

/-- A row after another one, with a sign between them. -/
def join (row : Row Operand) (sign : Sign) (blanks : Blanks) (next : Row Operand) :
    Row Operand where
  first := row.first
  links := row.links ++ ⟨sign, blanks, next.first⟩ :: next.links

theorem chars_join (row : Row Operand) (sign : Sign) (blanks : Blanks) (next : Row Operand) :
    (row.join sign blanks next).chars spell =
      row.chars spell ++ sign.char :: (blanks.chars ++ next.chars spell) := by
  simp only [chars, join, Link.chars, List.flatMap_append, List.flatMap_cons, List.append_assoc,
    List.cons_append]

/-- The same row with other operands. -/
def map (change : Operand → Other) (row : Row Operand) : Row Other where
  first := change row.first
  links := row.links.map fun link => ⟨link.sign, link.blanks, change link.operand⟩

theorem chars_map {spell : Other → List Char} (change : Operand → Other) (row : Row Operand) :
    (row.map change).chars spell = row.chars (spell ∘ change) := by
  rw [chars, chars, map, List.flatMap_map]
  rfl

end Row

/-! ### Grouping -/

/-- A product that may go on, and what comes after it. Signs for products make it longer, and
signs for sums come between products. -/
def regroup : Phrase .product → List (Link (Phrase .factor)) → Phrase .sum
  | run, [] => .product run
  | run, ⟨.times, blanks, factor⟩ :: rest => regroup (.times run blanks factor) rest
  | run, ⟨.plus, blanks, factor⟩ :: rest => .plus run blanks (regroup (.factor factor) rest)

theorem chars_regroup (run : Phrase .product) (links : List (Link (Phrase .factor))) :
    (regroup run links).chars = run.chars ++ links.flatMap (Link.chars Phrase.chars) := by
  induction run, links using regroup.induct with
  | case1 run => rw [regroup, Phrase.chars, List.flatMap_nil, List.append_nil]
  | case2 run blanks factor rest inductionHypothesis =>
    rw [regroup, inductionHypothesis, Phrase.chars, List.flatMap_cons, Link.chars]
    simp only [Sign.char, List.append_assoc, List.cons_append]
  | case3 run blanks factor rest inductionHypothesis =>
    rw [regroup, Phrase.chars, inductionHypothesis, Phrase.chars, List.flatMap_cons, Link.chars]
    simp only [Sign.char, List.append_assoc, List.cons_append]

theorem depth_regroup_le {depth : Nat} {run : Phrase .product}
    {links : List (Link (Phrase .factor))} (shallow : run.depth ≤ depth)
    (all : ∀ link ∈ links, link.operand.depth ≤ depth) : (regroup run links).depth ≤ depth := by
  induction run, links using regroup.induct with
  | case1 run => exact shallow
  | case2 run blanks factor rest inductionHypothesis =>
    obtain ⟨here, later⟩ := List.forall_mem_cons.mp all
    exact inductionHypothesis (Nat.max_le.mpr ⟨shallow, here⟩) later
  | case3 run blanks factor rest inductionHypothesis =>
    obtain ⟨here, later⟩ := List.forall_mem_cons.mp all
    exact Nat.max_le.mpr ⟨shallow, inductionHypothesis here later⟩

/-- The phrase of a row. -/
def Row.phrase (row : Row (Phrase .factor)) : Phrase .sum :=
  regroup (.factor row.first) row.links

theorem Row.chars_phrase (row : Row (Phrase .factor)) :
    row.phrase.chars = row.chars Phrase.chars :=
  chars_regroup (.factor row.first) row.links

/-! ### Numbers -/

/-- A number with the blanks after it. -/
structure Number where
  digits : Digits
  blanks : Blanks

def Number.chars (number : Number) : List Char :=
  number.digits.chars ++ number.blanks.chars

end Arithmetic

namespace Parse

open Arithmetic
open Pattern (Program)
open Recognition (afterBlanks)
open Unicode (isBlank isDigit)

variable {Operand : Type} {spell : Operand → List Char} {source : Source} {grammar : Grammar}
  {sort first second : List Char → Prop} {start middle stop depth : Nat} {name : String}
  {program : Program}

/-! ### Stretches of text -/

/-- From one offset to another there is text of a sort, and no blanks come after it. -/
def Spelled (source : Source) (sort : List Char → Prop) (start stop : Nat) : Prop :=
  ∃ front back, source.rest? start = some (front ++ back) ∧ stop = start + byteCount front ∧
    sort front ∧ Stops isBlank back

theorem Spelled.imp {wider : List Char → Prop} (spelled : Spelled source sort start stop)
    (implies : ∀ chars, sort chars → wider chars) : Spelled source wider start stop := by
  obtain ⟨front, back, reads, stop_eq, holds, stops⟩ := spelled
  exact ⟨front, back, reads, stop_eq, implies front holds, stops⟩

section

variable (faithful : source.Faithful)
include faithful

theorem Spelled.append (before : Spelled source first start middle)
    (after : Spelled source second middle stop) :
    Spelled source (fun chars => ∃ front back, first front ∧ second back ∧ chars = front ++ back)
      start stop := by
  obtain ⟨front, rest, reads, rfl, holds, -⟩ := before
  obtain ⟨more, back, further, rfl, holds', stops⟩ := after
  rw [faithful.rest?_append reads] at further
  cases further
  refine ⟨front ++ more, back, by rw [reads, List.append_assoc], ?_,
    ⟨front, more, holds, holds', rfl⟩, stops⟩
  rw [byteCount_append, Nat.add_assoc]

/-- No blanks are left to be skipped. -/
theorem Spelled.afterBlanks_eq (lexicon : Lexicon grammar)
    (spelled : Spelled source sort start stop) : afterBlanks source grammar stop = stop := by
  obtain ⟨front, back, reads, rfl, -, stops⟩ := spelled
  rw [Parse.afterBlanks_eq faithful lexicon (faithful.rest?_append reads),
    takeWhile_of_stops stops]
  rfl

/-- Text that reaches the end of the input, from behind the blanks at its beginning. -/
theorem Spelled.whole (lexicon : Lexicon grammar)
    (spelled : Spelled source sort (afterBlanks source grammar 0) stop)
    (ends : source.size ≤ stop) :
    ∃ (lead : Blanks) (chars : List Char), source.chars = lead.chars ++ chars ∧ sort chars := by
  have reads : source.rest? 0 = some source.chars :=
    faithful.rest?_eq_some.mpr ⟨[], rfl, rfl⟩
  let lead : Blanks := ⟨source.chars.takeWhile isBlank, fun _ => List.mem_takeWhile_imp⟩
  have start_eq : afterBlanks source grammar 0 = byteCount lead.chars :=
    (Parse.afterBlanks_eq faithful lexicon reads).trans (Nat.zero_add _)
  have cut : source.chars = lead.chars ++ source.chars.dropWhile isBlank :=
    List.takeWhile_append_dropWhile.symm
  clear_value lead
  rw [start_eq] at spelled
  obtain ⟨front, back, here, rfl, holds, -⟩ := spelled
  obtain ⟨before, cut', count⟩ := faithful.rest?_eq_some.mp here
  have cut : source.chars = lead.chars ++ (front ++ back) := by
    rw [cut', eq_of_byteCount_eq (cut'.symm.trans cut) count]
  rw [faithful.size_eq, cut, byteCount_append, byteCount_append] at ends
  have nothing : back = [] := byteCount_eq_zero.mp (by omega)
  rw [nothing, List.append_nil] at cut
  exact ⟨lead, front, cut, holds⟩

/-! ### Tokens -/

/-- What a token matches, and the blanks after it, is text. -/
theorem spelled_of_token (lexicon : Lexicon grammar) (isToken : grammar.HasToken name program)
    (spans : Spans source grammar depth name start stop) :
    Spelled source (fun chars => ∃ front back, ∃ blanks : Blanks,
      program.matchEnd? (front ++ back) = some (byteCount front) ∧
        chars = front ++ blanks.chars) start stop := by
  obtain ⟨rule, token, found, kind, rfl⟩ := isToken
  cases depth with
  | zero => exact spans.elim
  | succ depth =>
    obtain ⟨other, inner, found', reaches, rfl⟩ := spans
    rw [found] at found'
    cases found'
    rcases reaches with ⟨_, length, isToken, matched, rfl⟩ | ⟨names, admits, -⟩
    · rw [Rule.token?, kind] at isToken
      cases isToken
      obtain ⟨text, reads, matched⟩ := Option.bind_eq_some_iff.mp matched
      obtain ⟨front, back, rfl, rfl⟩ := token.program.matchEnd?_prefix matched
      have behind := faithful.rest?_append reads
      let blanks : Blanks := ⟨back.takeWhile isBlank, fun _ => List.mem_takeWhile_imp⟩
      refine ⟨front ++ blanks.chars, back.dropWhile isBlank, ?_, ?_,
        ⟨front, back, blanks, matched, rfl⟩, stops_dropWhile isBlank back⟩
      · rw [reads, List.append_assoc]
        exact congrArg (some <| front ++ ·) List.takeWhile_append_dropWhile.symm
      · rw [Parse.afterBlanks_eq faithful lexicon behind, byteCount_append, Nat.add_assoc]
    · rw [kind] at admits
      exact admits.elim

theorem spelled_of_sign (lexicon : Lexicon grammar) {sign : Char}
    (isSign : grammar.HasToken name (.oneOf (.single sign)))
    (spans : Spans source grammar depth name start stop) :
    Spelled source (fun chars => ∃ blanks : Blanks, chars = sign :: blanks.chars) start stop := by
  refine (spelled_of_token faithful lexicon isSign spans).imp ?_
  rintro chars ⟨front, back, blanks, matched, rfl⟩
  obtain ⟨c, rfl, same⟩ := Program.exists_of_matchEnd?_oneOf matched
  rw [(Pattern.CharSet.contains_single sign c).mp same]
  exact ⟨blanks, rfl⟩

theorem spelled_of_number (lexicon : Lexicon grammar)
    (spans : Spans source grammar depth "number" start stop) :
    Spelled source (fun chars => ∃ number : Number, chars = number.chars) start stop := by
  refine (spelled_of_token faithful lexicon lexicon.number spans).imp ?_
  rintro chars ⟨front, back, blanks, matched, rfl⟩
  obtain ⟨nonempty, digit⟩ := Program.of_matchEnd?_manyOf matched
  exact ⟨⟨⟨front, nonempty, digit⟩, blanks⟩, rfl⟩

/-! ### Rules -/

/-- What a name spans, looking a number of rules down, is text of a sort. -/
def Spells (source : Source) (grammar : Grammar) (depth : Nat) (name : String)
    (sort : List Char → Prop) : Prop :=
  ∀ start stop, Spans source grammar depth name start stop → Spelled source sort start stop

omit faithful in
/-- Nothing is spanned without looking at a rule. -/
theorem spells_of_succ (spells : ∀ depth, Spells source grammar (depth + 1) name sort)
    (depth : Nat) : Spells source grammar depth name sort := by
  cases depth with
  | zero => exact fun _ _ spans => spans.elim
  | succ depth => exact spells depth

/-- Text that is a row. -/
def IsRow (spell : Operand → List Char) (chars : List Char) : Prop :=
  ∃ row : Row Operand, chars = row.chars spell

/-- A row and rounds of an operator make up a row. -/
theorem spelled_of_asked {operator : OperatorRule} {sign : Sign} (lexicon : Lexicon grammar)
    (isSign : grammar.HasToken operator.operator (.oneOf (.single sign.char)))
    (operands : Spells source grammar depth operator.operand (IsRow spell))
    (row : Spelled source (IsRow spell) start middle) {rounds : Nat}
    (path : Path (Spans source grammar depth) (operator.asked rounds) middle stop) :
    Spelled source (IsRow spell) start stop := by
  induction rounds generalizing middle with
  | zero =>
    rw [path]
    exact row
  | succ rounds inductionHypothesis =>
    obtain ⟨behind, signSpans, further, operandSpans, path⟩ := path
    have signed := spelled_of_sign faithful lexicon isSign signSpans
    refine inductionHypothesis (.imp (.append faithful row (.append faithful signed
      (operands behind further operandSpans))) ?_) path
    rintro _ ⟨_, _, ⟨row, rfl⟩, ⟨_, _, ⟨blanks, rfl⟩, ⟨next, rfl⟩, rfl⟩, rfl⟩
    exact ⟨row.join sign blanks next, (Row.chars_join row sign blanks next).symm⟩

omit faithful in
/-- A rule that is no token reaches where the names that it admits lead. -/
theorem path_of_spans {rule : Rule} (found : grammar.rule? name = some rule)
    (other : rule.token? = none) (spans : Spans source grammar (depth + 1) name start stop) :
    ∃ names inner, rule.kind.Admits names ∧ Path (Spans source grammar depth) names start inner ∧
      stop = afterBlanks source grammar inner := by
  obtain ⟨rule', inner, found', reaches, stop_eq⟩ := spans
  rw [found] at found'
  cases found'
  rcases reaches with ⟨token, length, isToken, -⟩ | ⟨names, admits, path⟩
  · rw [isToken] at other
    cases other
  · exact ⟨names, inner, admits, path, stop_eq⟩

section

variable (lexicon : Lexicon grammar) {rule : Rule} (found : grammar.rule? name = some rule)
include lexicon found

/-- What a choice spans is text of a sort if all of its alternatives are. -/
theorem spells_of_choice {choice : ChoiceRule} (kind : rule.kind = .choice choice)
    (alternatives : ∀ alternative ∈ choice.alternatives,
      Spells source grammar depth alternative sort) :
    Spells source grammar (depth + 1) name sort := by
  intro start stop spans
  obtain ⟨names, inner, admits, path, rfl⟩ :=
    path_of_spans found (by rw [Rule.token?, kind]) spans
  rw [kind] at admits
  obtain ⟨alternative, member, rfl⟩ := admits
  obtain ⟨middle, spanned, rfl⟩ := path
  have spelled := alternatives alternative member start inner spanned
  rwa [spelled.afterBlanks_eq faithful lexicon]

/-- What an operator spans is a row if its operands are. -/
theorem spells_of_operator {operator : OperatorRule} (kind : rule.kind = .operator operator)
    (sign : Sign)
    (isSign : grammar.HasToken operator.operator (.oneOf (.single sign.char)))
    (operands : Spells source grammar depth operator.operand (IsRow spell)) :
    Spells source grammar (depth + 1) name (IsRow spell) := by
  intro start stop spans
  obtain ⟨names, inner, admits, path, rfl⟩ :=
    path_of_spans found (by rw [Rule.token?, kind]) spans
  rw [kind] at admits
  obtain ⟨rounds, rfl⟩ := admits
  obtain ⟨middle, operand, path⟩ := path
  have spelled := spelled_of_asked faithful lexicon isSign operands
    (operands start middle operand) path
  rwa [spelled.afterBlanks_eq faithful lexicon]

end

end

end Parse

end Rulebook
