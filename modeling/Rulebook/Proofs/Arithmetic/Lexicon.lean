/-
This file says what the tokens of an arithmetic grammar do: numbers are as long as they can be,
signs are single characters, and the blanks after either of them are skipped. What stops a token
is the first character behind it, so each statement is about a text that goes on from an offset.
-/

import Rulebook.Proofs.Arithmetic.Phrase
import Rulebook.Proofs.Derivation.Course
import Rulebook.Proofs.Inlining.Counterpart
import Rulebook.Proofs.Pattern.Lexeme

namespace Rulebook

open Pattern (Program)
open Unicode (isBlank isDigit)

/-- What goes on after some characters of a text. -/
theorem Source.Faithful.rest?_append {source : Source} (faithful : source.Faithful)
    {offset : Nat} {front back : List Char}
    (reads : source.rest? offset = some (front ++ back)) :
    source.rest? (offset + byteCount front) = some back := by
  obtain ⟨before, cut, rfl⟩ := faithful.rest?_eq_some.mp reads
  exact faithful.rest?_eq_some.mpr
    ⟨before ++ front, by rw [cut, List.append_assoc], byteCount_append before front⟩

theorem Source.Faithful.rest?_cons {source : Source} (faithful : source.Faithful)
    {offset : Nat} {c : Char} {back : List Char} (size_eq : c.utf8Size = 1)
    (reads : source.rest? offset = some (c :: back)) :
    source.rest? (offset + 1) = some back := by
  have one : byteCount [c] = 1 := size_eq
  rw [← one]
  exact faithful.rest?_append reads

/-- A token of a grammar, with its program. -/
def Grammar.HasToken (grammar : Grammar) (name : String) (program : Program) : Prop :=
  ∃ rule token, grammar.rule? name = some rule ∧ rule.kind = .token token ∧
    token.program = program

namespace Arithmetic

/-! ### Where characters stop -/

/-- A text does not go on with a character of this sort. -/
def Stops (test : Char → Bool) (text : List Char) : Prop :=
  ∀ c ∈ text.head?, test c = false

variable {test : Char → Bool} {front text rest : List Char}

theorem stops_cons {c : Char} (other : test c = false) (rest : List Char) :
    Stops test (c :: rest) := by
  rintro _ ⟨⟩
  exact other

theorem takeWhile_of_stops (stops : Stops test text) : text.takeWhile test = [] := by
  cases text with
  | nil => rfl
  | cons c rest => exact List.takeWhile_cons_of_neg (Bool.not_eq_true _ ▸ stops c rfl)

theorem takeWhile_append_of_stops (all : ∀ c ∈ front, test c = true) (stops : Stops test text) :
    (front ++ text).takeWhile test = front := by
  rw [List.takeWhile_append_of_pos all, takeWhile_of_stops stops, List.append_nil]

theorem stops_dropWhile (test : Char → Bool) (text : List Char) :
    Stops test (text.dropWhile test) := by
  intro c member
  have dropped := List.head?_dropWhile_not test text
  rw [Option.mem_def] at member
  rw [member] at dropped
  simpa using dropped

/-- Blanks come to an end before a phrase. -/
theorem Phrase.stops_isBlank {level : Level} (phrase : Phrase level) (rest : List Char) :
    Stops isBlank (phrase.chars ++ rest) := by
  obtain ⟨c, chars, equal, begins⟩ := phrase.exists_head
  rw [equal]
  refine stops_cons ?_ _
  rcases begins with digit | rfl
  · refine Bool.eq_false_iff.mpr fun blank => ?_
    rw [isDigit_of_isBlank blank] at digit
    cases digit
  · decide

/-! ### The tokens of a grammar -/

/-- A grammar that knows numbers and signs, with blanks between them. -/
structure Lexicon (grammar : Grammar) : Prop where
  enabled : grammar.whitespaceDisabled = false
  whitespace_eq : grammar.whitespace = ["whitespace"]
  blank : grammar.HasToken "whitespace" (.manyOf .blank)
  number : grammar.HasToken "number" (.manyOf .digit)
  times : grammar.HasToken "'*'" (.oneOf (.single '*'))
  plus : grammar.HasToken "'+'" (.oneOf (.single '+'))

end Arithmetic

namespace Parse

open Arithmetic
open Recognition (afterBlanks blanksWithin blankAt?)

variable {environment : Environment} {grammar : Grammar} {chain : Grammar.Chain}
  {offset : Nat} {name : String} {program : Program} {chars text rest : List Char} {sign : Char}
  (faithful : environment.source.Faithful)

/-- All blanks are skipped at once, and then there are none left. -/
theorem afterBlanks_eq {source : Source} (faithful : source.Faithful) (lexicon : Lexicon grammar)
    (reads : source.rest? offset = some text) :
    afterBlanks source grammar offset = offset + byteCount (text.takeWhile isBlank) := by
  obtain ⟨rule, token, found, kind, program_eq⟩ := lexicon.blank
  have tokens_eq : grammar.whitespaceTokens = [rule] := by
    rw [Grammar.whitespaceTokens, lexicon.whitespace_eq, List.filterMap_cons, found]
    rfl
  have isToken : rule.token? = some token := by rw [Rule.token?, kind]
  have matchAt?_eq : ∀ {offset text}, source.rest? offset = some text →
      rule.token?.bind (·.matchAt? source offset) =
        if text.takeWhile isBlank = [] then none
        else some (byteCount (text.takeWhile isBlank)) := by
    intro offset text reads
    rw [isToken, Option.bind_some, TokenRule.matchAt?, reads, program_eq]
    exact Program.matchEnd?_manyOf .blank text
  have stays : ∀ {offset text}, source.rest? offset = some text →
      Stops isBlank text → ∀ rounds,
        blanksWithin source [rule] rounds offset = offset := by
    intro offset text reads stops rounds
    cases rounds with
    | zero => rfl
    | succ rounds =>
      rw [blanksWithin, blankAt?, matchAt?_eq reads, if_pos (takeWhile_of_stops stops)]
      rfl
  rw [afterBlanks, lexicon.enabled, tokens_eq]
  by_cases none : text.takeWhile isBlank = []
  · have stops : Stops isBlank text := by
      have dropped := stops_dropWhile isBlank text
      rwa [← List.nil_append (text.dropWhile isBlank), ← none,
        List.takeWhile_append_dropWhile] at dropped
    rw [none]
    exact stays reads stops _
  · obtain ⟨length, length_eq⟩ : ∃ length, byteCount (text.takeWhile isBlank) = length + 1 :=
      Nat.exists_eq_succ_of_ne_zero fun zero => none (byteCount_eq_zero.mp zero)
    rw [← List.takeWhile_append_dropWhile (p := isBlank) (l := text)] at reads
    have behind := faithful.rest?_append reads
    rw [List.takeWhile_append_dropWhile] at reads
    rw [if_neg Bool.false_ne_true, blanksWithin, blankAt?, matchAt?_eq reads, if_neg none,
      length_eq]
    rw [length_eq] at behind
    exact stays behind (stops_dropWhile isBlank text) _

section

variable (forgetful : Forgetful environment) (lexicon : Lexicon grammar)
  (isToken : grammar.HasToken name program)
  (room : Room environment grammar (chain.length + 1))

include faithful forgetful isToken room

/-- A token that matches is found, with the blanks after it. -/
theorem yields_token (lexicon : Lexicon grammar) {blanks : Blanks}
    (reads : environment.source.rest? offset = some (chars ++ (blanks.chars ++ rest)))
    (matched : program.matchEnd? (chars ++ (blanks.chars ++ rest)) = some (byteCount chars))
    (stops : Stops isBlank rest) :
    Yields environment grammar chain offset name
      (offset + byteCount chars + byteCount blanks.chars)
      (.leaf environment.source name offset chars) := by
  obtain ⟨rule, token, found, kind, program_eq⟩ := isToken
  have works : Works environment grammar chain offset rule (offset + byteCount chars)
      (.leaf environment.source rule.name offset chars) := by
    refine works_token faithful kind reads ?_
    rw [TokenRule.matchAt?, reads, program_eq]
    exact matched
  have yields := works.yields faithful forgetful found room
  rwa [afterBlanks_eq faithful lexicon (faithful.rest?_append reads),
    takeWhile_append_of_stops blanks.blank stops, Grammar.rule?_name found] at yields

omit faithful in
/-- A token that does not match is not found. -/
theorem refuses_token (reads : environment.source.rest? offset = some text)
    (unmatched : program.matchEnd? text = none) :
    Refuses environment grammar chain offset name := by
  obtain ⟨rule, token, found, kind, program_eq⟩ := isToken
  refine Declines.refuses forgetful (declines_token kind ?_) found room
  rw [TokenRule.matchAt?, reads, program_eq]
  exact unmatched

end

/-! ### Signs and numbers -/

section

variable (forgetful : Forgetful environment)
  (room : Room environment grammar (chain.length + 1))

include forgetful room

omit faithful in
/-- A sign is not found where another character stands. -/
theorem refuses_sign (isSign : grammar.HasToken name (.oneOf (.single sign)))
    (reads : environment.source.rest? offset = some text) (other : sign ∉ text.head?) :
    Refuses environment grammar chain offset name := by
  refine refuses_token forgetful isSign room reads ?_
  rw [Program.matchEnd?_oneOf]
  cases text with
  | nil => rfl
  | cons c rest =>
    refine if_neg fun same => other ?_
    rw [(Pattern.CharSet.contains_single sign c).mp same]
    rfl

omit faithful in
/-- A number is not found where no digit stands. -/
theorem refuses_number (lexicon : Lexicon grammar)
    (reads : environment.source.rest? offset = some text) (stops : Stops isDigit text) :
    Refuses environment grammar chain offset "number" := by
  refine refuses_token forgetful lexicon.number room reads ?_
  rw [Program.matchEnd?_manyOf]
  exact if_pos (takeWhile_of_stops stops)

include faithful

/-- A sign is found with the blanks after it. -/
theorem yields_sign (isSign : grammar.HasToken name (.oneOf (.single sign)))
    (lexicon : Lexicon grammar) (size_eq : sign.utf8Size = 1) {blanks : Blanks}
    (reads : environment.source.rest? offset = some (sign :: (blanks.chars ++ rest)))
    (stops : Stops isBlank rest) :
    Yields environment grammar chain offset name (offset + 1 + byteCount blanks.chars)
      (.leaf environment.source name offset [sign]) := by
  have one : byteCount [sign] = 1 := size_eq
  have split : environment.source.rest? offset = some ([sign] ++ (blanks.chars ++ rest)) := reads
  have yields := yields_token faithful forgetful isSign room lexicon split
  rw [one] at yields
  refine yields ?_ stops
  rw [Program.matchEnd?_oneOf, ← size_eq]
  exact if_pos ((Pattern.CharSet.contains_single sign sign).mpr rfl)

/-- A number is found with the blanks after it. -/
theorem yields_number (lexicon : Lexicon grammar) {digits : Digits} {blanks : Blanks}
    (reads : environment.source.rest? offset =
      some (digits.chars ++ (blanks.chars ++ rest)))
    (stopsBlank : Stops isBlank rest) (stopsDigit : Stops isDigit rest) :
    Yields environment grammar chain offset "number"
      (offset + byteCount digits.chars + byteCount blanks.chars)
      (.leaf environment.source "number" offset digits.chars) := by
  refine yields_token faithful forgetful lexicon.number room lexicon reads ?_ stopsBlank
  have ends : Stops isDigit (blanks.chars ++ rest) := by
    cases blank : blanks.chars with
    | nil => exact stopsDigit
    | cons c others =>
      exact stops_cons (isDigit_of_isBlank (blanks.blank c (blank ▸ List.mem_cons_self))) _
  have digits_eq : (digits.chars ++ (blanks.chars ++ rest)).takeWhile
      Pattern.CharSet.digit.contains = digits.chars :=
    takeWhile_append_of_stops digits.digit ends
  rw [Program.matchEnd?_manyOf, digits_eq, if_neg digits.nonempty]

end

end Parse

end Rulebook
