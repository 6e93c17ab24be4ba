/-
This file goes from the start rule of an arithmetic grammar to whole inputs. If the start rule
reads sums, then every sum with blanks before it is parsed; and if all that the start rule spans
is text of a sort, then so is every input that is parsed, but for the blanks before it.
-/

import Rulebook.Proofs.Arithmetic.Operators
import Rulebook.Proofs.Arithmetic.Rows
import Rulebook.Proofs.Derivation.Whole
import Rulebook.Proofs.Grammar.Declaration
import Rulebook.Workspace

namespace Rulebook

/-! ### Patterns -/

namespace Arithmetic

open Grammar (literalPattern)

set_option maxRecDepth 4000

theorem compile_blanks : Workspace.compile "\\s+" false = some (.manyOf .blank) := rfl

theorem compile_digits : Workspace.compile "\\d+" false = some (.manyOf .digit) := rfl

theorem compile_times :
    Workspace.compile (literalPattern "*") false = some (.oneOf (.single '*')) := rfl

theorem compile_plus :
    Workspace.compile (literalPattern "+") false = some (.oneOf (.single '+')) := rfl

theorem compile_opening :
    Workspace.compile (literalPattern "(") false = some (.oneOf (.single '(')) := rfl

theorem compile_closing :
    Workspace.compile (literalPattern ")") false = some (.oneOf (.single ')')) := rfl

/-- The token for blanks. -/
def blanksToken : TokenRule :=
  { pattern := "\\s+", program := .manyOf .blank, whitespace := true, literal := none }

/-- The token for numbers. -/
def numberToken : TokenRule :=
  { pattern := "\\d+", program := .manyOf .digit, whitespace := false, literal := none }

/-- The token for a sign. -/
def signToken (sign : Char) : TokenRule :=
  .ofKeyword (String.singleton sign) (.oneOf (.single sign))

end Arithmetic

/-! ### Whole inputs -/

namespace Parse

open Arithmetic
open Filter (atTop)
open Recognition (afterBlanks)

variable {environment : Environment} {grammar : Grammar} {start : String} {depth : Nat}
  (own : grammar.SelfContained start) (lexicon : Lexicon grammar)
  (faithful : environment.source.Faithful)

include own lexicon faithful

/-- A sum that makes up the input, after some blanks, is parsed. -/
theorem Reads.parsed
    (reads : ∀ offset, Reads environment.plain grammar [] offset start .sum depth)
    {lead : Blanks} {phrase : Phrase .sum} (shallow : phrase.depth ≤ depth)
    (cut : environment.source.chars = lead.chars ++ phrase.chars) :
    ∀ᶠ fuel in atTop, ∃ result, (run environment fuel grammar none).answer = .parsed result ∧
      result.toAst.bare = phrase.tree environment.source (byteCount lead.chars) := by
  rw [← List.append_nil phrase.chars] at cut
  have whole : environment.source.rest? 0 = some (lead.chars ++ (phrase.chars ++ [])) :=
    faithful.rest?_eq_some.mpr ⟨[], cut, rfl⟩
  have start_eq : afterBlanks environment.source grammar 0 = 0 + byteCount lead.chars := by
    rw [afterBlanks_eq faithful lexicon whole,
      takeWhile_append_of_stops lead.blank (phrase.stops_isBlank [])]
  have behind := faithful.rest?_append whole
  have yields := reads _ phrase [] shallow behind (Level.before_nil _)
  rw [← start_eq] at yields
  have size_eq : environment.source.size = 0 + byteCount lead.chars + byteCount phrase.chars := by
    rw [faithful.size_eq, cut, byteCount_append, List.append_nil, Nat.zero_add]
  filter_upwards [Yields.parsed own faithful yields (by rw [start_eq]; exact Nat.le_of_eq size_eq)]
    with fuel holds
  obtain ⟨result, parsed, bare_eq⟩ := holds
  refine ⟨result, parsed, ?_⟩
  rw [bare_eq, start_eq, Nat.zero_add]
  rfl

/-- What is parsed is text of the sort that the start rule spans, after some blanks. -/
theorem exists_of_spells {sort : List Char → Prop}
    (spells : ∀ depth, Spells environment.source grammar depth start sort)
    {fuel : Nat} {result : ParseTree}
    (parsed : (run environment fuel grammar none).answer = .parsed result) :
    ∃ (lead : Blanks) (chars : List Char),
      environment.source.chars = lead.chars ++ chars ∧ sort chars := by
  obtain ⟨depth, stop, ends, spans⟩ := spans_of_parsed own faithful parsed
  exact (spells depth _ stop spans).whole faithful lexicon ends

end Parse

end Rulebook
