/-
This file shows that quoted texts keep what is put into them. Whatever text is written between
quotation marks, with escapes for the characters that have them, the token of these marks takes
what was written and nothing that follows, and the value of it is the text again.

Both need to know where a quoted text ends. The program of the token finds the first mark that no
backslash stands before; the value takes the last character. An escaped text has no mark of its own
without a backslash, so they agree.
-/

import Mathlib.Data.List.Induction
import Rulebook.Ast.Value
import Rulebook.Proofs.Grammar.Declaration
import Rulebook.Proofs.Pattern.Quoting
import Rulebook.Workspace

namespace Rulebook

/-! ### Escapes -/

namespace Text

/-- What is written behind a backslash for a character that is escaped. -/
def letter? : Char → Option Char
  | '\x08' => some 'b'
  | '\t' => some 't'
  | '\n' => some 'n'
  | '\x0c' => some 'f'
  | '\r' => some 'r'
  | '\\' => some '\\'
  | '\'' => some '\''
  | '"' => some '"'
  | _ => none

/-- Write some characters with escapes. -/
def escapeChars : List Char → List Char
  | [] => []
  | c :: rest =>
    match letter? c with
    | some letter => '\\' :: letter :: escapeChars rest
    | none => c :: escapeChars rest

variable {c letter : Char}

theorem escaped?_of_letter? (known : letter? c = some letter) : escaped? letter = some c := by
  rw [letter?.eq_def] at known
  split at known <;> cases known <;> rfl

/-- What can complete an escape. -/
def letters : List Char :=
  "btnfr\"'\\".toList

theorem mem_letters_of_letter? (known : letter? c = some letter) : letter ∈ letters := by
  rw [letter?.eq_def] at known
  split at known <;> cases known <;> decide

theorem letter?_signs : ∀ c ∈ ['"', '\'', '\\'], letter? c ≠ none := by
  rw [List.forall_mem_cons, List.forall_mem_cons, List.forall_mem_singleton]
  decide

theorem unescapeChars_cons (other : c ≠ '\\') (rest : List Char) :
    unescapeChars (c :: rest) = c :: unescapeChars rest := by
  rw [unescapeChars.eq_4]
  · rintro rfl
    exact absurd rfl other
  · rintro _ _ rfl
    exact absurd rfl other

/-- Resolving escapes undoes writing them. -/
theorem unescapeChars_escapeChars (chars : List Char) :
    unescapeChars (escapeChars chars) = chars := by
  induction chars with
  | nil => rfl
  | cons c rest inductionHypothesis =>
    rw [escapeChars]
    split
    · rename_i letter known
      rw [unescapeChars, escaped?_of_letter? known]
      dsimp only
      rw [inductionHypothesis]
    · rename_i plain
      have other : c ≠ '\\' := by
        rintro rfl
        cases plain
      rw [unescapeChars_cons other, inductionHypothesis]

end Text

/-! ### Quotation marks -/

open Pattern (CharSet Quoting)

/-- The marks between which quoted texts stand. -/
inductive Quote where
  | single
  | double
  deriving DecidableEq, Repr

namespace Quote

/-- The mark itself. -/
def mark : Quote → Char
  | single => '\''
  | double => '"'

/-- The ready-made token of the texts between these marks. -/
def builtin : Quote → Builtin
  | single => .singleQuotedString
  | double => .doubleQuotedString

/-- A text between quotation marks, with escapes for the characters that have them. -/
def enclose (quote : Quote) (text : String) : String :=
  String.ofList (quote.mark :: Text.escapeChars text.toList ++ [quote.mark])

theorem toList_enclose (quote : Quote) (text : String) :
    (quote.enclose text).toList = quote.mark :: Text.escapeChars text.toList ++ [quote.mark] :=
  String.toList_ofList

theorem mark_mem (quote : Quote) : quote.mark ∈ ['"', '\'', '\\'] := by
  cases quote <;> decide

theorem mark_ne_backslash (quote : Quote) : quote.mark ≠ '\\' := by
  cases quote <;> decide

/-! ### The token of quoted texts -/

/-- The set of some characters, in the order in which brackets add them. -/
def members (chars : List Char) : CharSet :=
  chars.foldl (fun set c => .union set (.single c)) .none

theorem contains_members (chars : List Char) (c : Char) :
    (members chars).contains c = true ↔ c ∈ chars := by
  induction chars using List.reverseRecOn with
  | nil => simp [members]
  | append_singleton chars d inductionHypothesis =>
    rw [members, List.foldl_append, ← members]
    show ((members chars).contains c || (CharSet.single d).contains c) = true ↔ _
    rw [Bool.or_eq_true, inductionHypothesis, CharSet.contains_single, List.mem_append,
      List.mem_singleton]

/-- The sets of characters in the pattern of the token. -/
def signs (quote : Quote) (ignoreCase : Bool) : Quoting where
  quote := (CharSet.single quote.mark).foldedIf ignoreCase .wide
  plain := .complement ((members ['\\', quote.mark]).foldedIf ignoreCase .wide)
  backslash := (CharSet.single '\\').foldedIf ignoreCase .wide
  escapes := (members Text.letters).foldedIf ignoreCase .wide

section

variable (quote : Quote) (ignoreCase : Bool) (c : Char)

set_option maxRecDepth 4000 in
/-- The pattern of the token is one whose program is known. -/
theorem compile_pattern :
    Workspace.compile quote.builtin.pattern ignoreCase = some (quote.signs ignoreCase).program := by
  cases quote <;> cases ignoreCase <;> rfl

theorem contains_quote : (quote.signs ignoreCase).quote.contains c = true ↔ c = quote.mark :=
  CharSet.contains_single_foldedIf quote.mark_mem ignoreCase c

theorem contains_backslash :
    (quote.signs ignoreCase).backslash.contains c = true ↔ c = '\\' :=
  CharSet.contains_single_foldedIf (by decide) ignoreCase c

theorem contains_plain :
    (quote.signs ignoreCase).plain.contains c = true ↔ c ≠ '\\' ∧ c ≠ quote.mark := by
  have signs : ∀ d, (members ['\\', quote.mark]).contains d = true → d ∈ ['"', '\'', '\\'] := by
    intro d contained
    rcases List.mem_cons.mp ((contains_members _ _).mp contained) with rfl | isMark
    · decide
    · exact List.mem_singleton.mp isMark ▸ quote.mark_mem
  rw [Quote.signs, CharSet.contains_complement, CharSet.contains_foldedIf signs, Bool.not_eq_true',
    ← Bool.not_eq_true, contains_members, List.mem_cons, List.mem_singleton, not_or]

theorem contains_escapes : ∀ letter ∈ Text.letters,
    (quote.signs ignoreCase).escapes.contains letter = true := by
  cases ignoreCase with
  | false => exact fun letter member => (contains_members _ _).mpr member
  | true =>
    show ∀ letter ∈ Text.letters,
      (CharSet.anyCase .wide (members Text.letters)).contains letter = true
    exact List.all_eq_true.mp (by decide +kernel)

theorem apart_signs : (quote.signs ignoreCase).Apart where
  plain_backslash c isPlain begins :=
    ((contains_plain quote ignoreCase c).mp isPlain).1
      ((contains_backslash quote ignoreCase c).mp begins)
  plain_quote c isPlain closes :=
    ((contains_plain quote ignoreCase c).mp isPlain).2
      ((contains_quote quote ignoreCase c).mp closes)
  backslash_quote c begins closes :=
    quote.mark_ne_backslash (((contains_quote quote ignoreCase c).mp closes).symm.trans
      ((contains_backslash quote ignoreCase c).mp begins))

/-- With escapes, any characters can stand between quotation marks. -/
theorem inside_escapeChars (chars : List Char) :
    (quote.signs ignoreCase).Inside (Text.escapeChars chars) := by
  induction chars with
  | nil => exact .nil
  | cons c rest inductionHypothesis =>
    rw [Text.escapeChars]
    split
    · rename_i letter known
      exact .escape ((contains_backslash quote ignoreCase _).mpr rfl)
        (contains_escapes quote ignoreCase _ (Text.mem_letters_of_letter? known))
        inductionHypothesis
    · rename_i plain
      refine .plain ((contains_plain quote ignoreCase c).mpr ⟨?_, ?_⟩) inductionHypothesis
      · rintro rfl
        exact Text.letter?_signs _ (by decide) plain
      · rintro rfl
        exact Text.letter?_signs _ quote.mark_mem plain

/-- Of a text that begins with a quoted text, the token takes just that. -/
theorem matchEnd?_enclose (text : String) (rest : List Char) :
    (quote.signs ignoreCase).program.matchEnd? ((quote.enclose text).toList ++ rest) =
      some (byteCount (quote.enclose text).toList) := by
  have isMark := (contains_quote quote ignoreCase quote.mark).mpr rfl
  rw [toList_enclose, List.append_assoc, List.singleton_append]
  exact Quoting.matchEnd?_program (apart_signs quote ignoreCase) isMark
    (inside_escapeChars quote ignoreCase text.toList) isMark

end

end Quote

/-! ### The value of a quoted text -/

namespace Ast.Value

variable {c mark : Char} {inner rest : List Char}

/-- What begins with neither a sign nor a digit is no integer. -/
theorem integer?_cons (unsigned : c ≠ '-') (noDigit : c.isDigit = false) (rest : List Char) :
    integer? (c :: rest) = none := by
  rw [integer?, splitSign.eq_2]
  · simp [isDigits, noDigit]
  · intro _ same
    exact unsigned (List.cons.inj same).1

theorem numeral?_cons (unsigned : c ≠ '-') (noDigit : c.isDigit = false) (rest : List Char) :
    numeral? (c :: rest) = none := by
  rw [numeral?, splitSign.eq_2]
  · simp [noDigit]
  · intro _ same
    exact unsigned (List.cons.inj same).1

/-- The marks are tried one after the other; only their own one is at both ends. -/
theorem between?_marks (quote : Quote) (inner : List Char) :
    (between? '\'' (quote.mark :: inner ++ [quote.mark]) <|>
      between? '"' (quote.mark :: inner ++ [quote.mark])) = some inner := by
  cases quote <;> simp [between?, Quote.mark]

theorem ofText_enclose (quote : Quote) (text : String) :
    ofText (quote.enclose text) = .str text := by
  have unsigned : quote.mark ≠ '-' := by cases quote <;> decide
  have noDigit : quote.mark.isDigit = false := by cases quote <;> rfl
  have noWord : ∀ word ∈ ["true", "false"], quote.mark :: Text.escapeChars text.toList ++
      [quote.mark] ≠ word.toList := by
    intro word member same
    have first : word.toList.head? = some quote.mark := by rw [← same]; rfl
    revert first
    cases quote <;> revert word <;> simp [Quote.mark]
  rw [ofText, Quote.toList_enclose, ofChars, if_neg (noWord _ (by decide)),
    if_neg (noWord _ (by decide)), between?_marks, List.cons_append,
    integer?_cons unsigned noDigit, numeral?_cons unsigned noDigit]
  dsimp only
  rw [Text.unescapeChars_escapeChars, String.ofList_toList]

end Ast.Value

/-! ### There and back -/

namespace Quote

variable {grammar : Grammar}

/-- A grammar takes up the token of quoted texts unless it has a rule of that name. Wherever a text
stands between quotation marks, with escapes for the characters that have them, the token takes it
to its end and no further, whatever follows; and its value is the text. -/
theorem quoted_texts_round_trip (quote : Quote)
    (fresh : grammar.contains quote.builtin.name = false) :
    ∃ next token,
      (Grammar.addBuiltin Workspace.compile quote.builtin).run grammar =
        .ok quote.builtin.name next ∧
      (next.rule? quote.builtin.name).bind Rule.token? = some token ∧
      ∀ text before rest : String,
        token.matchAt? (.ofString (before ++ quote.enclose text ++ rest))
            (byteCount before.toList) = some (byteCount (quote.enclose text).toList) ∧
          Ast.Value.ofText (quote.enclose text) = .str text := by
  refine ⟨_, _, Grammar.addToken_of_fresh fresh (compile_pattern quote grammar.caseInsensitive) _,
    by rw [Grammar.rule?_withToken fresh]; rfl, fun text before rest => ⟨?_, ?_⟩⟩
  · have here : (Source.ofString (before ++ quote.enclose text ++ rest)).rest?
        (byteCount before.toList) = some ((quote.enclose text).toList ++ rest.toList) :=
      (Source.faithful_ofString _).rest?_eq_some.mpr ⟨before.toList, by
        show (before ++ quote.enclose text ++ rest).toList = _
        rw [String.toList_append, String.toList_append, List.append_assoc], rfl⟩
    rw [TokenRule.matchAt?, here]
    exact matchEnd?_enclose quote grammar.caseInsensitive text rest.toList
  · exact Ast.Value.ofText_enclose quote text

/-- A text with a mark in it and a backslash at its end, before another mark. -/
theorem its_round_trips : ∃ next token,
    (Grammar.new "g" 0).contains "SINGLEQUOTEDSTRING" = false ∧
      (Grammar.addBuiltin Workspace.compile .singleQuotedString).run (.new "g" 0) =
        .ok "SINGLEQUOTEDSTRING" next ∧
      (next.rule? "SINGLEQUOTEDSTRING").bind Rule.token? = some token ∧
      token.matchAt? (.ofString "x 'it\\'s \\\\'' y'") 2 = some 10 ∧
      Ast.Value.ofText "'it\\'s \\\\'" = .str "it's \\" := by
  have fresh : (Grammar.new "g" 0).contains "SINGLEQUOTEDSTRING" = false := by decide
  obtain ⟨next, token, granted, isToken, returns⟩ := quoted_texts_round_trip single fresh
  obtain ⟨taken, value⟩ := returns "it's \\" "x " "' y'"
  exact ⟨next, token, fresh, granted, isToken, taken, value⟩

end Quote

end Rulebook
