/-
This file says where tokens match. The text of a pattern is not compiled as it is but in parentheses
behind an anchor, so it matters whether it is read there as it is read by itself. It is, if it is a
pattern by itself. A text that is none may become one in parentheses, by closing them before its
end, and what it says after that is not held by the anchor.
-/

import Rulebook.Proofs.Grammar.Alteration
import Rulebook.Proofs.Pattern.Bracketing
import Rulebook.Proofs.Pattern.Searching
import Rulebook.Proofs.Text.Boundary
import Rulebook.Workspace

namespace Rulebook

namespace Pattern

/-! ### The whole pattern -/

theorem trails_readLazy {text text' : List Char} (trails : Trails text text') :
    (readLazy text).1 = (readLazy text').1 ∧ Trails (readLazy text).2 (readLazy text').2 := by
  unfold readLazy
  split
  · obtain ⟨rest', rfl, ahead⟩ := trails.exists_cons rfl
    exact ⟨rfl, ahead⟩
  · rename_i greedy
    split
    · exact absurd rfl (trails.ne_cons greedy (by decide) _)
    · exact ⟨rfl, trails⟩

/-- One group is what two readings ended with: the first closed it at the end of the pattern, the
second as a part of what was around it. -/
def Closes (wrapper : OpenGroup) (piece piece' : Piece) : Prop :=
  ∃ group : OpenGroup, group.close = piece ∧ (wrapper.add group.toPiece).close = piece'

/-- As many rounds of the reader end alike if the text stands in parentheses. -/
def Alike (wrapper : OpenGroup) (piece piece' : Piece) (budget budget' : Nat) : Prop :=
  ∀ {names : List String} {inner : OpenGroup} {outer : List OpenGroup} {text text' : List Char},
    Trails text text' → readPattern budget names inner outer text = some piece →
      readPattern budget' names inner (outer ++ [wrapper]) text' = some piece' →
        Closes wrapper piece piece'

section

variable {wrapper inner : OpenGroup} {piece piece' : Piece} {budget budget' : Nat}
  {names : List String} {outer : List OpenGroup} {text text' rest : List Char}
  (trails : Trails text text')
  (known : readPattern (budget + 1) names inner outer text = some piece)
  (known' : readPattern (budget' + 1) names inner (outer ++ [wrapper]) text' = some piece')
include trails known known'

/-- The parenthesis closes the group that is open at the end of the text. If it was swallowed, the
group is left open and nothing is read. -/
theorem closes_of_end (ends : inner.flags.skip text = []) : Closes wrapper piece piece' := by
  have ahead : Trails (inner.flags.skip text) (inner.flags.skip text') := trails_skip trails
  rw [ends] at ahead
  rw [readPattern, ends] at known
  rw [readPattern] at known'
  cases outer with
  | cons enclosing outer => cases known
  | nil =>
    cases known
    rcases ahead.nil_inv with closing | left
    · rw [closing] at known'
      cases budget' with
      | zero => cases known'
      | succ budget' =>
        cases known'
        exact ⟨inner, rfl, rfl⟩
    · rw [left] at known'
      cases known'

variable (alike : Alike wrapper piece piece' budget budget')
include alike

theorem closes_of_opening (opening : inner.flags.skip text = '(' :: rest) :
    Closes wrapper piece piece' := by
  obtain ⟨_, opening', behind⟩ := Trails.exists_cons (trails_skip trails) opening
  rw [readPattern, opening] at known
  rw [readPattern, opening'] at known'
  simp only at known known'
  split at known
  case h_1 => cases known
  all_goals
    rename_i opens
    split at known'
    case h_1 => cases known'
    all_goals
      rename_i opens'
      obtain ⟨same, last⟩ := steady_readOpening _ behind opens opens'
      cases same
  case h_2 | h_4 => exact alike last known known'
  case h_3 =>
    split at known
    · cases known
    · rw [if_neg ‹_›] at known'
      exact alike last known known'

theorem closes_of_brackets (bracket : inner.flags.skip text = '[' :: rest) :
    Closes wrapper piece piece' := by
  obtain ⟨_, bracket', behind⟩ := Trails.exists_cons (trails_skip trails) bracket
  obtain ⟨same, behind⟩ := trails_openBrackets inner.flags behind
  rw [readPattern, bracket] at known
  rw [readPattern, bracket'] at known'
  simp only at known known'
  rw [same] at known'
  split at known
  · rename_i read
    split at known'
    · rename_i read'
      obtain ⟨same, last⟩ := steady_readBrackets inner.flags behind read read'
      cases same
      exact alike last known known'
    · cases known'
  · cases known

theorem closes_of_bounds (brace : inner.flags.skip text = '\x7b' :: rest) :
    Closes wrapper piece piece' := by
  obtain ⟨_, brace', behind⟩ := Trails.exists_cons (trails_skip trails) brace
  rw [readPattern, brace] at known
  rw [readPattern, brace'] at known'
  simp only at known known'
  split at known
  · rename_i bounds
    split at known'
    · rename_i bounds'
      obtain ⟨rfl, rfl, last⟩ := steady_readBounds inner.flags behind bounds bounds'
      obtain ⟨same, last⟩ := trails_readLazy (trails_skip last)
      rw [← same] at known'
      split at known
      · rename_i repeated
        rw [repeated] at known'
        exact alike last known known'
      · cases known
    · cases known'
  · cases known

theorem closes_of_escape (backslash : inner.flags.skip text = '\\' :: rest) :
    Closes wrapper piece piece' := by
  obtain ⟨_, backslash', behind⟩ := Trails.exists_cons (trails_skip trails) backslash
  rw [readPattern, backslash] at known
  rw [readPattern, backslash'] at known'
  simp only at known known'
  split at known
  · rename_i escape
    split at known'
    · rename_i escape'
      obtain ⟨rfl, last⟩ := Escape.steady_read inner.flags behind escape escape'
      exact alike last known known'
    · cases known'
  · cases known

/-- One more round, whatever stands at its beginning. -/
theorem closes_of_round : Closes wrapper piece piece' := by
  have ahead : Trails (inner.flags.skip text) (inner.flags.skip text') := trails_skip trails
  have read := known
  have read' := known'
  rw [readPattern] at read read'
  dsimp only at read
  split at read
  case h_1 ends => exact closes_of_end trails known known' ends
  case h_2 opening => exact closes_of_opening trails known known' alike opening
  case h_5 bracket => exact closes_of_brackets trails known known' alike bracket
  case h_9 brace => exact closes_of_bounds trails known known' alike brace
  case h_10 backslash => exact closes_of_escape trails known known' alike backslash
  all_goals
    rename_i sign
    obtain ⟨_, sign', behind⟩ := ahead.exists_cons sign
    rw [sign'] at read'
    simp only at read'
  case h_3 =>
    cases outer with
    | nil => cases read
    | cons enclosing outer => exact alike behind read read'
  case h_6 | h_7 | h_8 =>
    obtain ⟨same, last⟩ := trails_readLazy behind
    rw [← same] at read'
    split at read
    · rename_i repeated
      rw [repeated] at read'
      exact alike last read read'
    · cases read
  case h_11 =>
    split at read
    · rename_i meant
      rw [meant] at read'
      exact alike behind read read'
    · cases read
  -- A bar, a circumflex, a dollar sign or a character that stands for itself.
  all_goals exact alike behind read read'

end

/-- If a text can be read to its end as a pattern, and also with the parenthesis as the body of a
group, then the group holds the pattern. -/
theorem alike_readPattern (wrapper : OpenGroup) (piece piece' : Piece) (budget budget' : Nat) :
    Alike wrapper piece piece' budget budget' := by
  induction budget generalizing budget' with
  | zero => exact fun _ known => by cases known
  | succ budget inductionHypothesis =>
    cases budget' with
    | zero => exact fun _ _ known' => by cases known'
    | succ budget' =>
      exact fun trails known known' =>
        closes_of_round trails known known' (inductionHypothesis budget')

/-- A pattern that is one by itself says the same in parentheses behind an anchor. -/
theorem Expr.read?_enclosed {ignoreCase : Bool} {pattern : List Char} {expr whole : Expr}
    (known : Expr.read? ignoreCase pattern = some expr)
    (known' : Expr.read? ignoreCase ("^(?:".toList ++ pattern ++ [')']) = some whole) :
    ∃ captures, whole = .both (.look .textStart) (.group captures expr) := by
  have length_eq : ("^(?:".toList ++ pattern ++ [')']).length + 1 = pattern.length + 4 + 2 := by
    rw [List.length_append, List.length_append]
    show 4 + _ + 1 + 1 = _
    omega
  have opened : readPattern (pattern.length + 4 + 2) [] { flags := { ignoreCase } } []
      ("^(?:".toList ++ pattern ++ [')']) =
        readPattern (pattern.length + 4) [] { flags := { ignoreCase } }
          ([] ++ [{ flags := { ignoreCase }, pieces := [⟨.look .textStart, 0, true⟩] }])
          (pattern ++ [')']) :=
    rfl
  rw [Expr.read?] at known known'
  split at known
  · rename_i piece read
    rw [length_eq, opened] at known'
    split at known'
    · rename_i piece' read'
      obtain ⟨group, rfl, rfl⟩ := alike_readPattern _ _ _ _ _ (.inl rfl) read read'
      rcases ite_eq_iff.mp known with ⟨-, same⟩ | ⟨-, absurd⟩
      · rcases ite_eq_iff.mp known' with ⟨-, same'⟩ | ⟨-, absurd⟩
        · exact ⟨group.captures, by rw [← Option.some.inj same', ← Option.some.inj same]; rfl⟩
        · cases absurd
      · cases absurd
    · cases known'
  · cases known

/-- What a compiled pattern matches is looked for behind an anchor. -/
theorem Program.matches_of_compile? {pattern : String} {ignoreCase : Bool} {program : Program}
    {expr : Expr} {text : List Char} {length : Nat}
    (compiled : Program.compile? pattern ignoreCase = some program)
    (known : Expr.read? ignoreCase pattern.toList = some expr)
    (found : program.matchEnd? text = some length) :
    ∃ front back, text = front ++ back ∧ byteCount front = length ∧
      expr.Matches (.behind [] text) (.behind front back) := by
  rw [Program.compile?] at compiled
  split at compiled
  · rename_i whole read
    rcases ite_eq_iff.mp compiled with ⟨-, same⟩ | ⟨-, absurd⟩
    · obtain ⟨captures, rfl⟩ := Expr.read?_enclosed known read
      cases same
      obtain ⟨skipped, taken, rest, rfl, count_eq, anchored, middle, ⟨-, rfl⟩, matched⟩ :=
        Program.matches_of_matchEnd?_ofExpr found
      cases anchored rfl
      exact ⟨taken, rest, rfl, count_eq, matched⟩
    · cases absurd
  · cases compiled

end Pattern

namespace Grammar

open Pattern

variable {grammar next : Grammar} {name pattern answer : String} {whitespace : Bool} {expr : Expr}

/-- A token that was declared is in the grammar. If its pattern is one by itself, then wherever the
token is asked for in whatever text, the part of the text that it takes begins at the very offset,
and it is a match of the pattern. -/
theorem tokens_match_where_they_stand
    (granted : (addToken Workspace.compile name pattern whitespace).run grammar =
      .ok answer next)
    (known : Expr.read? grammar.caseInsensitive pattern.toList = some expr) :
    ∃ token, (next.rule? name).bind Rule.token? = some token ∧
      ∀ (input : String) (offset length : Nat),
        token.matchAt? (.ofString input) offset = some length →
          ∃ before front back, input.toList = before ++ front ++ back ∧
            byteCount before = offset ∧ byteCount front = length ∧
            expr.Matches (.behind [] (front ++ back)) (.behind front back) := by
  rw [run_addToken] at granted
  rcases ite_eq_iff.mp granted with ⟨-, absurd⟩ | ⟨fresh, granted⟩
  · cases absurd
  · split at granted
    · cases granted
    · rename_i program compiled
      cases granted
      refine ⟨_, by rw [rule?_withToken (eq_false_of_ne_true fresh)]; rfl,
        fun input offset length taken => ?_⟩
      obtain ⟨text, here, found⟩ := Option.bind_eq_some_iff.mp taken
      obtain ⟨before, cut, count_eq⟩ := (Source.faithful_ofString input).rest?_eq_some.mp here
      obtain ⟨front, back, rfl, length_eq, matched⟩ :=
        Program.matches_of_compile? compiled known found
      exact ⟨before, front, back, cut.trans (List.append_assoc _ _ _).symm, count_eq, length_eq,
        matched⟩

/-- A grammar of one token, which is one of two words. -/
def verdict : Grammar :=
  ofCalls Workspace.compile "g" [.token "verdict" "true|false" false]

/-- The second word is found behind an offset, and it stands right there. -/
theorem false_stands_in_place : ∃ token expr,
    (addToken Workspace.compile "verdict" "true|false" false).run (.new "g" 0) =
        .ok "verdict" verdict ∧
      Expr.read? false "true|false".toList = some expr ∧
      (verdict.rule? "verdict").bind Rule.token? = some token ∧
      token.matchAt? (.ofString "xfalse") 1 = some 5 ∧
      ∃ before front back, "xfalse".toList = before ++ front ++ back ∧ byteCount before = 1 ∧
        byteCount front = 5 ∧ expr.Matches (.behind [] (front ++ back)) (.behind front back) := by
  have granted : (addToken Workspace.compile "verdict" "true|false" false).run (.new "g" 0) =
      .ok "verdict" verdict := rfl
  obtain ⟨expr, known⟩ : ∃ expr, Expr.read? false "true|false".toList = some expr := ⟨_, rfl⟩
  obtain ⟨token, isToken, inPlace⟩ := tokens_match_where_they_stand granted known
  have taken : token.matchAt? (.ofString "xfalse") 1 = some 5 := by
    cases isToken
    rfl
  exact ⟨token, expr, granted, known, isToken, taken, inPlace "xfalse" 1 5 taken⟩

/-- A text that is no pattern by itself closes the parentheses before its end, and is accepted. What
it says then is found further on, and the signs before are taken together with it. -/
theorem misplaced_match : ∃ next token whole,
    (addToken Workspace.compile "t" "a)|(?:b" false).run (.new "g" 0) = .ok "t" next ∧
      (next.rule? "t").bind Rule.token? = some token ∧
      token.matchAt? (.ofString "xxb") 0 = some 3 ∧
      Expr.read? false "a)|(?:b".toList = none ∧
      Expr.read? false "^(?:a)|(?:b)".toList = some whole ∧
      ¬ whole.Matches (.behind [] "xxb".toList) (.behind "xxb".toList []) := by
  refine ⟨_, _, _, rfl, rfl, rfl, rfl, rfl, ?_⟩
  rintro (⟨_, ⟨-, rfl⟩, c, _, here, member, -⟩ | ⟨c, _, here, member, -⟩)
  all_goals
    cases here
    revert member
    decide

end Grammar

end Rulebook
