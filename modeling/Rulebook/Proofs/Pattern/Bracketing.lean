/-
This file says that sets in brackets are read the same if one more sign follows the text, a closing
parenthesis. Between brackets this sign would stand for itself, but brackets that are closed at all
are closed before it.
-/

import Rulebook.Proofs.Pattern.Trailing

namespace Rulebook.Pattern

open Rulebook.Unicode

variable (flags : Flags)

/-! ### Members -/

theorem trails_peek {text text' : List Char} (trails : Trails text text') (c : Char)
    (other : c ≠ ')') : (flags.peek text' == some c) = (flags.peek text == some c) := by
  have noBlank : isBlank ')' = false := by decide
  have unlike : (some ')' == some c) = false := beq_false_of_ne fun same =>
    other (Option.some.inj same).symm
  have first : ∀ {text text' : List Char}, Trails text text' →
      (text'.head? == some c) = (text.head? == some c) := by
    intro text text' trails
    cases text with
    | nil => rcases trails.nil_inv with rfl | rfl <;> first | exact unlike | rfl
    | cons d rest =>
      obtain ⟨rest', rfl, -⟩ := trails.exists_cons rfl
      rfl
  rw [Flags.peek, Flags.peek]
  split
  · exact first trails
  · have ahead := trails_dropWhile noBlank trails
    split
    · rename_i comment
      obtain ⟨_, comment', ahead⟩ := ahead.exists_cons_of_ne comment (by decide)
      rw [comment']
      exact first (trails_dropWhile noBlank ahead)
    · rename_i noComment
      split
      · rename_i comment'
        obtain ⟨_, comment, -⟩ := ahead.exists_cons comment'
        exact absurd comment (noComment _)
      · exact first ahead

theorem steady_readMember : Steady (readMember flags) := by
  intro text text' value rest value' rest' trails known known'
  cases text with
  | nil => cases known
  | cons c behind =>
    obtain ⟨behind', rfl, ahead⟩ := trails.exists_cons rfl
    unfold readMember at known known'
    by_cases escaped : c = '\\'
    · subst escaped
      simp only at known known'
      match read_eq : Escape.read flags behind, read_eq' : Escape.read flags behind' with
      | none, _ =>
        rw [read_eq] at known
        cases known
      | some _, none =>
        rw [read_eq'] at known'
        cases known'
      | some (escape, last), some (escape', last') =>
        obtain ⟨rfl, ahead⟩ := Escape.steady_read flags ahead read_eq read_eq'
        rw [read_eq] at known
        rw [read_eq'] at known'
        cases escape' with
        | literal c =>
          dsimp only at known known'
          split at known
          · cases known
          · rw [if_neg ‹_›] at known'
            exact steady_pure _ ahead known known'
        | set chars => exact steady_pure _ ahead known known'
        | look condition => exact steady_pure _ ahead known known'
    · simp only at known known'
      split at known
      · cases known
      · rw [if_neg ‹_›] at known'
        exact steady_pure _ ahead known known'

/-- A member by itself or a range. The parenthesis does not decide which. -/
theorem steady_readMembers : Steady (readMembers flags) := by
  intro text text' value rest value' rest' trails known known'
  rw [readMembers] at known known'
  obtain ⟨⟨first, behind⟩, member, known⟩ := Option.bind_eq_some_iff.mp known
  obtain ⟨⟨first', behind'⟩, member', known'⟩ := Option.bind_eq_some_iff.mp known'
  obtain ⟨rfl, ahead⟩ := steady_readMember flags trails member member'
  replace ahead : Trails (flags.skip behind) (flags.skip behind') := trails_skip ahead
  dsimp only at known known'
  split at known
  · rename_i after hyphen
    obtain ⟨after', hyphen', behind⟩ := ahead.exists_cons hyphen
    rw [hyphen'] at known'
    simp only at known'
    rw [trails_peek flags behind ']' (by decide),
      trails_peek flags behind '-' (by decide)] at known'
    split at known
    · rw [if_pos ‹_›, ← hyphen'] at known'
      cases first' with
      | literal c => exact steady_pure _ ahead known known'
      | set set => exact steady_pure _ ahead known known'
      | look condition => cases known
    · rw [if_neg ‹_›] at known'
      obtain ⟨⟨second, last⟩, member, known⟩ := Option.bind_eq_some_iff.mp known
      obtain ⟨⟨second', last'⟩, member', known'⟩ := Option.bind_eq_some_iff.mp known'
      obtain ⟨rfl, ahead⟩ := steady_readMember flags (trails_skip behind) member member'
      dsimp only at known known'
      split at known
      · exact steady_if _ ahead known known'
      · cases known
  · rename_i noHyphen
    split at known'
    · rename_i hyphen'
      exact absurd hyphen' (ahead.ne_cons noHyphen (by decide) _)
    · cases first' with
      | literal c => exact steady_pure _ ahead known known'
      | set set => exact steady_pure _ ahead known known'
      | look condition => cases known

/-- Either both stop before the same sign, or no sign makes them stop. -/
theorem trails_drop (wanted : Char → Bool) {text text' : List Char} (goesOn : wanted ')' = true)
    (trails : Trails text text') :
    text'.takeWhile wanted = text.takeWhile wanted ∧
        Trails (text.drop (text.takeWhile wanted).length)
          (text'.drop (text.takeWhile wanted).length) ∨
      text.drop (text.takeWhile wanted).length = [] ∧
        text'.drop (text'.takeWhile wanted).length = [] := by
  rcases trails with rfl | ⟨rfl, rfl⟩
  · match left : text.drop (text.takeWhile wanted).length with
    | c :: rest =>
      obtain ⟨taken', left'⟩ := takeWhile_append_of_drop [')'] left
      exact .inl ⟨taken', .inl left'⟩
    | [] =>
      have whole : (text.takeWhile wanted).length = text.length :=
        Nat.le_antisymm (List.takeWhile_sublist wanted).length_le (List.drop_eq_nil_iff.mp left)
      rw [List.takeWhile_append, if_pos whole, List.takeWhile_cons_of_pos goesOn]
      exact .inr ⟨rfl, List.drop_eq_nil_iff.mpr (by simp)⟩
  · exact .inr ⟨List.drop_nil, List.drop_nil⟩

/-- A named set is read where it is one, and nowhere else. -/
theorem trails_readName? {text text' : List Char} (trails : Trails text text') :
    readName? text = none ∧ readName? text' = none ∨
      ∃ negated set rest rest', readName? text = some (negated, set, rest) ∧
        readName? text' = some (negated, set, rest') ∧ Trails rest rest' := by
  generalize known : readName? text = result
  generalize known' : readName? text' = result'
  unfold readName? at known known'
  split at known
  case h_2 unnamed =>
    split at known'
    · exact absurd rfl (trails.ne_cons unnamed (by decide) _)
    · exact .inl ⟨known.symm, known'.symm⟩
  case h_1 rest =>
    obtain ⟨rest', rfl, ahead⟩ := trails.exists_cons rfl
    split at known'
    case h_2 other => exact absurd rfl (other _)
    case h_1 same =>
      cases same
      split at known
      rename_i negated behind sign
      split at known'
      rename_i negated' behind' sign'
      obtain ⟨rfl, further⟩ : negated' = negated ∧ Trails behind behind' := by
        split at sign
        · obtain ⟨_, rfl, last⟩ := ahead.exists_cons rfl
          cases sign
          cases sign'
          exact ⟨rfl, last⟩
        · rename_i plain
          split at sign'
          · exact absurd rfl (ahead.ne_cons plain (by decide) _)
          · cases sign
            cases sign'
            exact ⟨rfl, ahead⟩
      dsimp only at known known'
      rcases trails_drop (· != ':') rfl further with ⟨same, left⟩ | ⟨left, left'⟩
      · rw [same] at known'
        split at known
        · rename_i rest ends
          obtain ⟨_, ends', left⟩ := left.exists_cons ends
          obtain ⟨rest', rfl, last⟩ := left.exists_cons rfl
          rw [ends'] at known'
          cases named : namedSet? (String.ofList (behind.takeWhile (· != ':'))) with
          | none =>
            rw [named] at known known'
            exact .inl ⟨known.symm, known'.symm⟩
          | some set =>
            rw [named] at known known'
            exact .inr ⟨negated', set, rest, rest', known.symm, known'.symm, last⟩
        · rename_i goesOn
          split at known'
          · rename_i ends'
            exact absurd ends' (left.ne_cons_cons goesOn (by decide) (by decide) _)
          · exact .inl ⟨known.symm, known'.symm⟩
      · rw [left] at known
        rw [left'] at known'
        exact .inl ⟨known.symm, known'.symm⟩

/-- Brackets are opened with the same sign of negation and the same members. -/
theorem trails_openBrackets {text text' : List Char} (trails : Trails text text') :
    (openBrackets flags text').1 = (openBrackets flags text).1 ∧
      Trails (openBrackets flags text).2 (openBrackets flags text').2 := by
  have ahead : Trails (flags.skip text) (flags.skip text') := trails_skip trails
  generalize known : openBrackets flags text = result
  generalize known' : openBrackets flags text' = result'
  unfold openBrackets at known known'
  split at known
  rename_i negated behind sign
  split at known'
  rename_i negated' behind' sign'
  obtain ⟨rfl, further⟩ : negated' = negated ∧ Trails behind behind' := by
    split at sign
    · rename_i caret
      obtain ⟨_, caret', last⟩ := ahead.exists_cons caret
      rw [caret'] at sign'
      cases sign
      cases sign'
      exact ⟨rfl, trails_skip last⟩
    · rename_i plain
      split at sign'
      · rename_i caret'
        exact absurd caret' (ahead.ne_cons plain (by decide) _)
      · cases sign
        cases sign'
        exact ⟨rfl, ahead⟩
  dsimp only at known known'
  split at known
  · obtain ⟨_, rfl, last⟩ := further.exists_cons rfl
    cases known
    cases known'
    exact ⟨rfl, last⟩
  · rename_i noBracket
    split at known'
    · exact absurd rfl (further.ne_cons noBracket (by decide) _)
    · obtain ⟨_, gathered', last⟩ := trails_gather further
        (rfl : flags.gather (· == '-') behind = (_, _)) (.inr rfl)
      rw [gathered'] at known'
      cases known
      cases known'
      exact ⟨rfl, last⟩

theorem steady_readBrackets {budget budget' : Nat} {inner : OpenBrackets}
    {outer : List OpenBrackets} {text text' rest rest' : List Char} {set set' : NestedSet}
    (trails : Trails text text')
    (known : readBrackets flags budget inner outer text = some (set, rest))
    (known' : readBrackets flags budget' inner outer text' = some (set', rest')) :
    set' = set ∧ Trails rest rest' := by
  induction budget generalizing budget' inner outer text text' with
  | zero => cases known
  | succ budget inductionHypothesis =>
    cases budget' with
    | zero => cases known'
    | succ budget' =>
      rw [readBrackets] at known known'
      have ahead : Trails (flags.skip text) (flags.skip text') := trails_skip trails
      dsimp only at known known'
      split at known
      case h_1 => cases known
      case h_2 bracket =>
        obtain ⟨_, bracket', behind⟩ := ahead.exists_cons bracket
        rw [bracket'] at known'
        simp only at known'
        rcases trails_readName? behind with ⟨name, name'⟩ | ⟨negated, set, _, _, name, name', last⟩
        · obtain ⟨same, last⟩ := trails_openBrackets flags behind
          rw [name] at known
          rw [name'] at known'
          dsimp only at known known'
          rw [same] at known'
          exact inductionHypothesis last known known'
        · rw [name] at known
          rw [name'] at known'
          dsimp only at known known'
          split at known
          · rename_i negatedSet
            rw [negatedSet] at known'
            exact inductionHypothesis last known known'
          · cases known
      case h_3 bracket =>
        obtain ⟨_, bracket', behind⟩ := ahead.exists_cons bracket
        rw [bracket'] at known'
        simp only at known'
        split at known
        · rename_i closed
          rw [closed] at known'
          cases known
          cases known'
          exact ⟨rfl, behind⟩
        · rename_i closed
          rw [closed] at known'
          exact inductionHypothesis behind known known'
        · cases known
      case h_4 operator | h_5 operator | h_6 operator =>
        obtain ⟨_, operator', behind⟩ := ahead.exists_cons operator
        obtain ⟨_, rfl, last⟩ := behind.exists_cons rfl
        rw [operator'] at known'
        exact inductionHypothesis last known known'
      case h_7 noOpening noClosing noAmpersands noHyphens noTildes =>
        split at known'
        case h_1 => cases known'
        case h_2 opens' => exact absurd opens' (ahead.ne_cons noOpening (by decide) _)
        case h_3 closes' => exact absurd closes' (ahead.ne_cons noClosing (by decide) _)
        case h_4 joins' =>
          exact absurd joins' (ahead.ne_cons_cons noAmpersands (by decide) (by decide) _)
        case h_5 joins' =>
          exact absurd joins' (ahead.ne_cons_cons noHyphens (by decide) (by decide) _)
        case h_6 joins' =>
          exact absurd joins' (ahead.ne_cons_cons noTildes (by decide) (by decide) _)
        case h_7 =>
          split at known
          · rename_i members
            split at known'
            · rename_i members'
              obtain ⟨rfl, behind⟩ := steady_readMembers flags ahead members members'
              exact inductionHypothesis behind known known'
            · cases known'
          · cases known

end Rulebook.Pattern
