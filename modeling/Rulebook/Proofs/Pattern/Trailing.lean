/-
This file says how the reader goes on if one more sign follows a text, a closing parenthesis. Every
part of it stops before this sign where it came to the end of the text before, unless the text ends
with a comment. A comment swallows the parenthesis, and then nothing is left of either text.

A part that reads something in both texts therefore reads the same, and leaves two texts of which
the one follows the other in the same way. The parts that read counts, groups and what follows a
backslash are here.
-/

import Rulebook.Pattern.Reader

namespace Rulebook.Pattern

open Rulebook.Unicode

/-- A text is followed by a closing parenthesis, or the parenthesis has been swallowed together
with the last of the text. -/
def Trails (text text' : List Char) : Prop :=
  text' = text ++ [')'] ∨ text = [] ∧ text' = []

section

variable {flags : Flags} {text text' rest taken : List Char} {c : Char} {wanted : Char → Bool}

theorem Trails.exists_cons (trails : Trails text text') (known : text = c :: rest) :
    ∃ rest', text' = c :: rest' ∧ Trails rest rest' := by
  cases known
  rcases trails with rfl | ⟨absurd, -⟩
  · exact ⟨rest ++ [')'], rfl, .inl rfl⟩
  · cases absurd

/-- The only sign that is new is the parenthesis. -/
theorem Trails.exists_cons_of_ne {rest' : List Char} (trails : Trails text text')
    (known : text' = c :: rest') (other : c ≠ ')') :
    ∃ rest, text = c :: rest ∧ Trails rest rest' := by
  cases text with
  | nil =>
    rcases trails with equal | ⟨-, absurd⟩
    · exact absurd (List.cons.inj (known.symm.trans equal)).1 other
    · cases known.symm.trans absurd
  | cons d rest =>
    obtain ⟨behind, equal, trails⟩ := trails.exists_cons rfl
    cases known.symm.trans equal
    exact ⟨rest, rfl, trails⟩

theorem Trails.ne_cons (trails : Trails text text') (differs : ∀ rest, text = c :: rest → False)
    (other : c ≠ ')') (rest' : List Char) : text' ≠ c :: rest' := fun same => by
  obtain ⟨rest, known, -⟩ := trails.exists_cons_of_ne same other
  exact differs rest known

theorem Trails.ne_cons_cons {d : Char} (trails : Trails text text')
    (differs : ∀ rest, text = c :: d :: rest → False) (other : c ≠ ')') (other' : d ≠ ')')
    (rest' : List Char) : text' ≠ c :: d :: rest' := fun same => by
  obtain ⟨_, known, behind⟩ := trails.exists_cons_of_ne same other
  obtain ⟨rest, rfl, -⟩ := behind.exists_cons_of_ne rfl other'
  exact differs rest known

theorem Trails.nil_inv (trails : Trails [] text') : text' = [')'] ∨ text' = [] :=
  trails.imp id And.right

theorem trails_nil : Trails [] [] :=
  .inr ⟨rfl, rfl⟩

/-! ### What is skipped and what is gathered -/

theorem trails_dropWhile (stops : wanted ')' = false) (trails : Trails text text') :
    Trails (text.dropWhile wanted) (text'.dropWhile wanted) := by
  rcases trails with rfl | ⟨rfl, rfl⟩
  · left
    rw [List.dropWhile_append]
    split
    · rename_i empty
      rw [List.isEmpty_iff.mp empty, List.dropWhile_cons_of_neg (by rw [stops]; decide)]
      rfl
    · rfl
  · exact trails_nil

/-- Gathering stops before the parenthesis, if it is not wanted or nothing more is. -/
theorem trails_gatherWithin {count : Nat} {inComment : Bool} (trails : Trails text text')
    (gathered : flags.gatherWithin wanted count inComment text = (taken, rest))
    (stops : rest ≠ [] ∨ wanted ')' = false ∨ count ≤ taken.length) :
    ∃ rest', flags.gatherWithin wanted count inComment text' = (taken, rest') ∧
      Trails rest rest' := by
  induction text generalizing text' count inComment taken with
  | nil =>
    cases gathered
    rcases trails.nil_inv with rfl | rfl
    · cases inComment with
      | true => exact ⟨[], rfl, trails_nil⟩
      | false =>
        have blank : isBlank ')' = false := by decide
        have refused : count = 0 ∨ wanted ')' = false := by
          rcases stops with absurd | unwanted | few
          · exact absurd rfl |>.elim
          · exact .inr unwanted
          · exact .inl (Nat.le_zero.mp few)
        exact ⟨[')'], by simp [Flags.gatherWithin, blank, refused], .inl rfl⟩
    · exact ⟨[], rfl, trails_nil⟩
  | cons c text inductionHypothesis =>
    obtain ⟨text', rfl, trails'⟩ := trails.exists_cons rfl
    rw [Flags.gatherWithin] at gathered ⊢
    split at gathered
    · rw [if_pos ‹_›]
      exact inductionHypothesis trails' gathered stops
    rw [if_neg ‹_›]
    split at gathered
    · rw [if_pos ‹_›]
      exact inductionHypothesis trails' gathered stops
    rw [if_neg ‹_›]
    split at gathered
    · rw [if_pos ‹_›]
      exact inductionHypothesis trails' gathered stops
    rw [if_neg ‹_›]
    split at gathered
    · cases gathered
      rw [if_pos ‹_›]
      exact ⟨c :: text', rfl, trails⟩
    · rw [if_neg ‹_›]
      match inner : flags.gatherWithin wanted (count - 1) false text with
      | (more, last) =>
        rw [inner] at gathered
        cases gathered
        obtain ⟨rest', inner', trails'⟩ := inductionHypothesis trails' inner
          (stops.imp_right (Or.imp_right Nat.sub_le_of_le_add))
        exact ⟨rest', by rw [inner'], trails'⟩

/-- A bound that is no shorter than the text does not matter. -/
theorem gatherWithin_of_length_le {count count' : Nat} (inComment : Bool)
    (enough : text.length ≤ count) (enough' : text.length ≤ count') :
    flags.gatherWithin wanted count inComment text =
      flags.gatherWithin wanted count' inComment text := by
  induction text generalizing count count' inComment with
  | nil => rfl
  | cons c text inductionHypothesis =>
    rw [List.length_cons] at enough enough'
    have fewer := fun inComment =>
      inductionHypothesis inComment (Nat.le_of_succ_le enough) (Nat.le_of_succ_le enough')
    have less := inductionHypothesis false (Nat.le_sub_one_of_lt enough)
      (Nat.le_sub_one_of_lt enough')
    have left : decide (count = 0) = false := decide_eq_false (Nat.ne_zero_of_lt enough)
    have right : decide (count' = 0) = false := decide_eq_false (Nat.ne_zero_of_lt enough')
    rw [Flags.gatherWithin, Flags.gatherWithin, fewer, fewer, fewer, less, left, right]

theorem Trails.length_le (trails : Trails text text') : text.length ≤ text'.length := by
  rcases trails with rfl | ⟨rfl, rfl⟩
  · rw [List.length_append]
    exact Nat.le_add_right _ _
  · exact Nat.le_refl _

theorem trails_gather (trails : Trails text text')
    (gathered : flags.gather wanted text = (taken, rest))
    (stops : rest ≠ [] ∨ wanted ')' = false) :
    ∃ rest', flags.gather wanted text' = (taken, rest') ∧ Trails rest rest' := by
  rw [Flags.gather, gatherWithin_of_length_le false (Nat.le_refl _) trails.length_le] at gathered
  exact trails_gatherWithin trails gathered (stops.imp_right .inl)

theorem trails_skip (trails : Trails text text') : Trails (flags.skip text) (flags.skip text') := by
  obtain ⟨rest', skipped, trails⟩ := trails_gatherWithin trails
    (rfl : flags.gatherWithin (fun _ => false) 0 false text = (_, _)) (.inr (.inl rfl))
  rw [Flags.skip, Flags.skip, skipped]
  exact trails

end

/-! ### Parts of the reader -/

/-- A part of the reader reads the same in front of a parenthesis, if it reads something there. -/
def Steady {Value : Type} (read : List Char → Option (Value × List Char)) : Prop :=
  ∀ {text text' value rest value' rest'}, Trails text text' → read text = some (value, rest) →
    read text' = some (value', rest') → value' = value ∧ Trails rest rest'

theorem steady_pure {Value : Type} (value : Value) : Steady fun text => some (value, text) := by
  intro text text' _ rest _ rest' trails known known'
  cases known
  cases known'
  exact ⟨rfl, trails⟩

theorem steady_if {Value : Type} {condition : Prop} [Decidable condition] (value : Value) :
    Steady fun text => if condition then some (value, text) else none := by
  intro text text' _ rest _ rest' trails known known'
  dsimp only at known known'
  split at known
  · rw [if_pos ‹_›] at known'
    exact steady_pure value trails known known'
  · cases known

theorem steady_map {Value Result : Type} (view : Value → Result) (value? : Option Value) :
    Steady fun text => value?.map fun value => (view value, text) := by
  intro text text' value rest value' rest' trails known known'
  obtain ⟨given, same, known⟩ := Option.map_eq_some_iff.mp known
  obtain ⟨given', same', known'⟩ := Option.map_eq_some_iff.mp known'
  cases same.symm.trans same'
  exact steady_pure (view given) trails (congrArg some known) (congrArg some known')

section

variable (flags : Flags)

theorem steady_readCount : Steady flags.readCount := by
  intro text text' value rest value' rest' trails known known'
  have noBlank : isBlank ')' = false := by decide
  match gathered : flags.gather Char.isDigit (text.dropWhile isBlank) with
  | (digits, behind) =>
    obtain ⟨behind', gathered', trails⟩ :=
      trails_gather (trails_dropWhile noBlank trails) gathered (.inr rfl)
    rw [Flags.readCount, gathered] at known
    rw [Flags.readCount, gathered'] at known'
    dsimp only at known known'
    split at known
    · cases known
    · rw [if_neg ‹_›] at known'
      cases known
      cases known'
      exact ⟨rfl, trails_dropWhile noBlank trails⟩

/-- The bounds of a repetition. -/
theorem steady_readBounds {text text' rest rest' : List Char} {least least' : Nat}
    {most most' : Option Nat} (trails : Trails text text')
    (known : flags.readBounds text = some (least, most, rest))
    (known' : flags.readBounds text' = some (least', most', rest')) :
    least' = least ∧ most' = most ∧ Trails rest rest' := by
  rw [Flags.readBounds] at known known'
  obtain ⟨⟨count, behind⟩, counted, known⟩ := Option.bind_eq_some_iff.mp known
  obtain ⟨⟨count', behind'⟩, counted', known'⟩ := Option.bind_eq_some_iff.mp known'
  obtain ⟨rfl, trails⟩ := steady_readCount flags (trails_skip trails) counted counted'
  dsimp only at known known'
  split at known
  · obtain ⟨behind', rfl, behind⟩ := trails.exists_cons rfl
    cases known
    cases known'
    exact ⟨rfl, rfl, behind⟩
  · obtain ⟨behind', rfl, behind⟩ := trails.exists_cons rfl
    have further : Trails (flags.skip _) (flags.skip _) := trails_skip behind
    split at known
    · rename_i opens
      obtain ⟨last, opens', further⟩ := further.exists_cons opens
      simp only at known'
      rw [opens'] at known'
      cases known
      cases known'
      exact ⟨rfl, rfl, further⟩
    · rename_i other
      simp only at known'
      split at known'
      · rename_i opens'
        exact absurd opens' (further.ne_cons other (by decide) _)
      · obtain ⟨⟨most, ending⟩, counted, known⟩ := Option.bind_eq_some_iff.mp known
        obtain ⟨⟨most', ending'⟩, counted', known'⟩ := Option.bind_eq_some_iff.mp known'
        obtain ⟨rfl, further⟩ := steady_readCount flags further counted counted'
        dsimp only at known known'
        split at known
        · obtain ⟨last, rfl, behind⟩ := further.exists_cons rfl
          simp only at known'
          split at known
          · rw [if_pos ‹_›] at known'
            cases known
            cases known'
            exact ⟨rfl, rfl, behind⟩
          · cases known
        · cases known
  · cases known

/-! ### Groups -/

theorem readFlags_append {seen : List Char} {value : Bool} {inside : Flags} {c : Char}
    {text rest : List Char} (behind : List Char)
    (known : readFlags seen value flags text = some (inside, c, rest)) :
    readFlags seen value flags (text ++ behind) = some (inside, c, rest ++ behind) := by
  induction text generalizing seen value flags with
  | nil => cases known
  | cons d text inductionHypothesis =>
    rw [readFlags] at known
    rw [List.cons_append, readFlags]
    split at known
    · rw [if_pos ‹_›]
      split at known
      · cases known
      · rw [if_neg ‹_›]
        cases known
        rfl
    rw [if_neg ‹_›]
    split at known
    · cases known
    rw [if_neg ‹_›]
    split at known
    · rw [if_pos ‹_›]
      exact inductionHypothesis flags known
    rw [if_neg ‹_›]
    split at known
    · exact inductionHypothesis _ known
    · cases known

/-- Where taking signs stops within a text, it stops there too if the text is longer. -/
theorem takeWhile_append_of_drop {wanted : Char → Bool} {text rest : List Char} {c : Char}
    (behind : List Char) (stops : text.drop (text.takeWhile wanted).length = c :: rest) :
    (text ++ behind).takeWhile wanted = text.takeWhile wanted ∧
      (text ++ behind).drop (text.takeWhile wanted).length = c :: (rest ++ behind) := by
  have inside : (text.takeWhile wanted).length < text.length := by
    have left := congrArg List.length stops
    rw [List.length_drop, List.length_cons] at left
    omega
  rw [List.takeWhile_append, if_neg (Nat.ne_of_lt inside),
    List.drop_append_of_le_length (Nat.le_of_lt inside), stops]
  exact ⟨rfl, rfl⟩

theorem readGroupName_append {name : String} {text rest : List Char} (behind : List Char)
    (known : readGroupName text = some (name, rest)) :
    readGroupName (text ++ behind) = some (name, rest ++ behind) := by
  rw [readGroupName] at known
  dsimp only at known
  split at known
  · rename_i first later c tail taken left
    obtain ⟨taken', left'⟩ := takeWhile_append_of_drop behind left
    rw [taken] at known
    rw [readGroupName, taken', left', taken]
    dsimp only
    split at known
    · rw [if_pos ‹_›]
      cases known
      rfl
    · cases known
  · cases known

theorem steady_readGroupName : Steady readGroupName := by
  intro text text' name rest name' rest' trails known known'
  rcases trails with rfl | ⟨rfl, rfl⟩
  · rw [readGroupName_append [')'] known] at known'
    cases known'
    exact ⟨rfl, .inl rfl⟩
  · cases known

theorem steady_named : Steady fun text =>
    (readGroupName text).map fun result => (Opening.named result.1, result.2) := by
  intro text text' opening rest opening' rest' trails known known'
  obtain ⟨⟨name, behind⟩, named, known⟩ := Option.map_eq_some_iff.mp known
  obtain ⟨⟨name', behind'⟩, named', known'⟩ := Option.map_eq_some_iff.mp known'
  obtain ⟨rfl, ahead⟩ := steady_readGroupName trails named named'
  cases known
  cases known'
  exact ⟨rfl, ahead⟩

/-- There is a sign to end the flags, so the parenthesis is not read with them. -/
theorem steady_readSwitch : Steady fun text => match readFlags [] true flags text with
    | some (inside, ':', rest) => some (Opening.group false inside, rest)
    | some (flags, _, after) =>
      if text.head? == some ')' then none else some (.switch flags, after)
    | none => none := by
  intro text text' opening rest opening' rest' trails known known'
  rcases trails with rfl | ⟨rfl, rfl⟩
  · dsimp only at known known'
    split at known
    case h_1 inside behind switched =>
      rw [readFlags_append flags [')'] switched] at known'
      cases known
      cases known'
      exact ⟨rfl, .inl rfl⟩
    case h_2 inside sign behind noColon switched =>
      rw [readFlags_append flags [')'] switched] at known'
      split at known
      · cases known
      cases known
      split at known'
      case h_1 same =>
        cases same
        exact absurd rfl noColon
      case h_2 same =>
        cases same
        split at known'
        · cases known'
        · cases known'
          exact ⟨rfl, .inl rfl⟩
      case h_3 => cases known'
    case h_3 => cases known
  · cases known

/-- What an opening parenthesis opens. -/
theorem steady_readOpening : Steady (readOpening flags) := by
  intro text text' opening rest opening' rest' trails known known'
  have ahead : Trails (flags.skip text) (flags.skip text') := trails_skip trails
  rw [readOpening] at known known'
  split at known
  case h_1 | h_2 | h_3 | h_4 => cases known
  case h_5 opens =>
    obtain ⟨_, opens', question⟩ := ahead.exists_cons opens
    obtain ⟨_, rfl, letter⟩ := question.exists_cons rfl
    obtain ⟨_, rfl, angle⟩ := letter.exists_cons rfl
    rw [opens'] at known'
    simp only at known'
    exact steady_named angle known known'
  case h_6 opens =>
    obtain ⟨_, opens', question⟩ := ahead.exists_cons opens
    obtain ⟨_, rfl, angle⟩ := question.exists_cons rfl
    rw [opens'] at known'
    split at known'
    case h_1 | h_2 | h_3 | h_4 => cases known'
    case h_5 same => exact absurd same (by simp)
    case h_6 same =>
      cases same
      exact steady_named angle known known'
    case h_7 noName same =>
      cases same
      exact absurd rfl (noName _)
    case h_8 noQuestion => exact absurd rfl (noQuestion _)
  case h_7 noNameP noName opens =>
    obtain ⟨_, opens', question⟩ := ahead.exists_cons opens
    rw [opens'] at known'
    split at known'
    case h_1 | h_2 | h_3 | h_4 => cases known'
    case h_5 same =>
      cases same
      exact absurd rfl (question.ne_cons_cons noNameP (by decide) (by decide) _)
    case h_6 same =>
      cases same
      exact absurd rfl (question.ne_cons noName (by decide) _)
    case h_7 same =>
      cases same
      exact steady_readSwitch flags question known known'
    case h_8 noQuestion => exact absurd rfl (noQuestion _)
  case h_8 noQuestion =>
    split at known'
    case h_8 =>
      cases known
      cases known'
      exact ⟨rfl, ahead⟩
    all_goals
      rename_i opens'
      exact absurd opens' (ahead.ne_cons noQuestion (by decide) _)

/-! ### Escapes -/

namespace Escape

theorem steady_readHex (width : Nat) : Steady (readHex flags width) := by
  intro text text' value rest value' rest' trails known known'
  have ahead : Trails (flags.skip text) (flags.skip text') := trails_skip trails
  rw [readHex] at known known'
  split at known
  · rename_i opens
    obtain ⟨_, opens', ahead₁⟩ := ahead.exists_cons opens
    rw [opens'] at known'
    simp only at known'
    split at known
    · cases known
    · rename_i digits behind some gathered
      obtain ⟨behind', gathered', ahead₂⟩ :=
        trails_gather ahead₁ gathered (.inl (List.cons_ne_nil _ _))
      obtain ⟨last, rfl, ahead₃⟩ := ahead₂.exists_cons rfl
      rw [gathered'] at known'
      cases digits with
      | nil => exact absurd rfl some
      | cons d digits =>
        simp only at known'
        exact steady_map Escape.literal _ (trails_skip ahead₃) known known'
    · cases known
  · rename_i noBrace
    split at known'
    · rename_i opens'
      exact absurd opens' (ahead.ne_cons noBrace (by decide) _)
    · match gathered : flags.gatherWithin (fun _ => true) width false (flags.skip text) with
      | (digits, behind) =>
        rw [gathered] at known
        dsimp only at known
        split at known
        · cases known
        · rename_i enough
          obtain ⟨behind', gathered', ahead₁⟩ := trails_gatherWithin ahead gathered
            (.inr (.inr (Nat.le_of_not_lt enough)))
          rw [gathered'] at known'
          dsimp only at known'
          rw [if_neg enough] at known'
          split at known
          · rename_i hex
            rw [hex] at known'
            dsimp only at known'
            split at known
            · cases known
            · rw [if_neg ‹_›] at known'
              cases known
              cases known'
              exact ⟨rfl, ahead₁⟩
          · cases known

theorem steady_readProperty (negated : Bool) : Steady (readProperty flags negated) := by
  intro text text' value rest value' rest' trails known known'
  have ahead : Trails (flags.skip text) (flags.skip text') := trails_skip trails
  have looked : ∀ name, Steady fun text => if flags.scope = .narrow then none else
      (property? name).bind fun ranges =>
        some (Escape.set ((flags.fold (.table ranges)).negatedIf negated), text) := by
    intro name text text' _ rest _ rest' trails known known'
    dsimp only at known known'
    split at known
    · cases known
    · rw [if_neg ‹_›] at known'
      obtain ⟨ranges, found, known⟩ := Option.bind_eq_some_iff.mp known
      rw [found] at known'
      exact steady_pure _ trails known known'
  rw [readProperty] at known known'
  split at known
  · rename_i opens
    obtain ⟨_, opens', ahead₁⟩ := ahead.exists_cons opens
    rw [opens'] at known'
    simp only at known'
    split at known
    · rename_i name close behind gathered
      obtain ⟨_, gathered', ahead₂⟩ :=
        trails_gather ahead₁ gathered (.inl (List.cons_ne_nil _ _))
      obtain ⟨_, rfl, ahead₃⟩ := ahead₂.exists_cons rfl
      rw [gathered'] at known'
      exact looked name ahead₃ known known'
    · cases known
  · rename_i c behind noBrace opens
    obtain ⟨_, opens', ahead₁⟩ := ahead.exists_cons opens
    rw [opens'] at known'
    split at known'
    · rename_i same
      cases same
      exact (noBrace rfl).elim
    · rename_i same
      cases same
      split at known
      · cases known
      · rw [if_neg ‹_›] at known'
        exact looked [c] ahead₁ known known'
    · cases known'
  · cases known

theorem steady_readWordEdge : Steady (readWordEdge flags) := by
  intro text text' value rest value' rest' trails known known'
  unfold readWordEdge at known known'
  split at known
  · rename_i behind
    obtain ⟨behind', rfl, ahead⟩ := trails.exists_cons rfl
    simp only at known'
    split at known
    · cases known
    · rename_i first others skip_eq
      have ahead₁ : Trails (flags.skip behind) (flags.skip behind') := trails_skip ahead
      obtain ⟨_, skip_eq', -⟩ := ahead₁.exists_cons skip_eq
      rw [skip_eq'] at known'
      dsimp only at known'
      split at known
      · rw [if_pos ‹_›] at known'
        cases known
        cases known'
        exact ⟨rfl, trails⟩
      · rw [if_neg ‹_›] at known'
        split at known
        · rename_i name rest gathered
          obtain ⟨_, gathered', ahead₂⟩ :=
            trails_gather ahead gathered (.inl (List.cons_ne_nil _ _))
          obtain ⟨_, rfl, ahead₃⟩ := ahead₂.exists_cons rfl
          rw [gathered'] at known'
          simp only at known'
          exact steady_map Escape.look _ ahead₃ known known'
        · cases known
  · rename_i noBrace
    cases known
    split at known'
    · exact absurd rfl (trails.ne_cons noBrace (by decide) _)
    · cases known'
      exact ⟨rfl, trails⟩

/-- What follows a backslash: one sign says all, or leaves the rest to another part. -/
theorem steady_read : Steady (read flags) := by
  intro text text' value rest value' rest' trails known known'
  fun_cases read flags text
  case case1 => cases known
  all_goals
    obtain ⟨behind', rfl, ahead⟩ := trails.exists_cons rfl
    rw [read] at known known'
  all_goals first
    | assumption
    | exact steady_pure _ ahead known known'
    | exact steady_map Escape.set _ ahead known known'
    | exact steady_if (Escape.literal _) ahead known known'
    | exact steady_readProperty flags _ ahead known known'
    | exact steady_readHex flags _ ahead known known'
    | exact steady_readWordEdge flags ahead known known'

end Escape

end

end Rulebook.Pattern
