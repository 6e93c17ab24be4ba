/-
This file shows that the work allowed makes no difference to what a recognizer answers. Each
kind of rule goes on where it went before if its questions are answered as before, and some
questions that had no answer may get one. So a question has one answer, or none however much
work is allowed.
-/

import Rulebook.Proofs.Recognition.Recognizer

namespace Rulebook.Recognition

variable {Value Result : Type}

/-- With more work allowed, a verdict is the same, or there is one where there was none. -/
def Verdict.Within (less more : Verdict Value) : Prop :=
  less = .exhausted ∨ less = more

namespace Verdict.Within

theorem refl (verdict : Verdict Value) : verdict.Within verdict :=
  .inr rfl

theorem bind {less more : Verdict Value} {next next' : Value → Verdict Result}
    (within : less.Within more) (rest : ∀ value, (next value).Within (next' value)) :
    (less >>= next).Within (more >>= next') := by
  rcases within with rfl | rfl
  · exact .inl rfl
  · cases less with
    | gives value => exact rest value
    | aborts cause => exact .inr rfl
    | exhausted => exact .inr rfl

end Verdict.Within

/-- A recognizer answers as another does, or has no answer. -/
def Asks (ask ask' : Ask) : Prop :=
  ∀ offset name, (ask offset name).Within (ask' offset name)

variable {ask ask' : Ask}

theorem within_optional (asks : Asks ask ask') (rule : Option String) (otherwise : Bool)
    (offset : Nat) :
    (optional ask rule otherwise offset).Within (optional ask' rule otherwise offset) := by
  cases rule with
  | none => exact .refl _
  | some name => exact asks offset name

theorem within_sequence (asks : Asks ask ask') (items : List SequenceItem) (offset : Nat) :
    (sequence ask items offset).Within (sequence ask' items offset) := by
  induction items generalizing offset with
  | nil => exact .refl _
  | cons item rest inductionHypothesis =>
    refine (asks offset item.rule).bind fun answer => ?_
    cases answer with
    | some stop => exact inductionHypothesis stop
    | none =>
      cases item.required with
      | true => exact .refl _
      | false => exact inductionHypothesis offset

theorem within_choice (asks : Asks ask ask') (offset : Nat) (alternatives : List String) :
    (choice ask offset alternatives).Within (choice ask' offset alternatives) := by
  induction alternatives with
  | nil => exact .refl _
  | cons alternative rest inductionHypothesis =>
    refine (asks offset alternative).bind fun answer => ?_
    cases answer with
    | some stop => exact .refl _
    | none => exact inductionHypothesis

theorem within_listRounds (asks : Asks ask ask') (name : String) (rule : ListRule)
    {budget more : Nat} (le : budget ≤ more) (last : Option Nat) (offset : Nat) :
    (listRounds ask name rule budget last offset).Within
      (listRounds ask' name rule more last offset) := by
  induction budget generalizing more last offset with
  | zero => exact .inl rfl
  | succ budget inductionHypothesis =>
    obtain ⟨more, rfl⟩ := Nat.exists_eq_add_of_le' (Nat.zero_lt_of_lt le)
    refine (within_optional asks rule.separator true offset).bind fun separated => ?_
    cases separated with
    | none => exact within_optional asks rule.closing true offset
    | some start =>
      dsimp only
      split
      · exact .refl _
      · refine (within_optional asks rule.closing false start).bind fun closed => ?_
        cases closed with
        | some stop => exact .refl _
        | none =>
          refine (asks start rule.item).bind fun answer => ?_
          cases answer with
          | some stop => exact inductionHypothesis (Nat.le_of_succ_le_succ le) (some start) stop
          | none => exact .refl _

theorem within_list (asks : Asks ask ask') {budget more : Nat} (le : budget ≤ more)
    (name : String) (rule : ListRule) (offset : Nat) :
    (list ask budget name rule offset).Within (list ask' more name rule offset) := by
  refine (within_optional asks rule.opening true offset).bind fun opened => ?_
  cases opened with
  | none => exact .refl _
  | some start =>
    refine (within_optional asks rule.closing false start).bind fun closed => ?_
    cases closed with
    | some stop => exact .refl _
    | none =>
      refine (asks start rule.item).bind fun answer => ?_
      cases answer with
      | none => exact .refl _
      | some stop => exact within_listRounds asks name rule le none stop

theorem within_pick (asks : Asks ask ask') (offset : Nat) (passed items : List String) :
    (pick ask offset passed items).Within (pick ask' offset passed items) := by
  induction items generalizing passed with
  | nil => exact .refl _
  | cons item rest inductionHypothesis =>
    refine (asks offset item).bind fun answer => ?_
    cases answer with
    | some stop => exact .refl _
    | none => exact inductionHypothesis (passed ++ [item])

theorem within_setRounds (asks : Asks ask ask') (rule : SetRule) (rounds : Nat)
    (items : List String) (pending : Bool) (offset : Nat) :
    (setRounds ask rule rounds items pending offset).Within
      (setRounds ask' rule rounds items pending offset) := by
  induction rounds generalizing items pending offset with
  | zero => exact .refl _
  | succ rounds inductionHypothesis =>
    refine (within_pick asks offset [] items).bind fun picked => ?_
    cases picked with
    | none => exact .refl _
    | some picked =>
      dsimp only
      cases rule.separator with
      | none => exact inductionHypothesis picked.2 false picked.1
      | some separator =>
        refine (asks picked.1 separator).bind fun separated => ?_
        cases separated with
        | some further => exact inductionHypothesis picked.2 true further
        | none => exact .refl _

theorem within_set (asks : Asks ask ask') (rule : SetRule) (offset : Nat) :
    (set ask rule offset).Within (set ask' rule offset) := by
  refine (within_optional asks rule.opening true offset).bind fun opened => ?_
  cases opened with
  | none => exact .refl _
  | some start =>
    refine (within_setRounds asks rule _ rule.items false start).bind fun ended => ?_
    obtain ⟨stop, pending⟩ := ended
    cases pending with
    | true => exact .refl _
    | false => exact within_optional asks rule.closing true stop

variable {source : Source} {registry : Registry}

theorem within_body {ask ask' : Grammar → Ask} (asks : ∀ grammar, Asks (ask grammar) (ask' grammar))
    {budget more : Nat} (le : budget ≤ more) (grammar : Grammar) (offset : Nat) (rule : Rule) :
    (body source registry ask budget grammar offset rule).Within
      (body source registry ask' more grammar offset rule) := by
  unfold body
  cases rule.kind with
  | token token => exact .refl _
  | sequence items => exact within_sequence (asks grammar) items offset
  | choice choice => exact within_choice (asks grammar) offset choice.alternatives
  | list list => exact within_list (asks grammar) le rule.name list offset
  | set set => exact within_set (asks grammar) set offset
  | operator operator => exact .refl _
  | imported target =>
    dsimp only
    cases registry.lookup? target.grammar with
    | none => exact .refl _
    | some other => exact asks other _ target.rule

theorem within_recognize {fuel more : Nat} (le : fuel ≤ more) (grammar : Grammar) :
    Asks (recognize source registry fuel grammar) (recognize source registry more grammar) := by
  induction fuel generalizing more grammar with
  | zero => exact fun _ _ => .inl rfl
  | succ fuel inductionHypothesis =>
    obtain ⟨more, rfl⟩ := Nat.exists_eq_add_of_le' (Nat.zero_lt_of_lt le)
    have le := Nat.le_of_succ_le_succ le
    intro offset name
    unfold recognize
    cases grammar.rule? name with
    | none => exact .refl _
    | some rule =>
      exact (within_body (inductionHypothesis le) le grammar offset rule).bind fun _ => .refl _

/-- A question that has an answer has the same answer with more work allowed. -/
theorem recognize_eq_of_le {fuel more : Nat} (le : fuel ≤ more) {grammar : Grammar}
    {offset : Nat} {name : String}
    (answered : recognize source registry fuel grammar offset name ≠ .exhausted) :
    recognize source registry more grammar offset name =
      recognize source registry fuel grammar offset name :=
  ((within_recognize le grammar offset name).resolve_left answered).symm

end Rulebook.Recognition
