/-
This file lists the attempts of tokens in a parse: the moments at which a token is tried, each
with the key under which its outcome would be remembered. A token is tried when it is asked for
and when whitespace is skipped. To try a token is not to try another one, whether the token is
matched with the text or looked up in the memo; and it is matched with the text only if no memo
knows the outcome.
-/

import Rulebook.Parse.Engine
import Rulebook.Proofs.Parse.Contract

namespace Rulebook.Parse

variable {Value Result : Type} {environment : Environment} {state : State} {rule : Rule}
  {parent : Nat}

/-! ### Keys -/

/-- What the outcome is remembered by of the token that is tried at a moment. -/
def Moment.key? (moment : Moment) : Option MemoKey :=
  match moment.happening with
  | .tried parent rule =>
    if rule.isToken then some ⟨rule.grammar, moment.state.tree.stop parent, rule.name⟩ else none
  | _ => none

/-- There is a memo, and it knows the outcome of a key. -/
def State.knows (state : State) (key : MemoKey) : Bool :=
  state.memo.any (·.entries.contains key)

/-- The attempts of tokens among some moments, in their order. -/
def tokenAttempts (moments : List Moment) : List MemoKey :=
  moments.filterMap Moment.key?

/-- The same, if no memo knows the outcome, so that the pattern of the token has to be matched
with the text. -/
def Moment.evaluated? (moment : Moment) : Option MemoKey :=
  moment.key?.filter (!moment.state.knows ·)

/-- The attempts among some moments for which a pattern is matched with the text. -/
def evaluations (moments : List Moment) : List MemoKey :=
  moments.filterMap Moment.evaluated?

theorem State.knows_iff {memo : Memo} (present : state.memo = some memo) (key : MemoKey) :
    state.knows key = true ↔ key ∈ memo.entries := by
  rw [knows, present]
  exact Std.HashMap.contains_iff_mem

/-- Where the memo knows the outcome of a token, it makes no difference what an attempt of the
token would do. -/
theorem attemptMemoized_of_knows (isToken : rule.isToken = true)
    (knows : state.knows ⟨rule.grammar, state.tree.stop parent, rule.name⟩ = true)
    (attempt attempt' : Step Bool) :
    attemptMemoized rule parent attempt state = attemptMemoized rule parent attempt' state := by
  obtain ⟨memo, present⟩ : ∃ memo, state.memo = some memo := by
    cases present : state.memo with
    | none => simp [State.knows, present] at knows
    | some memo => exact ⟨memo, rfl⟩
  obtain ⟨outcome, found⟩ : ∃ outcome,
      memo.entries[(⟨rule.grammar, state.tree.stop parent, rule.name⟩ : MemoKey)]? =
        some outcome :=
    ⟨_, Std.HashMap.getElem?_eq_some_getElem ((State.knows_iff present _).mp knows)⟩
  have memoizing : (state.memo.isSome && rule.isToken) = true := by
    rw [present, isToken]
    rfl
  have replayed : ∀ attempt, attemptRemembering rule parent attempt state =
      attemptRemembering rule parent (pure false) state := by
    intro attempt
    simp only [attemptRemembering, bind, Step.bind, Step.stop, Step.read, consult, present,
      Memo.lookup, found]
    cases outcome <;> rfl
  simp only [attemptMemoized, bind, Step.bind, Step.note, Step.read, memoizing, if_true]
  rw [replayed attempt, replayed attempt']

@[simp]
theorem tokenAttempts_nil : tokenAttempts [] = [] := rfl

@[simp]
theorem evaluations_nil : evaluations [] = [] := rfl

theorem tokenAttempts_append (earlier later : List Moment) :
    tokenAttempts (earlier ++ later) = tokenAttempts earlier ++ tokenAttempts later :=
  List.filterMap_append

theorem evaluations_append (earlier later : List Moment) :
    evaluations (earlier ++ later) = evaluations earlier ++ evaluations later :=
  List.filterMap_append

/-- At none of some moments is a token tried. -/
def Keyless (moments : List Moment) : Prop :=
  ∀ moment ∈ moments, moment.key? = none

theorem keyless_single {moment : Moment} (keyless : moment.key? = none) :
    Keyless (Trail.single moment).moments := by
  rw [Trail.moments_single]
  exact List.forall_mem_singleton.mpr keyless

/-- The moment at which a step comes to an end is not one at which a token is tried. -/
theorem keyless_trail (outcome : Outcome Value) : Keyless outcome.trail.moments := by
  cases outcome with
  | done value state => exact keyless_single rfl
  | aborted error state => exact keyless_single rfl
  | exhausted =>
    rw [Outcome.trail, Trail.moments_empty]
    exact List.forall_mem_nil _

theorem Keyless.tokenAttempts {moments : List Moment} (keyless : Keyless moments) :
    tokenAttempts moments = [] :=
  List.filterMap_eq_nil_iff.mpr keyless

theorem Keyless.evaluations {moments : List Moment} (keyless : Keyless moments) :
    evaluations moments = [] :=
  List.filterMap_eq_nil_iff.mpr fun moment member => by
    rw [Moment.evaluated?, keyless moment member, Option.filter_none]

theorem key?_tried (isToken : rule.isToken = true) :
    Moment.key? ⟨.tried parent rule, state⟩ =
      some ⟨rule.grammar, state.tree.stop parent, rule.name⟩ :=
  if_pos isToken

theorem key?_tried_other (notToken : rule.isToken = false) :
    Moment.key? ⟨.tried parent rule, state⟩ = none :=
  if_neg (by rw [notToken]; exact Bool.false_ne_true)

/-! ### Steps that are confined to some moments -/

/-- A step passes through proper moments only, whatever happens. -/
def Confined (always : Moment → Prop) (step : Step Value) : Prop :=
  ∀ state, (step state).Meets always True fun _ _ => True

section

variable {always : Moment → Prop}

theorem Confined.bind {first : Step Value} {second : Value → Step Result}
    (left : Confined always first) (right : ∀ value, Confined always (second value)) :
    Confined always (first >>= second) :=
  fun state => (left state).bind fun value next _ => right value next

theorem confined_pure (value : Value) : Confined always (pure value : Step Value) :=
  fun _ => meets_pure trivial

theorem confined_read (view : State → Value) : Confined always (Step.read view) :=
  fun _ => meets_read trivial

variable (changed : ∀ state, always ⟨.changed, state⟩)
include changed

theorem confined_change (update : State → State) : Confined always (Step.change update) :=
  fun _ => meets_change (changed _) trivial

theorem confined_attemptToken (rule : Rule) (parent : Nat) (token : TokenRule) :
    Confined always (attemptWith rule parent (performToken environment token)) := by
  have performs : ∀ node, Confined always (performToken environment token node) := by
    intro node
    refine (confined_read _).bind fun offset => ?_
    cases token.matchAt? environment.source offset with
    | some length => exact (confined_change changed _).bind fun _ => confined_pure _
    | none => exact confined_pure _
  refine (confined_read _).bind fun node => (confined_change changed _).bind fun _ =>
    (performs node).bind fun matched => ?_
  cases matched with
  | true => exact confined_pure _
  | false => exact (confined_change changed _).bind fun _ => confined_pure _

theorem confined_attemptRemembering (rule : Rule) (parent : Nat) {attempt : Step Bool}
    (confined : Confined always attempt) :
    Confined always (attemptRemembering rule parent attempt) := by
  have consults : ∀ key, Confined always (consult key) := by
    intro key state
    unfold consult
    cases state.memo with
    | none => exact meets_pure trivial
    | some memo => exact meets_of_single (changed _) trivial
  refine (confined_read _).bind fun offset => (consults _).bind fun known => ?_
  match known with
  | some (some length) =>
    exact (confined_read _).bind fun _ => (confined_change changed _).bind fun _ =>
      confined_pure _
  | some none => exact confined_pure _
  | none =>
    exact confined.bind fun _ => (confined_read _).bind fun _ =>
      (confined_change changed _).bind fun _ => confined_pure _

end

/-! ### Steps that try no token -/

/-- A step that tries no token, whatever happens. -/
def Tokenless (step : Step Value) : Prop :=
  ∀ state, (step state).Meets (·.key? = none) True fun _ _ => True

theorem tokenless_change (update : State → State) : Tokenless (Step.change update) :=
  confined_change (fun _ => rfl) update

theorem tokenless_attemptToken (rule : Rule) (parent : Nat) (token : TokenRule) :
    Tokenless (attemptWith rule parent (performToken environment token)) :=
  confined_attemptToken (fun _ => rfl) rule parent token

/-- To look a token up is not to try another one. -/
theorem tokenless_attemptRemembering (rule : Rule) (parent : Nat) {attempt : Step Bool}
    (tokenless : Tokenless attempt) : Tokenless (attemptRemembering rule parent attempt) :=
  confined_attemptRemembering (fun _ => rfl) rule parent tokenless

end Rulebook.Parse
