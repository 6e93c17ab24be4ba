/-
This file shows that a search reports nothing but matches. Every address at which the search waits
is reached by a way from the entry of the program: one that began at the start of the text, or
further on if the pattern is not anchored. What is reported is where one of these ways accepts.

Nothing is said about which of the matches is reported, or that one is if there is any.
-/

import Rulebook.Pattern.Search
import Rulebook.Proofs.Pattern.Meaning
import Rulebook.Proofs.Text.Boundary

namespace Rulebook.Pattern

open Relation (ReflTransGen)

/-- The place between two parts of a text. -/
def Spot.behind (front rest : List Char) : Spot :=
  ⟨front.getLast?, rest⟩

namespace Program

variable {program : Program} {spot : Spot} {frontier : Frontier} {address way : Nat} {c : Char}
  {front rest text : List Char}

/-! ### What leads on without a character -/

/-- What an exploration adds to the waiting ways is reached from where it set out. -/
theorem reaches_of_explore {budget : Nat} {pending : List Nat}
    (member : way ∈
      (program.explore spot.before spot.rest.head? budget pending frontier).waiting) :
    way ∈ frontier.waiting ∨ ∃ address ∈ pending,
      ReflTransGen (Code.Step program.code) (address, spot) (way, spot) := by
  induction budget generalizing pending frontier with
  | zero => exact .inl member
  | succ budget inductionHypothesis =>
    cases pending with
    | nil => exact .inl member
    | cons address pending =>
      obtain ⟨reached, waiting⟩ := frontier
      -- What is reached from the addresses that are left is reached from all of them.
      have later : (∃ address ∈ pending,
          ReflTransGen (Code.Step program.code) (address, spot) (way, spot)) →
          ∃ other ∈ address :: pending,
            ReflTransGen (Code.Step program.code) (other, spot) (way, spot) := by
        rintro ⟨other, member, reaches⟩
        exact ⟨other, List.mem_cons_of_mem _ member, reaches⟩
      have onward : ∀ next, Code.Step program.code (address, spot) (next, spot) →
          ReflTransGen (Code.Step program.code) (next, spot) (way, spot) →
          ∃ other ∈ address :: pending,
            ReflTransGen (Code.Step program.code) (other, spot) (way, spot) :=
        fun next step reaches => ⟨address, List.mem_cons_self, .head step reaches⟩
      rw [explore] at member
      split at member
      · exact (inductionHypothesis member).imp_right later
      · dsimp only at member
        split at member
        · rename_i condition next found
          split at member
          · rename_i holds
            rcases inductionHypothesis member with waits | ⟨other, isPending, reaches⟩
            · exact .inl waits
            · rcases List.mem_cons.mp isPending with rfl | isPending
              · exact .inr (onward other (.require found holds) reaches)
              · exact .inr (later ⟨other, isPending, reaches⟩)
          · exact (inductionHypothesis member).imp_right later
        · rename_i left right found
          rcases inductionHypothesis member with waits | ⟨other, isPending, reaches⟩
          · exact .inl waits
          · rcases List.mem_cons.mp isPending with rfl | isPending
            · exact .inr (onward other (.first found) reaches)
            · rcases List.mem_cons.mp isPending with rfl | isPending
              · exact .inr (onward other (.second found) reaches)
              · exact .inr (later ⟨other, isPending, reaches⟩)
        · rcases inductionHypothesis member with waits | reached
          · rcases List.mem_cons.mp waits with rfl | waits
            · exact .inr ⟨way, List.mem_cons_self, .refl⟩
            · exact .inl waits
          · exact .inr (later reached)

theorem reaches_of_enter (spot : Spot)
    (member : way ∈ (program.enter spot.before spot.rest.head? address frontier).waiting) :
    way ∈ frontier.waiting ∨
      ReflTransGen (Code.Step program.code) (address, spot) (way, spot) := by
  rcases reaches_of_explore member with waits | ⟨other, isPending, reaches⟩
  · exact .inl waits
  · rw [List.mem_singleton] at isPending
    exact .inr (isPending ▸ reaches)

/-! ### Characters -/

/-- A way that has taken a character is reached from where it was before. -/
theorem reaches_of_move {before : Option Char}
    (member : way ∈ (program.move c rest.head? frontier address).waiting) :
    way ∈ frontier.waiting ∨ ReflTransGen (Code.Step program.code)
      (address, ⟨before, c :: rest⟩) (way, ⟨some c, rest⟩) := by
  rw [move] at member
  split at member
  · rename_i set next found
    split at member
    · rename_i taken
      rcases reaches_of_enter ⟨some c, rest⟩ member with waits | reaches
      · exact .inl waits
      · exact .inr (.head (.take found taken) reaches)
    · exact .inl member
  · exact .inl member

theorem reaches_of_moves {before : Option Char} {live : List Nat}
    (member : way ∈ (live.foldl (program.move c rest.head?) frontier).waiting) :
    way ∈ frontier.waiting ∨ ∃ address ∈ live, ReflTransGen (Code.Step program.code)
      (address, ⟨before, c :: rest⟩) (way, ⟨some c, rest⟩) := by
  induction live generalizing frontier with
  | nil => exact .inl member
  | cons address live inductionHypothesis =>
    rcases inductionHypothesis member with moved | ⟨other, isLive, reaches⟩
    · exact (reaches_of_move moved).imp_right fun reaches => ⟨address, List.mem_cons_self, reaches⟩
    · exact .inr ⟨other, List.mem_cons_of_mem _ isLive, reaches⟩

theorem reaches_of_advance {before : Option Char} {live : List Nat}
    (member : way ∈ (program.advance c rest.head? live).waiting) :
    ∃ address ∈ live, ReflTransGen (Code.Step program.code)
      (address, ⟨before, c :: rest⟩) (way, ⟨some c, rest⟩) :=
  (reaches_of_moves member).resolve_left List.not_mem_nil

/-! ### The whole search -/

/-- Behind some characters, an address is reached from the entry: from the start of the text, or
from further on if the pattern is not anchored. -/
def Arrives (program : Program) (front rest : List Char) (address : Nat) : Prop :=
  ∃ skipped taken, front = skipped ++ taken ∧ (program.anchored = true → skipped = []) ∧
    ReflTransGen (Code.Step program.code) (program.entry, .behind skipped (taken ++ rest))
      (address, .behind front rest)

/-- A way accepts behind as many bytes of a text. -/
def Ends (program : Program) (text : List Char) (length : Nat) : Prop :=
  ∃ front rest address, text = front ++ rest ∧ byteCount front = length ∧
    program.Arrives front rest address ∧ program.code[address]? = some .accept

theorem Arrives.trans (arrives : program.Arrives front (c :: rest) address)
    (reaches : ReflTransGen (Code.Step program.code) (address, .behind front (c :: rest))
      (way, ⟨some c, rest⟩)) : program.Arrives (front ++ [c]) rest way := by
  obtain ⟨skipped, taken, rfl, anchored, came⟩ := arrives
  refine ⟨skipped, taken ++ [c], by rw [List.append_assoc], anchored, ?_⟩
  have here : Spot.behind (skipped ++ taken ++ [c]) rest = ⟨some c, rest⟩ := by
    rw [Spot.behind, List.getLast?_concat]
  rw [here, List.append_assoc, List.singleton_append]
  exact came.trans reaches

/-- A way may begin at the start, and anywhere if the pattern is not anchored. -/
theorem arrives_of_enters (begins : program.anchored = true → front = [])
    (reaches : ReflTransGen (Code.Step program.code) (program.entry, .behind front rest)
      (way, .behind front rest)) : program.Arrives front rest way :=
  ⟨front, [], (List.append_nil front).symm, begins, reaches⟩

theorem accept_of_accepts (accepts : program.accepts address = true) :
    program.code[address]? = some .accept := by
  rw [Program.accepts] at accepts
  split at accepts
  · assumption
  · cases accepts

/-- What is judged to be a match is one. -/
theorem ends_of_judge {waiting : List Nat} (cut : text = front ++ rest)
    (arrives : ∀ way ∈ waiting, program.Arrives front rest way)
    (accepted : (program.judge waiting).accepted = true) : program.Ends text (byteCount front) := by
  obtain ⟨address, waits, accepts⟩ := List.any_eq_true.mp accepted
  exact ⟨front, rest, address, cut, rfl, arrives address waits, accept_of_accepts accepts⟩

/-- What is known after the waiting ways have been judged. -/
theorem ends_of_judged {best : Option Nat} {waiting : List Nat} (cut : text = front ++ rest)
    (arrives : ∀ way ∈ waiting, program.Arrives front rest way)
    (known : ∀ length, best = some length → program.Ends text length) (length : Nat)
    (found : (if (program.judge waiting).accepted then some (byteCount front) else best) =
      some length) : program.Ends text length := by
  split at found
  · rename_i accepted
    exact Option.some.inj found ▸ ends_of_judge cut arrives accepted
  · exact known length found

theorem ends_of_follow {best : Option Nat} {waiting : List Nat} {length : Nat}
    (cut : text = front ++ rest) (arrives : ∀ way ∈ waiting, program.Arrives front rest way)
    (known : ∀ length, best = some length → program.Ends text length)
    (found : program.follow (byteCount front) best waiting rest = some length) :
    program.Ends text length := by
  induction rest generalizing front best waiting with
  | nil =>
    rw [follow] at found
    exact ends_of_judged cut arrives known length found
  | cons c rest inductionHypothesis =>
    have cut' : text = front ++ [c] ++ rest := by
      rw [cut, List.append_assoc, List.singleton_append]
    have count_eq : byteCount front + c.utf8Size = byteCount (front ++ [c]) := by
      rw [byteCount_append]
      rfl
    have moved : ∀ way ∈ (program.advance c rest.head? (program.judge waiting).live).waiting,
        program.Arrives (front ++ [c]) rest way := by
      intro way member
      obtain ⟨address, isLive, reaches⟩ := reaches_of_advance member
      exact (arrives address (List.takeWhile_prefix _ |>.subset isLive)).trans reaches
    have known' := ends_of_judged cut arrives known
    rw [follow, count_eq] at found
    generalize (if (program.judge waiting).accepted then some (byteCount front) else best) = reached
      at known' found
    rcases ite_eq_iff.mp found with ⟨-, ended⟩ | ⟨-, found⟩
    · exact known' length ended
    · refine inductionHypothesis cut' (fun way member => ?_) known' found
      rw [List.mem_reverse] at member
      split at member
      · rename_i searching
        have here : Spot.behind (front ++ [c]) rest = ⟨some c, rest⟩ := by
          rw [Spot.behind, List.getLast?_concat]
        rcases reaches_of_enter ⟨some c, rest⟩ member with came | reaches
        · exact moved way came
        · refine arrives_of_enters (fun anchored => ?_) (here ▸ reaches)
          rw [anchored] at searching
          cases searching
      · exact moved way member

/-- What is reported is the end of a way that accepts. -/
theorem ends_of_matchEnd? {length : Nat} (found : program.matchEnd? text = some length) :
    program.Ends text length := by
  rw [matchEnd?] at found
  rcases ite_eq_iff.mp found with ⟨-, absurd⟩ | ⟨-, found⟩
  · cases absurd
  · refine ends_of_follow (List.nil_append text).symm (fun way member => ?_)
      (fun _ absurd => by cases absurd) found
    rw [List.mem_reverse] at member
    rcases reaches_of_enter ⟨none, text⟩ member with absurd | reaches
    · cases absurd
    · exact arrives_of_enters (fun _ => rfl) reaches

/-- What the program of an expression reports is the end of a match. It begins at the start of the
text if the expression is anchored. -/
theorem matches_of_matchEnd?_ofExpr {expr : Expr} {length : Nat}
    (found : (ofExpr expr).matchEnd? text = some length) :
    ∃ skipped taken rest, text = skipped ++ taken ++ rest ∧ byteCount (skipped ++ taken) = length ∧
      (expr.anchored = true → skipped = []) ∧
      expr.Matches (.behind skipped (taken ++ rest)) (.behind (skipped ++ taken) rest) := by
  obtain ⟨_, rest, address, cut, count_eq, ⟨skipped, taken, rfl, anchored, reaches⟩, accept⟩ :=
    ends_of_matchEnd? found
  obtain ⟨steps, accepts⟩ := Code.accepts_of_reaches reaches (.here accept)
  exact ⟨skipped, taken, rest, cut, count_eq, anchored, matches_of_accepts accepts⟩

end Program

end Rulebook.Pattern
