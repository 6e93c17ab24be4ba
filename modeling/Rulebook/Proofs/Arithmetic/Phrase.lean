/-
This file holds arithmetic expressions as they are written, with the blanks after each of their
tokens, and the syntax tree that each of them stands for. The level of an expression says what
binds it together: a factor is a number or stands in parentheses, a product is made of factors
and groups to the left, and a sum is made of products and groups to the right.
-/

import Rulebook.Proofs.Derivation.Reading
import Rulebook.Proofs.Text.Boundary
import Rulebook.Unicode.Blank
import Rulebook.Unicode.Digit

namespace Rulebook.Arithmetic

open Unicode (isBlank isDigit)

/-! ### Characters -/

/-- No blank is a digit. -/
theorem isDigit_of_isBlank {c : Char} (blank : isBlank c = true) : isDigit c = false := by
  have listed : ∀ interval ∈ Unicode.blanks, ∀ code ∈ List.range' interval.1
      (interval.2 + 1 - interval.1), isDigit (Char.ofNat code) = false := by decide
  obtain ⟨interval, member, inside⟩ := List.any_eq_true.mp blank
  obtain ⟨low, high⟩ := Bool.and_eq_true_iff.mp inside
  have low := of_decide_eq_true low
  have high := of_decide_eq_true high
  have found := listed interval member c.toNat (List.mem_range'_1.mpr (by omega))
  rwa [Char.ofNat_toNat] at found

/-- Blanks, or none. -/
structure Blanks where
  chars : List Char
  blank : ∀ c ∈ chars, isBlank c = true

/-- The digits of a number. -/
structure Digits where
  chars : List Char
  nonempty : chars ≠ []
  digit : ∀ c ∈ chars, isDigit c = true

def Blanks.none : Blanks :=
  ⟨[], List.forall_mem_nil _⟩

def Blanks.space : Blanks :=
  ⟨[' '], List.forall_mem_singleton.mpr rfl⟩

theorem isDigit_of_mem_toDigits {value : Nat} {c : Char} (member : c ∈ Nat.toDigits 10 value) :
    isDigit c = true := by
  have decimal := Nat.isDigit_of_mem_toDigits (by decide) (by decide) member
  obtain ⟨low, high⟩ := Bool.and_eq_true_iff.mp decimal
  have low : '0' ≤ c := of_decide_eq_true low
  have high : c ≤ '9' := of_decide_eq_true high
  have narrow : c.val < 128 := UInt32.lt_of_le_of_lt high (by decide)
  rw [isDigit, if_pos narrow, decide_eq_true low, decide_eq_true high]
  rfl

/-- The decimal digits of a value. -/
def Digits.ofNat (value : Nat) : Digits :=
  ⟨Nat.toDigits 10 value, Nat.toDigits_ne_nil, fun _ => isDigit_of_mem_toDigits⟩

/-! ### Phrases -/

/-- How tightly a phrase is bound together. -/
inductive Level where
  | factor
  | product
  | sum

/-- An expression as it is written. -/
inductive Phrase : Level → Type
  | number (digits : Digits) (blanks : Blanks) : Phrase .factor
  | paren (opening : Blanks) (inner : Phrase .sum) (closing : Blanks) : Phrase .factor
  | factor (inner : Phrase .factor) : Phrase .product
  | times (left : Phrase .product) (blanks : Blanks) (right : Phrase .factor) : Phrase .product
  | product (inner : Phrase .product) : Phrase .sum
  | plus (left : Phrase .product) (blanks : Blanks) (right : Phrase .sum) : Phrase .sum

namespace Phrase

variable {level : Level}

/-- The characters of a phrase. -/
def chars {level : Level} : Phrase level → List Char
  | .number digits blanks => digits.chars ++ blanks.chars
  | .paren opening inner closing => '(' :: (opening.chars ++ (inner.chars ++ ')' :: closing.chars))
  | .factor inner => inner.chars
  | .times left blanks right => left.chars ++ '*' :: (blanks.chars ++ right.chars)
  | .product inner => inner.chars
  | .plus left blanks right => left.chars ++ '+' :: (blanks.chars ++ right.chars)

/-- How deep the parentheses of a phrase nest. -/
def depth {level : Level} : Phrase level → Nat
  | .number _ _ => 0
  | .paren _ inner _ => inner.depth + 1
  | .factor inner => inner.depth
  | .times left _ right => max left.depth right.depth
  | .product inner => inner.depth
  | .plus left _ right => max left.depth right.depth

/-- The syntax tree that a phrase stands for, at an offset. A sum or a product of one operand is
the operand itself. -/
def tree (source : Source) {level : Level} : Phrase level → Nat → Ast.Node
  | .number digits _, offset => .leaf source "number" offset digits.chars
  | .paren opening inner _, offset =>
    .ofChildren "paren" [inner.tree source (offset + 1 + byteCount opening.chars)]
  | .factor inner, offset => inner.tree source offset
  | .times left blanks right, offset =>
    let sign := offset + byteCount left.chars
    .ofChildren "mul" [.leaf source "'*'" sign ['*'], left.tree source offset,
      right.tree source (sign + 1 + byteCount blanks.chars)]
  | .product inner, offset => inner.tree source offset
  | .plus left blanks right, offset =>
    let sign := offset + byteCount left.chars
    .ofChildren "add" [.leaf source "'+'" sign ['+'], left.tree source offset,
      right.tree source (sign + 1 + byteCount blanks.chars)]

/-- A phrase begins with a digit or with a parenthesis. -/
theorem exists_head (phrase : Phrase level) :
    ∃ c rest, phrase.chars = c :: rest ∧ (isDigit c = true ∨ c = '(') := by
  induction phrase with
  | number digits blanks =>
    obtain ⟨c, rest, equal⟩ := List.exists_cons_of_ne_nil digits.nonempty
    refine ⟨c, rest ++ blanks.chars, by rw [chars, equal, List.cons_append], .inl ?_⟩
    exact digits.digit c (by rw [equal]; exact List.mem_cons_self)
  | paren opening inner closing => exact ⟨'(', _, rfl, .inr rfl⟩
  | factor inner inductionHypothesis => exact inductionHypothesis
  | product inner inductionHypothesis => exact inductionHypothesis
  | times left blanks right inductionHypothesis | plus left blanks right inductionHypothesis =>
    obtain ⟨c, rest, equal, begins⟩ := inductionHypothesis
    exact ⟨c, _, by rw [chars, equal, List.cons_append], begins⟩

end Phrase

/-! ### What may follow -/

namespace Level

/-- The signs that may follow a phrase of a level, if anything does. -/
def followers : Level → List Char
  | .factor => ['*', '+', ')']
  | .product => ['+', ')']
  | .sum => [')']

/-- A phrase of the level may stand before a text. -/
def Before (level : Level) (text : List Char) : Prop :=
  ∀ c ∈ text.head?, c ∈ level.followers

end Level

end Rulebook.Arithmetic
