/-
This file says which texts are read as integers. A row of digits denotes a number by the places of
its digits, however many noughts it begins with; the reader adds the digits up from the left. What
fits in a word of sixty-four bits is kept exactly, down to the least word, which has no counterpart
above nought. What does not fit is read again, as a decimal number.
-/

import Mathlib.Data.List.Induction
import Mathlib.Data.Nat.Digits.Defs
import Rulebook.Ast.Value

namespace Rulebook

/-! ### The number behind some digits -/

namespace Decimal

/-- The number that a row of digits denotes: each digit counts for a power of ten, by the number of
digits behind it. -/
def denoted (digits : List Char) : Nat :=
  Nat.ofDigits 10 (digits.reverse.map fun c => c.toNat - '0'.toNat)

theorem denoted_concat (digits : List Char) (c : Char) :
    denoted (digits ++ [c]) = 10 * denoted digits + (c.toNat - '0'.toNat) := by
  rw [denoted, List.reverse_append, List.reverse_singleton, List.singleton_append, List.map_cons,
    Nat.ofDigits_cons, ← denoted, Nat.add_comm]

/-- Adding up digits from the left gives what they denote. -/
theorem ofDigits_eq_denoted (digits : List Char) : ofDigits digits = denoted digits := by
  induction digits using List.reverseRecOn with
  | nil => rfl
  | append_singleton digits c inductionHypothesis =>
    rw [denoted_concat, ← inductionHypothesis, ofDigits, List.foldl_append]
    rfl

/-- The digits that a number is written with denote it. -/
theorem denoted_toDigits (number : Nat) : denoted (Nat.toDigits 10 number) = number := by
  rw [← ofDigits_eq_denoted]
  exact Nat.ofDigitChars_toDigits (by decide) (by decide)

theorem fitsWord_iff (value : Int) :
    fitsWord value = true ↔ -2 ^ 63 ≤ value ∧ value ≤ 2 ^ 63 - 1 := by
  rw [fitsWord, Bool.and_eq_true, decide_eq_true_iff, decide_eq_true_iff]
  omega

end Decimal

namespace Ast.Value

open Decimal (denoted)

variable {chars digits : List Char} {value : Int} {numeral : Decimal.Numeral}

/-! ### Integers as they are written -/

/-- Some digits, behind a minus sign if there is one. -/
def written (negative : Bool) (digits : List Char) : List Char :=
  if negative then '-' :: digits else digits

/-- The integer that some digits denote behind a sign. -/
def meant (negative : Bool) (digits : List Char) : Int :=
  if negative then -denoted digits else denoted digits

theorem isDigits_of_all (nonempty : digits ≠ []) (all : ∀ c ∈ digits, c.isDigit = true) :
    isDigits digits = true := by
  rw [isDigits, Bool.and_eq_true, Bool.not_eq_true', List.isEmpty_eq_false_iff]
  exact ⟨nonempty, List.all_eq_true.mpr all⟩

theorem splitSign_written (negative : Bool) (areDigits : isDigits digits = true) :
    splitSign (written negative digits) = (negative, digits) := by
  cases negative with
  | true => rfl
  | false =>
    -- A minus sign is no digit, so none is split off.
    rw [written, if_neg Bool.false_ne_true, splitSign]
    rintro rest rfl
    cases areDigits

theorem integer?_written (negative : Bool) (areDigits : isDigits digits = true) :
    integer? (written negative digits) =
      if Decimal.fitsWord (meant negative digits) then some (meant negative digits) else none := by
  rw [integer?, splitSign_written negative areDigits]
  dsimp only
  rw [Decimal.ofDigits_eq_denoted, areDigits, Bool.true_and]
  rfl

theorem numeral?_written (negative : Bool) (areDigits : isDigits digits = true) :
    numeral? (written negative digits) = some ⟨negative, Decimal.ofDigits digits, 0⟩ := by
  obtain ⟨nonempty, all⟩ := Bool.and_eq_true_iff.mp areDigits
  have taken : digits.takeWhile Char.isDigit = digits := by
    rw [← List.append_nil digits, List.takeWhile_append_of_pos (List.all_eq_true.mp all),
      List.takeWhile_nil]
  rw [numeral?, splitSign_written negative areDigits]
  dsimp only
  rw [taken, List.drop_length, if_neg (by simpa using nonempty)]
  show some _ = some _
  rw [List.append_nil]
  rfl

/-! ### What integers are read as -/

/-- What can be read as an integer is. -/
theorem ofChars_of_integer? (found : integer? chars = some value) :
    ofChars chars = .integer value := by
  rw [ofChars, if_neg, if_neg, found]
  -- No truth value is an integer.
  all_goals
    rintro rfl
    cases found

/-- Of the rest, what can be read as a decimal number is. -/
theorem ofChars_of_numeral? (none : integer? chars = none) (found : numeral? chars = some numeral) :
    ofChars chars = .float numeral.toFloat := by
  rw [ofChars, if_neg, if_neg, none, found]
  all_goals
    rintro rfl
    cases found

theorem ofChars_written (negative : Bool) (areDigits : isDigits digits = true) :
    ofChars (written negative digits) =
      if Decimal.fitsWord (meant negative digits) then .integer (meant negative digits)
      else .float (Decimal.Numeral.mk negative (Decimal.ofDigits digits) 0).toFloat := by
  have read := integer?_written negative areDigits
  split
  · rename_i fits
    rw [if_pos fits] at read
    exact ofChars_of_integer? read
  · rename_i tooWide
    rw [if_neg tooWide] at read
    exact ofChars_of_numeral? read (numeral?_written negative areDigits)

/-! ### Integers as they are printed -/

theorem isDigits_toDigits (number : Nat) : isDigits (Nat.toDigits 10 number) = true :=
  isDigits_of_all Nat.toDigits_ne_nil
    fun _ member => Nat.isDigit_of_mem_toDigits (by decide) (by decide) member

/-- An integer is printed as the digits of its magnitude, behind a minus sign if it is below
nought. -/
theorem toList_toString (value : Int) :
    (toString value).toList = written (decide (value < 0)) (Nat.toDigits 10 value.natAbs) := by
  cases value with
  | ofNat number => exact String.toList_ofList
  | negSucc number =>
    show ("-" ++ String.ofList (Nat.toDigits 10 (number + 1))).toList = _
    rw [String.toList_append, written, if_pos (decide_eq_true (Int.negSucc_lt_zero number))]
    exact congrArg ('-' :: ·) String.toList_ofList

theorem meant_toDigits (value : Int) :
    meant (decide (value < 0)) (Nat.toDigits 10 value.natAbs) = value := by
  rw [meant, Decimal.denoted_toDigits]
  split
  · rename_i negative
    have below : value < 0 := of_decide_eq_true negative
    omega
  · rename_i other
    have above : ¬value < 0 := of_decide_eq_false (eq_false_of_ne_true other)
    omega

/-- A minus sign or none before at least one digit, with noughts in front or without, is read as the
integer that it denotes if that fits in sixty-four bits, and as a decimal number if not. So every
word of sixty-four bits is read back from its digits. -/
theorem integers_are_exact :
    (∀ (negative : Bool) (digits : List Char), digits ≠ [] → (∀ c ∈ digits, c.isDigit = true) →
      if -2 ^ 63 ≤ meant negative digits ∧ meant negative digits ≤ 2 ^ 63 - 1 then
        ofText (String.ofList (written negative digits)) = .integer (meant negative digits)
      else ∃ float, ofText (String.ofList (written negative digits)) = .float float) ∧
    ∀ word : Int64, ofText (toString word) = .integer word.toInt := by
  refine ⟨fun negative digits nonempty all => ?_, fun word => ?_⟩
  · have read := ofChars_written negative (isDigits_of_all nonempty all)
    rw [ofText, String.toList_ofList, read]
    split
    · rename_i fits
      rw [if_pos ((Decimal.fitsWord_iff _).mpr fits)]
    · rename_i tooWide
      rw [if_neg fun fits => tooWide ((Decimal.fitsWord_iff _).mp fits)]
      exact ⟨_, rfl⟩
  · have fits : Decimal.fitsWord word.toInt = true :=
      (Decimal.fitsWord_iff _).mpr ⟨word.le_toInt, Int.le_sub_one_of_lt word.toInt_lt⟩
    show ofText (toString word.toInt) = _
    rw [ofText, toList_toString, ofChars_written _ (isDigits_toDigits _), meant_toDigits,
      if_pos fits]

/-- The least word is read behind noughts. The same digits without the sign do not fit. -/
theorem least_word_is_exact :
    "0009223372036854775808".toList ≠ [] ∧
      (∀ c ∈ "0009223372036854775808".toList, c.isDigit = true) ∧
      ofText "-0009223372036854775808" = .integer (-9223372036854775808) ∧
      ∃ float, ofText "0009223372036854775808" = .float float := by
  have nonempty : "0009223372036854775808".toList ≠ [] := by decide
  have all : ∀ c ∈ "0009223372036854775808".toList, c.isDigit = true :=
    List.all_eq_true.mp (by decide)
  have below := integers_are_exact.1 true _ nonempty all
  have above := integers_are_exact.1 false _ nonempty all
  rw [if_pos (by decide)] at below
  rw [if_neg (by decide)] at above
  exact ⟨nonempty, all, below, above⟩

end Ast.Value

end Rulebook
