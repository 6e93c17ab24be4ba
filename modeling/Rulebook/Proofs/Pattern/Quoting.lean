/-
This file says what the program of quoted texts takes: an opening sign, characters that stand for
themselves and escapes of two characters in any order, and the first sign behind them that closes
the text. Nothing that comes after the closing sign matters.

It also shows that the signs of quoted texts have no case. A search that ignores case still finds
them where they stand and nowhere else.
-/

import Rulebook.Proofs.Text.Boundary

namespace Rulebook

/-! ### Signs without case -/

namespace Unicode

variable {sign code : Nat} {c d : Char}

/-- A run neither says how a code point folds, nor folds another one to it. -/
def FoldingRun.avoids (run : FoldingRun) (code : Nat) : Bool :=
  !run.covers code &&
    (decide ((code : Int) < run.first + run.shift) || decide (run.last + run.shift < (code : Int)))

/-- No run has to do with quotation marks or backslashes. -/
theorem avoids_signs : ∀ run ∈ foldingRuns, ∀ c ∈ ['"', '\'', '\\'], run.avoids c.toNat = true := by
  have checked : (foldingRuns.all fun run =>
      ['"', '\'', '\\'].all fun c => run.avoids c.toNat) = true := by
    decide +kernel
  simpa only [List.all_eq_true] using checked

/-- What no run has to do with is the image of nothing else. -/
theorem eq_of_foldCode_eq (avoided : ∀ run ∈ foldingRuns, run.avoids sign = true)
    (nonzero : sign ≠ 0) (folds : foldCode code = sign) : code = sign := by
  rw [foldCode] at folds
  split at folds
  · rename_i run found
    have apart := avoided run (List.mem_of_find?_eq_some found)
    have covers := List.find?_some found
    simp only [FoldingRun.avoids, FoldingRun.covers, Bool.and_eq_true, Bool.or_eq_true,
      decide_eq_true_eq] at apart covers
    rw [Int.ofNat_eq_natCast] at folds
    omega
  · exact folds

theorem eq_toNat_of_ofNat_eq (nonzero : c.toNat ≠ 0) (same : Char.ofNat code = c) :
    code = c.toNat := by
  by_cases valid : code.isValidChar
  · rw [← same, Char.ofNat, dif_pos valid]
    rfl
  · rw [← same, Char.ofNat, dif_neg valid] at nonzero
    exact absurd rfl nonzero

/-- A sign without case is a variant of itself alone. -/
theorem eq_of_mem_caseVariants (avoided : ∀ run ∈ foldingRuns, run.avoids d.toNat = true)
    (nonzero : d.toNat ≠ 0) (member : d ∈ caseVariants c) : c = d := by
  obtain ⟨code, isVariant, same⟩ := List.mem_map.mp member
  rw [eq_toNat_of_ofNat_eq nonzero same] at isVariant
  rcases List.mem_cons.mp isVariant with image | source
  · exact Char.toNat_inj.mp (eq_of_foldCode_eq avoided nonzero image.symm)
  · obtain ⟨run, isRun, source⟩ := List.mem_flatMap.mp source
    rw [FoldingRun.sources] at source
    split at source
    · rename_i covers
      have apart := avoided run isRun
      rw [List.mem_singleton.mp source, FoldingRun.avoids, covers] at apart
      cases apart
    · cases source

end Unicode

namespace Pattern

open Unicode

/-- Whether case is ignored makes no difference to a set of signs. -/
theorem CharSet.contains_foldedIf {set : CharSet}
    (signs : ∀ c, set.contains c = true → c ∈ ['"', '\'', '\\']) (ignoreCase : Bool) (c : Char) :
    (set.foldedIf ignoreCase .wide).contains c = set.contains c := by
  cases ignoreCase with
  | false => rfl
  | true =>
    show (caseVariants c).any set.contains = set.contains c
    have own : ∀ c ∈ ['"', '\'', '\\'], c ∈ caseVariants c := by
      rw [List.forall_mem_cons, List.forall_mem_cons, List.forall_mem_singleton]
      decide +kernel
    have nonzero : ∀ c ∈ ['"', '\'', '\\'], c.toNat ≠ 0 := by
      rw [List.forall_mem_cons, List.forall_mem_cons, List.forall_mem_singleton]
      decide
    rw [Bool.eq_iff_iff, List.any_eq_true]
    constructor
    · rintro ⟨d, member, contained⟩
      have isSign := signs d contained
      have avoided := fun run isRun => avoids_signs run isRun d isSign
      rwa [eq_of_mem_caseVariants avoided (nonzero d isSign) member]
    · exact fun contained => ⟨c, own c (signs c contained), contained⟩

theorem CharSet.contains_single_foldedIf {sign : Char} (isSign : sign ∈ ['"', '\'', '\\'])
    (ignoreCase : Bool) (c : Char) :
    ((CharSet.single sign).foldedIf ignoreCase .wide).contains c = true ↔ c = sign := by
  rw [contains_foldedIf, contains_single]
  intro d contained
  rwa [(contains_single _ _).mp contained]

/-! ### The program of quoted texts -/

/-- The sets of characters that make up quoted texts. -/
structure Quoting where
  /-- What opens and closes a text. -/
  quote : CharSet
  /-- What stands for itself. -/
  plain : CharSet
  /-- What begins an escape. -/
  backslash : CharSet
  /-- What completes an escape. -/
  escapes : CharSet

namespace Quoting

/-- Between two characters of a text, no character can be taken in two ways. -/
structure Apart (signs : Quoting) : Prop where
  plain_backslash : ∀ c, signs.plain.contains c = true → signs.backslash.contains c ≠ true
  plain_quote : ∀ c, signs.plain.contains c = true → signs.quote.contains c ≠ true
  backslash_quote : ∀ c, signs.backslash.contains c = true → signs.quote.contains c ≠ true

/-- What stands between the quotation marks: plain characters and escapes. -/
inductive Inside (signs : Quoting) : List Char → Prop
  | nil : Inside signs []
  | plain {c : Char} {rest : List Char} (isPlain : signs.plain.contains c = true)
      (inside : Inside signs rest) : Inside signs (c :: rest)
  | escape {slash c : Char} {rest : List Char} (begins : signs.backslash.contains slash = true)
      (completes : signs.escapes.contains c = true) (inside : Inside signs rest) :
      Inside signs (slash :: c :: rest)

/-- The program that takes a quoted text. -/
def program (signs : Quoting) : Program where
  code := #[.accept, .take signs.quote 0, .branch 6 1, .take signs.escapes 2,
    .take signs.backslash 3, .take signs.plain 2, .branch 5 4, .take signs.quote 2,
    .require .textStart 7]
  entry := 8
  anchored := true

end Quoting

/-! ### What the program takes -/

namespace Program

variable {program : Program} {live next : List Nat} {rest : List Char} {c : Char}

/-- An anchored search that has not come to an end takes the next character. -/
theorem follow_cons (anchored : program.anchored = true)
    (waits : program.judge live = ⟨false, live⟩)
    (moved : (program.advance c rest.head? live).waiting.reverse = next) (goesOn : next ≠ [])
    (position : Nat) :
    program.follow position none live (c :: rest) =
      program.follow (position + c.utf8Size) none next rest := by
  have some : (program.advance c rest.head? live).waiting.isEmpty = false := by
    rw [← List.isEmpty_reverse, moved]
    exact List.isEmpty_eq_false_iff.mpr goesOn
  rw [follow, waits, anchored]
  show (if (program.advance c rest.head? live).waiting.isEmpty && true then none
    else program.follow (position + c.utf8Size) none
      (program.advance c rest.head? live).waiting.reverse rest) = _
  rw [some, moved]
  rfl

end Program

namespace Quoting

variable {signs : Quoting} {c : Char} {body rest : List Char}

theorem move_eq (set : CharSet) {address next : Nat}
    (found : signs.program.code[address]? = some (.take set next)) (after : Option Char)
    (frontier : Frontier) : signs.program.move c after frontier address =
      if set.contains c then signs.program.enter (some c) after next frontier else frontier := by
  rw [Program.move, found]

/-- Behind an opening sign, a plain character and an escape three ways are open, in this order: a
plain character, an escape, and the end of the text. -/
theorem enter_between (before after : Option Char) :
    (signs.program.enter before after 2 signs.program.fresh).waiting.reverse = [5, 4, 1] := by
  simp [Program.enter, Program.explore, Program.fresh, program]

/-- At the start of a text only an opening sign can be taken. -/
theorem enter_start (after : Option Char) :
    (signs.program.enter none after signs.program.entry signs.program.fresh).waiting = [7] := by
  simp [Program.enter, Program.explore, Program.fresh, program, Look.holds]

/-- Between two characters of a text three ways are open, in this order: a plain character, an
escape, and the end of the text. -/
theorem advance_inside (c : Char) (after : Option Char) :
    signs.program.advance c after [5, 4, 1] =
      signs.program.move c after (signs.program.move c after
        (signs.program.move c after signs.program.fresh 5) 4) 1 :=
  rfl

theorem advance_plain (apart : signs.Apart) (isPlain : signs.plain.contains c = true)
    (after : Option Char) :
    (signs.program.advance c after [5, 4, 1]).waiting.reverse = [5, 4, 1] := by
  rw [advance_inside, move_eq signs.quote rfl, move_eq signs.backslash rfl, move_eq signs.plain rfl,
    if_pos isPlain, if_neg (apart.plain_backslash c isPlain), if_neg (apart.plain_quote c isPlain)]
  exact enter_between _ _

theorem advance_backslash (apart : signs.Apart) (begins : signs.backslash.contains c = true)
    (after : Option Char) : (signs.program.advance c after [5, 4, 1]).waiting.reverse = [3] := by
  have notPlain := fun isPlain => apart.plain_backslash c isPlain begins
  rw [advance_inside, move_eq signs.quote rfl, move_eq signs.backslash rfl, move_eq signs.plain rfl,
    if_neg notPlain, if_pos begins, if_neg (apart.backslash_quote c begins)]
  rfl

theorem advance_quote (apart : signs.Apart) (closes : signs.quote.contains c = true)
    (after : Option Char) : (signs.program.advance c after [5, 4, 1]).waiting.reverse = [0] := by
  have notPlain := fun isPlain => apart.plain_quote c isPlain closes
  have notBackslash := fun begins => apart.backslash_quote c begins closes
  rw [advance_inside, move_eq signs.quote rfl, move_eq signs.backslash rfl, move_eq signs.plain rfl,
    if_neg notPlain, if_neg notBackslash, if_pos closes]
  rfl

theorem advance_escape (completes : signs.escapes.contains c = true) (after : Option Char) :
    (signs.program.advance c after [3]).waiting.reverse = [5, 4, 1] := by
  show (signs.program.move c after signs.program.fresh 3).waiting.reverse = _
  rw [move_eq signs.escapes rfl, if_pos completes]
  exact enter_between _ _

theorem advance_opening (opens : signs.quote.contains c = true) (after : Option Char) :
    (signs.program.advance c after [7]).waiting.reverse = [5, 4, 1] := by
  show (signs.program.move c after signs.program.fresh 7).waiting.reverse = _
  rw [move_eq signs.quote rfl, if_pos opens]
  exact enter_between _ _

/-- Where the text is closed the match is complete. -/
theorem follow_closed (position : Nat) (rest : List Char) :
    signs.program.follow position none [0] rest = some position := by
  cases rest <;> rfl

/-- From between two characters, the match goes on to the sign that closes the text. -/
theorem follow_inside (apart : signs.Apart) (inside : signs.Inside body)
    (closes : signs.quote.contains c = true) (position : Nat) :
    signs.program.follow position none [5, 4, 1] (body ++ c :: rest) =
      some (position + byteCount (body ++ [c])) := by
  induction inside generalizing position with
  | nil =>
    rw [List.nil_append, Program.follow_cons rfl rfl (advance_quote apart closes _)
      (List.cons_ne_nil _ _), follow_closed]
    rfl
  | plain isPlain inside inductionHypothesis =>
    rw [List.cons_append, Program.follow_cons rfl rfl (advance_plain apart isPlain _)
      (List.cons_ne_nil _ _), inductionHypothesis, List.cons_append, byteCount_cons, Nat.add_assoc]
  | escape begins completes inside inductionHypothesis =>
    rw [List.cons_append, List.cons_append,
      Program.follow_cons rfl rfl (advance_backslash apart begins _) (List.cons_ne_nil _ _),
      Program.follow_cons rfl rfl (advance_escape completes _) (List.cons_ne_nil _ _),
      inductionHypothesis, List.cons_append, List.cons_append, byteCount_cons, byteCount_cons,
      Nat.add_assoc, Nat.add_assoc]

/-- Of a text that begins with a quoted text, the program takes just that. -/
theorem matchEnd?_program (apart : signs.Apart) {opening : Char}
    (opens : signs.quote.contains opening = true) (inside : signs.Inside body)
    (closes : signs.quote.contains c = true) :
    signs.program.matchEnd? (opening :: body ++ c :: rest) =
      some (byteCount (opening :: body ++ [c])) := by
  rw [Program.matchEnd?, enter_start]
  show signs.program.follow 0 none [7] (opening :: (body ++ c :: rest)) = _
  rw [Program.follow_cons rfl rfl (advance_opening opens _) (List.cons_ne_nil _ _),
    follow_inside apart inside closes, Nat.zero_add, List.cons_append, byteCount_cons]

end Quoting

end Pattern

end Rulebook
