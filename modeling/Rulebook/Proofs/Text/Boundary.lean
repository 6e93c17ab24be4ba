/-
This file says which byte offsets of a text lie between two of its characters, and relates
them to the index that a source keeps. There is something to read from an offset on exactly
when the offset is such a boundary, and the stretches between boundaries fit together.

A token is searched for from a boundary on, and where its match ends is a boundary again:
the search takes whole characters only. Nothing has to be assumed about the program that is
searched for.
-/

import Mathlib.Logic.Basic
import Rulebook.Grammar.Rule

namespace Rulebook

/-! ### Counting bytes -/

@[simp]
theorem byteCount_nil : byteCount [] = 0 := rfl

@[simp]
theorem byteCount_cons (c : Char) (chars : List Char) :
    byteCount (c :: chars) = c.utf8Size + byteCount chars := rfl

@[simp]
theorem byteCount_append (first second : List Char) :
    byteCount (first ++ second) = byteCount first + byteCount second := by
  induction first with
  | nil => simp
  | cons c rest inductionHypothesis =>
    rw [List.cons_append, byteCount_cons, byteCount_cons, inductionHypothesis, Nat.add_assoc]

/-- Every character takes some room. -/
theorem byteCount_eq_zero {chars : List Char} : byteCount chars = 0 ↔ chars = [] := by
  cases chars with
  | nil => simp
  | cons c rest =>
    have positive := c.utf8Size_pos
    simp only [byteCount_cons, reduceCtorEq, iff_false]
    omega

/-- As many bytes as some characters take are these characters. -/
theorem takeBytes_append (middle after : List Char) :
    takeBytes (byteCount middle) (middle ++ after) = middle := by
  induction middle with
  | nil => cases after <;> rfl
  | cons c rest inductionHypothesis =>
    have positive := c.utf8Size_pos
    obtain ⟨count, equal⟩ : ∃ count, byteCount (c :: rest) = count + 1 :=
      ⟨byteCount (c :: rest) - 1, by rw [byteCount_cons]; omega⟩
    have left : count + 1 - c.utf8Size = byteCount rest := by
      rw [← equal, byteCount_cons, Nat.add_sub_cancel_left]
    rw [equal, List.cons_append, takeBytes.eq_3 _ _ _ (by simp), left, inductionHypothesis]

/-! ### Boundaries -/

/-- An offset lies between two characters of a text, or at one of its ends. -/
def Boundary (chars : List Char) (offset : Nat) : Prop :=
  ∃ before after, chars = before ++ after ∧ byteCount before = offset

theorem boundary_zero (chars : List Char) : Boundary chars 0 :=
  ⟨[], chars, rfl, rfl⟩

theorem Boundary.le {chars : List Char} {offset : Nat} (boundary : Boundary chars offset) :
    offset ≤ byteCount chars := by
  obtain ⟨before, after, rfl, rfl⟩ := boundary
  rw [byteCount_append]
  exact Nat.le_add_right _ _

/-- The start of a text is determined by its number of bytes. -/
theorem exists_append_of_byteCount_le {first rest second rest' : List Char}
    (same : first ++ rest = second ++ rest') (le : byteCount first ≤ byteCount second) :
    ∃ middle, second = first ++ middle := by
  rcases List.append_eq_append_iff.mp same with ⟨middle, equal, _⟩ | ⟨middle, equal, _⟩
  · exact ⟨middle, equal⟩
  · have empty : middle = [] := by
      rw [← byteCount_eq_zero]
      rw [equal, byteCount_append] at le
      omega
    exact ⟨[], by rw [equal, empty, List.append_nil, List.append_nil]⟩

/-- Two boundaries cut a text into three pieces. -/
theorem Boundary.split {chars : List Char} {start stop : Nat} (first : Boundary chars start)
    (second : Boundary chars stop) (le : start ≤ stop) :
    ∃ before middle after, chars = before ++ middle ++ after ∧ byteCount before = start ∧
      byteCount before + byteCount middle = stop := by
  obtain ⟨before, rest, rfl, rfl⟩ := first
  obtain ⟨front, after, same, rfl⟩ := second
  obtain ⟨middle, rfl⟩ := exists_append_of_byteCount_le same le
  exact ⟨before, middle, after, same, rfl, (byteCount_append _ _).symm⟩

/-! ### The index of a source -/

/-- The index of a source tells the truth about its characters. -/
structure Source.Faithful (source : Source) : Prop where
  rest?_eq_some : ∀ {offset : Nat} {rest : List Char}, source.rest? offset = some rest ↔
    ∃ before, source.chars = before ++ rest ∧ byteCount before = offset
  size_eq : source.size = byteCount source.chars

/-- Nothing can be read from inside a character, and the index of the characters behind it is
right about the whole text if it is right about them. -/
theorem getElem?_restsOf_behind {c : Char} {chars rest : List Char}
    (tail : ∀ offset, ((restsOf chars)[offset]?).join = some rest ↔
      ∃ before, chars = before ++ rest ∧ byteCount before = offset)
    (offset : Nat) :
    ((List.replicate (c.utf8Size - 1) none ++ restsOf chars)[offset]?).join = some rest ↔
      ∃ before, c :: chars = before ++ rest ∧ byteCount before = offset + 1 := by
  have positive := c.utf8Size_pos
  rw [List.getElem?_append, List.length_replicate]
  split
  · rename_i small
    rw [List.getElem?_replicate, if_pos small]
    refine ⟨fun absurd => by simp at absurd, ?_⟩
    rintro ⟨before, equal, count⟩
    cases before with
    | nil => simp at count
    | cons first before =>
      obtain ⟨rfl, -⟩ := List.cons_eq_cons.mp equal
      rw [byteCount_cons] at count
      omega
  · rename_i large
    rw [tail]
    constructor
    · rintro ⟨before, equal, count⟩
      refine ⟨c :: before, by rw [equal, List.cons_append], ?_⟩
      rw [byteCount_cons]
      omega
    · rintro ⟨before, equal, count⟩
      cases before with
      | nil => simp at count
      | cons first before =>
        obtain ⟨rfl, tails⟩ := List.cons_eq_cons.mp equal
        rw [byteCount_cons] at count
        exact ⟨before, tails, by omega⟩

/-- From the start of a text, all of it can be read. -/
theorem getElem?_restsOf_zero (chars rest : List Char) :
    ((restsOf chars)[0]?).join = some rest ↔
      ∃ before, chars = before ++ rest ∧ byteCount before = 0 := by
  have whole : ((restsOf chars)[0]?).join = some chars := by
    cases chars <;> rfl
  rw [whole]
  simp [byteCount_eq_zero]

/-- What can be read from the offsets of a text on. -/
theorem getElem?_restsOf (chars : List Char) (offset : Nat) (rest : List Char) :
    ((restsOf chars)[offset]?).join = some rest ↔
      ∃ before, chars = before ++ rest ∧ byteCount before = offset := by
  induction chars generalizing offset with
  | nil =>
    cases offset with
    | zero => exact getElem?_restsOf_zero ..
    | succ offset =>
      constructor
      · intro equal
        simp [restsOf] at equal
      · rintro ⟨before, equal, count⟩
        rw [(List.append_eq_nil_iff.mp equal.symm).1] at count
        simp at count
  | cons c chars inductionHypothesis =>
    cases offset with
    | zero => exact getElem?_restsOf_zero ..
    | succ offset =>
      rw [restsOf, List.getElem?_cons_succ]
      exact getElem?_restsOf_behind inductionHypothesis offset

theorem Source.faithful_ofString (text : String) : (Source.ofString text).Faithful where
  rest?_eq_some := by
    intro offset rest
    rw [Source.rest?, Source.ofString, List.getElem?_toArray]
    exact getElem?_restsOf text.toList offset rest
  size_eq := rfl

namespace Source.Faithful

variable {source : Source} (faithful : source.Faithful)
include faithful

/-- Something can be read from exactly the boundaries on. -/
theorem boundary_of_rest? {offset : Nat} {rest : List Char}
    (found : source.rest? offset = some rest) : Boundary source.chars offset := by
  obtain ⟨before, equal, count⟩ := faithful.rest?_eq_some.mp found
  exact ⟨before, rest, equal, count⟩

theorem le_size {offset : Nat} (boundary : Boundary source.chars offset) :
    offset ≤ source.size := by
  rw [faithful.size_eq]
  exact boundary.le

/-- The character at an offset is the one that some characters of that many bytes precede. -/
theorem charAt?_eq_some {offset : Nat} {c : Char} : source.charAt? offset = some c ↔
    ∃ before after, source.chars = before ++ c :: after ∧ byteCount before = offset := by
  rw [Source.charAt?, Option.bind_eq_some_iff]
  constructor
  · rintro ⟨rest, found, head⟩
    obtain ⟨before, equal, count⟩ := faithful.rest?_eq_some.mp found
    obtain ⟨after, rfl⟩ := List.head?_eq_some_iff.mp head
    exact ⟨before, after, equal, count⟩
  · rintro ⟨before, after, equal, count⟩
    exact ⟨c :: after, faithful.rest?_eq_some.mpr ⟨before, equal, count⟩, rfl⟩

/-- The end is the only boundary without a character. -/
theorem charAt?_eq_none {offset : Nat} (boundary : Boundary source.chars offset) :
    source.charAt? offset = none ↔ offset = source.size := by
  obtain ⟨before, after, equal, rfl⟩ := boundary
  have found : source.rest? (byteCount before) = some after :=
    faithful.rest?_eq_some.mpr ⟨before, equal, rfl⟩
  rw [Source.charAt?, found, Option.bind_some, List.head?_eq_none_iff, ← byteCount_eq_zero,
    faithful.size_eq, equal, byteCount_append]
  omega

/-- Between two boundaries lies the middle one of three pieces. -/
theorem between?_eq {before middle after : List Char}
    (cut : source.chars = before ++ middle ++ after) :
    source.between? (byteCount before) (byteCount before + byteCount middle) = some middle := by
  have here : source.rest? (byteCount before) = some (middle ++ after) :=
    faithful.rest?_eq_some.mpr ⟨before, by rw [cut, List.append_assoc], rfl⟩
  have behind : source.rest? (byteCount before + byteCount middle) = some after :=
    faithful.rest?_eq_some.mpr ⟨before ++ middle, cut, byteCount_append _ _⟩
  rw [Source.between?, here, behind]
  dsimp only
  rw [if_pos (Nat.le_add_right _ _), Nat.add_sub_cancel_left, takeBytes_append]

/-- A slice is the middle one of three pieces. -/
theorem slice_eq {before middle after : List Char}
    (cut : source.chars = before ++ middle ++ after) :
    source.slice (byteCount before) (byteCount before + byteCount middle) =
      String.ofList middle := by
  have found : source.rest? (byteCount before) = some (middle ++ after) :=
    faithful.rest?_eq_some.mpr ⟨before, by rw [cut, List.append_assoc], rfl⟩
  rw [Source.slice, found, Nat.add_sub_cancel_left, Option.getD_some, takeBytes_append]

/-- Slices that meet at a boundary make up one slice. -/
theorem slice_append {start middle stop : Nat} (first : Boundary source.chars start)
    (second : Boundary source.chars middle) (third : Boundary source.chars stop)
    (startLe : start ≤ middle) (middleLe : middle ≤ stop) :
    source.slice start middle ++ source.slice middle stop = source.slice start stop := by
  obtain ⟨before, left, rest, cut, rfl, rfl⟩ := first.split second startLe
  obtain ⟨front, right, after, cut', front_eq, rfl⟩ := second.split third middleLe
  have same : front = before ++ left := by
    have lengths : byteCount front ≤ byteCount (before ++ left) := by
      exact Nat.le_of_eq (front_eq.trans (byteCount_append _ _).symm)
    have cuts : front ++ (right ++ after) = before ++ left ++ rest := by
      rw [← List.append_assoc, ← cut', cut]
    obtain ⟨extra, equal⟩ := exists_append_of_byteCount_le cuts lengths
    have empty : extra = [] := by
      rw [← byteCount_eq_zero]
      have counted := congrArg byteCount equal
      rw [byteCount_append, byteCount_append, front_eq] at counted
      omega
    rw [equal, empty, List.append_nil]
  subst same
  have whole : source.chars = before ++ (left ++ right) ++ after := by
    rw [cut', List.append_assoc before, List.append_assoc before]
  have leftSlice := faithful.slice_eq cut
  have rightSlice := faithful.slice_eq cut'
  have wholeSlice := faithful.slice_eq whole
  rw [byteCount_append, ← Nat.add_assoc] at wholeSlice
  rw [byteCount_append] at rightSlice
  rw [byteCount_append, leftSlice, rightSlice, wholeSlice, String.ofList_append]

theorem slice_whole : source.slice 0 source.size = String.ofList source.chars := by
  have cut : source.chars = [] ++ source.chars ++ [] := by simp
  have sliced := faithful.slice_eq cut
  rwa [byteCount_nil, Nat.zero_add, ← faithful.size_eq] at sliced

theorem slice_self {offset : Nat} (boundary : Boundary source.chars offset) :
    source.slice offset offset = "" := by
  obtain ⟨before, after, equal, rfl⟩ := boundary
  have cut : source.chars = before ++ [] ++ after := by rw [equal, List.append_nil]
  exact faithful.slice_eq cut

end Source.Faithful

/-! ### Where a token ends -/

namespace Pattern.Program

variable (program : Program)

/-- Following a search, every end that is reported lies at the end of some characters. -/
theorem follow_prefix {position : Nat} {best : Option Nat} {waiting : List Nat}
    {text : List Char} {result : Nat}
    (found : program.follow position best waiting text = some result) :
    best = some result ∨
      ∃ before after, text = before ++ after ∧ result = position + byteCount before := by
  induction text generalizing position best waiting with
  | nil =>
    rw [follow] at found
    split at found
    · exact Or.inr ⟨[], [], rfl, (Option.some.inj found).symm⟩
    · exact Or.inl found
  | cons c rest inductionHypothesis =>
    rw [follow] at found
    have here : (if (program.judge waiting).accepted = true then some position else best) =
        some result → best = some result ∨
          ∃ before after, c :: rest = before ++ after ∧ result = position + byteCount before := by
      intro equal
      split at equal
      · exact Or.inr ⟨[], c :: rest, rfl, (Option.some.inj equal).symm⟩
      · exact Or.inl equal
    rcases ite_eq_iff.mp found with ⟨-, known⟩ | ⟨-, later⟩
    · exact here known
    · rcases inductionHypothesis later with known | ⟨before, after, equal, count⟩
      · exact here known
      · exact Or.inr ⟨c :: before, after, by rw [equal, List.cons_append],
          by rw [count, byteCount_cons, Nat.add_assoc]⟩

theorem matchEnd?_prefix {text : List Char} {length : Nat}
    (found : program.matchEnd? text = some length) :
    ∃ before after, text = before ++ after ∧ length = byteCount before := by
  rw [matchEnd?] at found
  rcases ite_eq_iff.mp found with ⟨-, absurd⟩ | ⟨-, followed⟩
  · cases absurd
  · rcases program.follow_prefix followed with absurd | ⟨before, after, equal, count⟩
    · cases absurd
    · exact ⟨before, after, equal, by rw [count, Nat.zero_add]⟩

end Pattern.Program

/-- Both ends of a token are boundaries of the text. -/
theorem TokenRule.boundary_of_matchAt? {source : Source} (faithful : source.Faithful)
    {token : TokenRule} {offset length : Nat}
    (found : token.matchAt? source offset = some length) :
    Boundary source.chars offset ∧ Boundary source.chars (offset + length) := by
  obtain ⟨rest, here, matched⟩ := Option.bind_eq_some_iff.mp found
  obtain ⟨before, equal, rfl⟩ := faithful.rest?_eq_some.mp here
  obtain ⟨front, back, rfl, rfl⟩ := token.program.matchEnd?_prefix matched
  exact ⟨faithful.boundary_of_rest? here,
    ⟨before ++ front, back, by rw [equal, List.append_assoc], byteCount_append _ _⟩⟩

end Rulebook
