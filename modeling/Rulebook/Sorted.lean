/-
This file holds texts in sorted order without repetition, and tables whose keys are such
texts. Texts are compared character by character. It also searches arrays of numbers in
ascending order.
-/

namespace Rulebook.Sorted

/-- Add a text to a sorted list, unless it is there already. -/
def insert (text : String) : List String → List String
  | [] => [text]
  | first :: rest =>
    if text < first then text :: first :: rest
    else if text = first then first :: rest
    else first :: insert text rest

/-- Put a value under a key of a sorted table, in place of what was there. -/
def put {Value : Type} (key : String) (value : Value) : List (String × Value) →
    List (String × Value)
  | [] => [(key, value)]
  | (first, old) :: rest =>
    if key < first then (key, value) :: (first, old) :: rest
    else if key = first then (key, value) :: rest
    else (first, old) :: put key value rest

/-- Remove a key from a table. -/
def erase {Value : Type} (key : String) (table : List (String × Value)) :
    List (String × Value) :=
  table.filter (·.1 != key)

theorem mem_insert {text other : String} {texts : List String} :
    other ∈ insert text texts ↔ other = text ∨ other ∈ texts := by
  induction texts with
  | nil => simp [insert]
  | cons first rest inductionHypothesis =>
    simp only [insert]
    split
    · simp
    · split
      · rename_i equal
        simp [equal]
      · simp only [List.mem_cons, inductionHypothesis]
        grind

theorem lookup_put_self {Value : Type} (key : String) (value : Value)
    (table : List (String × Value)) : (put key value table).lookup key = some value := by
  induction table with
  | nil => rw [put, List.lookup_cons_self]
  | cons entry rest inductionHypothesis =>
    rw [put]
    split
    · rw [List.lookup_cons_self]
    · split
      · rw [List.lookup_cons_self]
      · rename_i distinct
        rw [List.lookup_cons, beq_false_of_ne distinct]
        exact inductionHypothesis

theorem lookup_put_other {Value : Type} {key other : String} (distinct : other ≠ key)
    (value : Value) (table : List (String × Value)) :
    (put key value table).lookup other = table.lookup other := by
  induction table with
  | nil => rw [put, List.lookup_cons, beq_false_of_ne distinct]
  | cons entry rest inductionHypothesis =>
    rw [put]
    split
    · rw [List.lookup_cons, beq_false_of_ne distinct]
    · split
      · rename_i same
        rw [List.lookup_cons, List.lookup_cons, ← same, beq_false_of_ne distinct]
      · rw [List.lookup_cons, List.lookup_cons, inductionHypothesis]

theorem lookup_erase_self {Value : Type} (key : String) (table : List (String × Value)) :
    (erase key table).lookup key = none := by
  rw [List.lookup_eq_none_iff]
  intro entry member
  have kept := (List.mem_filter.mp member).2
  exact bne_comm.trans kept

theorem lookup_erase_other {Value : Type} {key other : String} (distinct : other ≠ key)
    (table : List (String × Value)) : (erase key table).lookup other = table.lookup other := by
  induction table with
  | nil => rfl
  | cons entry rest inductionHypothesis =>
    rw [erase] at inductionHypothesis ⊢
    rw [List.filter_cons]
    split
    · rw [List.lookup_cons, List.lookup_cons, inductionHypothesis]
    · rename_i removed
      have same : entry.1 = key := by simpa using removed
      rw [inductionHypothesis, List.lookup_cons, same, beq_false_of_ne distinct]

/-- Halve a stretch of an array until one place of it is left. The half behind the middle is
kept unless it begins with more than the wanted number. There are never more rounds to go than
the stretch has places. -/
def narrow (numbers : Array Nat) (wanted : Nat) : Nat → Nat → Nat → Nat
  | 0, base, _ => base
  | rounds + 1, base, size =>
    if size ≤ 1 then base
    else
      let half := size / 2
      let middle := base + half
      let base := if wanted < numbers.getD middle 0 then base else middle
      narrow numbers wanted rounds base (size - half)

/-- Search an array in ascending order for a number. The answer is where it stands, or, as an
error, where it would have to be put. -/
def search (numbers : Array Nat) (wanted : Nat) : Except Nat Nat :=
  if numbers.isEmpty then .error 0
  else
    let base := narrow numbers wanted numbers.size 0 numbers.size
    let found := numbers.getD base 0
    if found = wanted then .ok base
    else .error (if found < wanted then base + 1 else base)

/-- Halving keeps the last of the numbers that are no more than the wanted one. -/
theorem narrow_eq {numbers : Array Nat} {wanted rounds base size last : Nat}
    (small : ∀ place ≤ last, numbers.getD place 0 ≤ wanted)
    (large : ∀ place, last < place → place < base + size → wanted < numbers.getD place 0)
    (above : base ≤ last) (below : last < base + size) (enough : size ≤ rounds) :
    narrow numbers wanted rounds base size = last := by
  induction rounds generalizing base size with
  | zero => omega
  | succ rounds inductionHypothesis =>
    rw [narrow]
    by_cases single : size ≤ 1
    · rw [if_pos single]
      omega
    · rw [if_neg single]
      have shorter : size / 2 < size := Nat.div_lt_self (by omega) (by omega)
      have positive : 0 < size / 2 := Nat.div_pos (by omega) (by omega)
      have middle_lt : base + size / 2 < base + size := Nat.add_lt_add_left shorter base
      by_cases greater : wanted < numbers.getD (base + size / 2) 0
      · have before : last < base + size / 2 :=
          Nat.lt_of_not_le fun behind => absurd (small _ behind) (Nat.not_le_of_lt greater)
        simp only [greater, if_true]
        refine inductionHypothesis (fun place behind within => large place behind ?_) ?_ ?_ ?_ <;>
          omega
      · have behind : base + size / 2 ≤ last :=
          Nat.le_of_not_lt fun before => greater (large _ before middle_lt)
        simp only [greater, if_false]
        refine inductionHypothesis (fun place behind within => large place behind ?_) ?_ ?_ ?_ <;>
          omega

/-- A search ends between the numbers that are no more than the wanted one and the rest. -/
theorem search_append {front back : List Nat} {wanted : Nat} (nonempty : front ≠ [])
    (small : ∀ number ∈ front, number ≤ wanted) (large : ∀ number ∈ back, wanted < number) :
    search (front ++ back).toArray wanted =
      if front.getLast? = some wanted then .ok (front.length - 1) else .error front.length := by
  have positive : 0 < front.length := List.length_pos_iff.mpr nonempty
  have number_eq : ∀ place (within : place < (front ++ back).length),
      (front ++ back).toArray.getD place 0 = (front ++ back)[place] := by
    intro place within
    rw [Array.getD_eq_getD_getElem?, List.getElem?_toArray, List.getElem?_eq_getElem within,
      Option.getD_some]
  have length_eq : (front ++ back).length = front.length + back.length := List.length_append
  have narrowed : narrow (front ++ back).toArray wanted (front ++ back).length 0
      (front ++ back).length = front.length - 1 := by
    refine narrow_eq (fun place within => ?_) (fun place behind within => ?_) (Nat.zero_le _) ?_
      (Nat.le_refl _)
    · rw [number_eq place (by omega), List.getElem_append_left (by omega)]
      exact small _ (List.getElem_mem _)
    · rw [number_eq place (by omega), List.getElem_append_right (by omega)]
      exact large _ (List.getElem_mem _)
    · omega
  have found : (front ++ back).toArray.getD (front.length - 1) 0 = front.getLast nonempty := by
    rw [number_eq _ (by omega), List.getElem_append_left (by omega), List.getLast_eq_getElem]
  have filled : (front ++ back).toArray.isEmpty = false := by simp [nonempty]
  simp only [search, filled, List.size_toArray, narrowed, found, Bool.false_eq_true, if_false]
  rw [List.getLast?_eq_some_getLast nonempty]
  have least : front.getLast nonempty ≤ wanted := small _ (List.getLast_mem nonempty)
  by_cases equal : front.getLast nonempty = wanted
  · rw [if_pos equal, if_pos (congrArg some equal)]
  · rw [if_neg equal, if_neg (fun same => equal (Option.some.inj same)), if_pos (by omega),
      Nat.sub_add_cancel positive]

end Rulebook.Sorted
