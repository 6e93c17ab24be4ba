/-
This file remembers what tokens did. The outcome of a token depends on nothing but the input
from an offset on, so an outcome can be replayed wherever the token is tried again at that
offset. Outcomes are kept apart by grammar, since grammars may use the same rule names.
-/

import Std.Data.HashMap

namespace Rulebook

/-- What an outcome is remembered by. -/
structure MemoKey where
  grammar : String
  offset : Nat
  rule : String
  deriving DecidableEq, Hashable, Repr

/-- Remembered outcomes, and how often they were of use. -/
structure Memo where
  /-- The length of a match, or nothing for a failure. -/
  entries : Std.HashMap MemoKey (Option Nat) := {}
  hits : Nat := 0
  misses : Nat := 0

namespace Memo

/-- Look an outcome up, and count whether it was there. -/
def lookup (memo : Memo) (key : MemoKey) : Option (Option Nat) × Memo :=
  match memo.entries[key]? with
  | some outcome => (some outcome, { memo with hits := memo.hits + 1 })
  | none => (none, { memo with misses := memo.misses + 1 })

/-- Remember an outcome. -/
def store (memo : Memo) (key : MemoKey) (outcome : Option Nat) : Memo :=
  { memo with entries := memo.entries.insert key outcome }

/-- The answer is the entry of the key. -/
theorem lookup_fst (memo : Memo) (key : MemoKey) : (memo.lookup key).1 = memo.entries[key]? := by
  rw [lookup]
  cases memo.entries[key]? <;> rfl

/-- To ask changes nothing that is remembered. -/
theorem lookup_entries (memo : Memo) (key : MemoKey) :
    (memo.lookup key).2.entries = memo.entries := by
  rw [lookup]
  cases memo.entries[key]? <;> rfl

/-- What has just been remembered is found. -/
theorem lookup_store_self (memo : Memo) (key : MemoKey) (outcome : Option Nat) :
    ((memo.store key outcome).lookup key).1 = some outcome := by
  rw [lookup, store, Std.HashMap.getElem?_insert_self]

/-- Remembering one outcome leaves the others as they were. -/
theorem lookup_store_other (memo : Memo) {key other : MemoKey} (distinct : key ≠ other)
    (outcome : Option Nat) :
    ((memo.store key outcome).lookup other).1 = (memo.lookup other).1 := by
  have same : (memo.store key outcome).entries[other]? = memo.entries[other]? := by
    rw [store, Std.HashMap.getElem?_insert, beq_false_of_ne distinct]
    rfl
  rw [lookup, lookup, same]
  cases memo.entries[other]? <;> rfl

theorem store_hits (memo : Memo) (key : MemoKey) (outcome : Option Nat) :
    (memo.store key outcome).hits = memo.hits := rfl

theorem store_misses (memo : Memo) (key : MemoKey) (outcome : Option Nat) :
    (memo.store key outcome).misses = memo.misses := rfl

end Memo

end Rulebook
