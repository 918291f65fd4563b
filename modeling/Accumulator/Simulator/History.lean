import Accumulator.Machine.Step

set_option autoImplicit false

/-!
The history of a simulator: an entry for each of the most recent transitions, oldest first.
-/

namespace Accumulator

/-- One transition: its number since the last restart, the phase that it entered, the program
counter before it, what it did, and whether the machine is halted after it. -/
structure Entry where
  index : Nat
  phase : Phase
  pc : Nat
  event : Event
  halted : Bool
  deriving DecidableEq, Repr

def Entry.description (entry : Entry) : String :=
  entry.event.line

def historyLimit : Nat := 1000

structure History where
  entries : Array Entry := #[]
  deriving DecidableEq, Repr

namespace History

def toList (history : History) : List Entry :=
  history.entries.toList

def size (history : History) : Nat :=
  history.entries.size

/-- Appends an entry; the oldest ones go when there are too many. -/
def record (history : History) (entry : Entry) : History :=
  let grown := history.entries.push entry
  if grown.size ≤ historyLimit then ⟨grown⟩
  else ⟨grown.extract (grown.size - historyLimit) grown.size⟩

theorem toList_record (history : History) (entry : Entry) :
    (history.record entry).toList = lastOf historyLimit (history.toList ++ [entry]) := by
  unfold record toList lastOf
  dsimp only
  split
  · next small =>
      have none_dropped : (history.entries.toList ++ [entry]).length - historyLimit = 0 := by
        simp at small ⊢
        omega
      rw [none_dropped]
      simp
  · simp only [Array.toList_extract, List.extract_eq_take_drop, Array.size_push,
      Array.toList_push, List.length_append, List.length_singleton, Array.length_toList]
    apply List.take_of_length_le
    simp

theorem size_record_le (history : History) (entry : Entry) :
    (history.record entry).size ≤ historyLimit := by
  unfold record size
  dsimp only
  split
  · next small => exact small
  · simp
    omega

end History

end Accumulator
