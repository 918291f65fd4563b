import Accumulator.Proofs.Assembly.Frame

set_option autoImplicit false

/-!
Loops that count down to zero. The lines of such a loop are run once, with everything left open;
what a run to the end makes follows by induction on the counter from what a single round keeps. A
counter that is not positive is never zero after a round, so the loop is not left.
-/

namespace Accumulator.Assembly.Frame

/-- A program that starts with a loop: so many lines that count down, and a jump back to the first
one as long as the accumulator, which has the new count, is not zero. -/
structure CountedLoop (program : List Operation) (length : Nat) (counter : Frame → Int)
    (turn : Frame → Frame) : Prop where
  jump : program[length]? = some (.jump .nonzero (0 : Nat))
  body : ∀ frame : Frame, frame.pc = 0 →
    frame.after? program length = some ((turn frame).jumpTo length)
  back : ∀ frame, (turn frame).pc = 0
  tested : ∀ frame, (turn frame).acc = counter frame - 1
  counted : ∀ frame, counter (turn frame) = counter frame - 1

variable {program : List Operation} {length : Nat} {counter : Frame → Int}
variable {turn result : Frame → Frame} {frame : Frame}

theorem CountedLoop.round (loop : CountedLoop program length counter turn)
    (top : frame.pc = 0) :
    frame.after? program (length + 1) =
      some (if counter frame = 1 then (turn frame).jumpTo (length + 1) else turn frame) := by
  obtain ⟨inside, _⟩ := List.getElem?_eq_some_iff.mp loop.jump
  have jumped : ((turn frame).jumpTo length).next? program =
      some (if Condition.nonzero.holds (turn frame).acc then (turn frame).jumpTo 0
        else (turn frame).jumpTo (length + 1)) :=
    next?_of_jump loop.jump (Nat.zero_lt_of_lt inside)
  have same : (turn frame).jumpTo 0 = turn frame := by
    rw [← loop.back frame]
    rfl
  rw [after?_add (loop.body frame top) 1, after?, jumped, Option.bind_some, after?, same,
    loop.tested]
  by_cases single : counter frame = 1
  · have zero : counter frame - 1 = 0 := by omega
    rw [if_pos single, zero]
    rfl
  · have nonzero : Condition.nonzero.holds (counter frame - 1) = true :=
      (Condition.holds_nonzero_iff _).mpr (by omega)
    rw [if_neg single, if_pos nonzero]

/-- What every round but the last keeps and the last one makes is what the loop makes. -/
theorem CountedLoop.after?_rounds (loop : CountedLoop program length counter turn)
    (last : ∀ frame, counter frame = 1 → (turn frame).jumpTo (length + 1) = result frame)
    (kept : ∀ frame, 1 < counter frame → result (turn frame) = result frame)
    (more : Nat) (top : frame.pc = 0) (left : counter frame = more + 1) :
    frame.after? program ((length + 1) * (more + 1)) = some (result frame) := by
  induction more generalizing frame with
  | zero =>
      have single : counter frame = 1 := left
      rw [Nat.mul_one, loop.round top, if_pos single, last frame single]
  | succ more previous =>
      have several : 1 < counter frame := by omega
      have round : frame.after? program (length + 1) = some (turn frame) := by
        rw [loop.round top, if_neg (by omega)]
      have fewer : counter (turn frame) = more + 1 := by
        rw [loop.counted]
        omega
      rw [Nat.mul_succ, Nat.add_comm, after?_add round, previous (loop.back frame) fewer,
        kept frame several]

/-- A counter that is not positive never comes down to one. -/
theorem CountedLoop.endless (loop : CountedLoop program length counter turn)
    (top : frame.pc = 0) (low : counter frame ≤ 0) (total : Nat) :
    ∃ later, frame.after? program total = some later := by
  have again : ∀ frame, frame.pc = 0 ∧ counter frame ≤ 0 →
      ∃ later, frame.after? program (length + 1) = some later ∧
        later.pc = 0 ∧ counter later ≤ 0 := by
    rintro frame ⟨top, low⟩
    refine ⟨turn frame, ?_, loop.back frame, ?_⟩
    · rw [loop.round top, if_neg (by omega)]
    · rw [loop.counted]
      omega
  exact exists_after?_of_recurring (Nat.zero_lt_succ length) again ⟨top, low⟩ total

end Accumulator.Assembly.Frame
