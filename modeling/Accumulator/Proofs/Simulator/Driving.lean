import Accumulator.Proofs.Machine.Halting
import Accumulator.Proofs.Machine.InstructionCycle
import Accumulator.Simulator.Run

set_option autoImplicit false

/-!
The ways of driving a simulator, reduced to single steps. Each loop has an exit test of its own; what
it makes of a simulator is in every case some number of single steps, and it answers their entries.
-/

namespace Accumulator

namespace Simulator

/-- The simulator after a number of single steps, and the transitions that they made, in order. -/
def stepTimes : Nat → Simulator → Simulator × List Transition
  | 0, simulator => (simulator, [])
  | count + 1, simulator =>
    let (last, later) := stepTimes count simulator.step.1
    (last, simulator.step.2 :: later)

variable {simulator : Simulator} {budget count : Nat}

theorem state_step (simulator : Simulator) : simulator.step.1.state = simulator.state.next :=
  rfl

theorem state_stepTimes (count : Nat) (simulator : Simulator) :
    (stepTimes count simulator).1.state = simulator.state.after count := by
  induction count generalizing simulator with
  | zero => rfl
  | succ count previous => exact previous simulator.step.1

/-- The loop stops where the machine does, so it makes the steps that the machine spends. -/
theorem advanceOnto_eq (spends : simulator.state.Spends budget count) (done : List Transition) :
    advanceOnto done budget simulator =
      ((stepTimes count simulator).1, (stepTimes count simulator).2.reverse ++ done) := by
  induction budget generalizing simulator count done with
  | zero =>
      have none : count = 0 := Nat.le_zero.mp spends.within
      rw [none]
      rfl
  | succ budget previous =>
      unfold advanceOnto
      cases count with
      | zero =>
          rw [if_pos spends.halted_of_zero]
          rfl
      | succ count =>
          have running := Bool.eq_false_iff.mp spends.running_of_succ
          have later : simulator.step.1.state.Spends budget count := spends.next
          rw [if_neg running, stepTimes]
          dsimp only
          rw [previous later, List.reverse_cons, List.append_assoc]
          rfl

theorem advance_eq (spends : simulator.state.Spends budget count) :
    simulator.advance budget = simulator.stepTimes count := by
  unfold advance
  rw [advanceOnto_eq spends, List.append_nil]
  dsimp only
  rw [List.reverse_reverse]

/-! ### Runs -/

theorem simulator_run (limit? : Option Int) :
    (simulator.run limit?).simulator =
      (simulator.advance (limit?.getD simulator.stepLimit).toNat).1 := by
  unfold run
  dsimp only
  split <;> rfl

theorem answer_run_of_halted {limit? : Option Int}
    (halted : (simulator.run limit?).simulator.state.halted = true) :
    (simulator.run limit?).answer =
      .ok ((simulator.advance (limit?.getD simulator.stepLimit).toNat).2.map Transition.entry) := by
  rw [simulator_run] at halted
  unfold run
  dsimp only
  rw [if_pos halted]
  rfl

theorem answer_run_of_running {limit? : Option Int}
    (running : (simulator.run limit?).simulator.state.halted = false) :
    (simulator.run limit?).answer =
      .error (Fault.mentioning (limit?.getD simulator.stepLimit)
        (.stepLimit (limit?.getD simulator.stepLimit))) := by
  rw [simulator_run] at running
  unfold run
  dsimp only
  rw [running]
  rfl

theorem finish_of_halted (halted : simulator.state.halted = true) :
    simulator.finish = (simulator, []) := by
  rw [finish, if_pos halted]

private theorem stepsToExecute_of_last {state : State} (running : state.halted = false)
    (last : state.next.phase = .execute) : stepsToExecute state.phase = 1 := by
  rcases State.next_cases state with ⟨halted, _⟩ | ⟨_, _, same⟩ | ⟨_, _, same⟩ | ⟨_, decoded, _⟩
  · rw [running] at halted
    contradiction
  · rw [same] at last
    contradiction
  · rw [same] at last
    contradiction
  · rw [decoded]
    rfl

private theorem stepsToExecute_of_earlier {state : State} (running : state.halted = false)
    (earlier : state.next.phase ≠ .execute) :
    state.next.halted = false ∧
      stepsToExecute state.phase = stepsToExecute state.next.phase + 1 := by
  rcases State.next_cases state with
    ⟨halted, _⟩ | ⟨_, boundary, same⟩ | ⟨_, fetched, same⟩ | ⟨_, _, same⟩
  · rw [running] at halted
    contradiction
  · rw [same]
    refine ⟨running, ?_⟩
    rcases boundary with idle | execute
    · rw [idle]
      rfl
    · rw [execute]
      rfl
  · rw [same, fetched]
    exact ⟨running, rfl⟩
  · rw [same] at earlier
    exact absurd rfl earlier

/-- The loop over the phases of a running machine ends at the first execute, which is as many steps
away as the phase says. -/
theorem finish_eq (running : simulator.state.halted = false) :
    simulator.finish = simulator.stepTimes (stepsToExecute simulator.state.phase) := by
  fun_induction finish simulator with
  | case1 simulator halted =>
      rw [running] at halted
      contradiction
  | case2 simulator _ last =>
      rw [stepsToExecute_of_last running last]
      rfl
  | case3 simulator _ earlier last later finished previous =>
      obtain ⟨going, count⟩ := stepsToExecute_of_earlier running earlier
      rw [previous going] at finished
      rw [count, stepTimes, ← state_step, finished]

end Simulator

end Accumulator
