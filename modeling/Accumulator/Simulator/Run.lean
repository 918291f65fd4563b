import Accumulator.Simulator.Basic

set_option autoImplicit false

/-!
Advancing a simulator: by one transition, to the end of an instruction, or until the machine
halts. All three are repetitions of the first.
-/

namespace Accumulator

/-- A recorded transition together with the registers that it led to. -/
structure Transition where
  entry : Entry
  registers : Registers
  deriving DecidableEq, Repr

def Transition.note (transition : Transition) : Note :=
  .stepped transition.entry.event transition.registers

namespace Simulator

def step (simulator : Simulator) : Simulator × Transition :=
  let (state, event) := simulator.state.step
  let entry : Entry :=
    { index := simulator.steps
      phase := state.phase
      pc := simulator.state.pc
      event := event
      halted := state.halted }
  ({ simulator with
      state := state
      history := simulator.history.record entry
      steps := simulator.steps + 1
      lastAction := .moved event },
    { entry := entry, registers := state.toRegisters })

/-- Steps while the machine is not halted, at most the given number of times. The transitions are
added in front of those already made, the newest first. -/
def advanceOnto (done : List Transition) : Nat → Simulator → Simulator × List Transition
  | 0, simulator => (simulator, done)
  | budget + 1, simulator =>
    if simulator.state.halted then (simulator, done)
    else
      let (moved, transition) := simulator.step
      advanceOnto (transition :: done) budget moved

def advance (budget : Nat) (simulator : Simulator) : Simulator × List Transition :=
  let (moved, done) := advanceOnto [] budget simulator
  (moved, done.reverse)

def answering (simulator : Simulator) (transitions : List Transition) : Outcome (List Entry) :=
  { simulator := simulator
    answer := .ok (transitions.map Transition.entry)
    notes := transitions.map Transition.note }

/-- How many transitions away from a phase the end of an instruction is. -/
def stepsToExecute : Phase → Nat
  | .idle => 3
  | .fetch => 2
  | .decode => 1
  | .execute => 3

theorem stepsToExecute_step_lt {simulator : Simulator} (running : ¬simulator.state.halted = true)
    (unfinished : ¬simulator.step.1.state.phase = .execute) :
    stepsToExecute simulator.step.1.state.phase < stepsToExecute simulator.state.phase := by
  change ¬simulator.state.step.1.phase = .execute at unfinished
  change stepsToExecute simulator.state.step.1.phase < _
  unfold State.step at unfinished ⊢
  rw [if_neg running] at unfinished ⊢
  cases phase : simulator.state.phase with
  | idle => exact Nat.le_refl 3
  | fetch => exact Nat.le_refl 2
  | decode =>
      rw [phase] at unfinished
      exact absurd rfl unfinished
  | execute => exact Nat.le_refl 3

/-- Steps until an instruction has been executed, but not when the machine is halted. -/
def finish (simulator : Simulator) : Simulator × List Transition :=
  if simulator.state.halted then (simulator, [])
  else if simulator.step.1.state.phase = .execute then
    (simulator.step.1, [simulator.step.2])
  else
    let (last, later) := finish simulator.step.1
    (last, simulator.step.2 :: later)
termination_by stepsToExecute simulator.state.phase
decreasing_by exact stepsToExecute_step_lt ‹_› ‹_›

def stepInstruction (simulator : Simulator) : Outcome (List Entry) :=
  let (moved, transitions) := simulator.finish
  moved.answering transitions

/-- The note that a run was ended by its limit. A limit that cannot be written is not noted. -/
def limitNotes (limit : Int) (pc : Nat) : List Note :=
  if Numeral.hasDecimal limit then [.limitReached limit pc] else []

/-- Steps until the machine halts. It is a fault if it has not halted after the steps allowed. -/
def run (simulator : Simulator) (limit? : Option Int) : Outcome (List Entry) :=
  let limit := limit?.getD simulator.stepLimit
  let (moved, transitions) := simulator.advance limit.toNat
  let notes := transitions.map Transition.note
  if moved.state.halted then
    { moved.answering transitions with
      notes := notes ++ [.finished moved.state.cycles moved.state.acc] }
  else
    { simulator := moved
      answer := .error (Fault.mentioning limit (.stepLimit limit))
      notes := notes ++ limitNotes limit moved.state.pc }

end Simulator

end Accumulator
