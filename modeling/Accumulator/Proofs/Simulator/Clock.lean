import Accumulator.Proofs.Simulator.Driving
import Accumulator.Proofs.Simulator.Loading

set_option autoImplicit false

/-!
The clock of a machine. Between two restarts a simulator makes single steps and its cells are
edited, and nothing else happens to its machine. As long as the machine runs, the number of steps
alone tells its phase and its cycles. It halts with the last step of a cycle, and from then on its
registers stand still.
-/

namespace Accumulator

/-! ### Counting the steps of a machine -/

namespace Registers

/-- The phase of a running machine after a number of steps. -/
def phaseAfter (steps : Nat) : Phase :=
  if steps = 0 then .idle
  else if steps % 3 = 1 then .fetch
  else if steps % 3 = 2 then .decode
  else .execute

theorem phaseAfter_eq_fetch_iff (steps : Nat) : phaseAfter steps = .fetch ↔ steps % 3 = 1 := by
  grind [phaseAfter]

theorem phaseAfter_eq_decode_iff (steps : Nat) : phaseAfter steps = .decode ↔ steps % 3 = 2 := by
  grind [phaseAfter]

theorem phaseAfter_eq_execute_iff (steps : Nat) :
    phaseAfter steps = .execute ↔ steps ≠ 0 ∧ steps % 3 = 0 := by
  grind [phaseAfter]

theorem mod_three_of_boundary {steps : Nat}
    (boundary : phaseAfter steps = .idle ∨ phaseAfter steps = .execute) : steps % 3 = 0 := by
  grind [phaseAfter]

/-- What the registers show of a number of steps. -/
structure Clocked (steps : Nat) (registers : Registers) : Prop where
  running : registers.halted = false →
    registers.cycles = steps / 3 ∧ registers.phase = phaseAfter steps
  halted : registers.halted = true → registers.phase = .execute ∧ 3 * registers.cycles ≤ steps

theorem clocked_default : Clocked 0 {} where
  running _ := ⟨rfl, rfl⟩
  halted impossible := by contradiction

end Registers

namespace State

open Registers (Clocked phaseAfter)

variable {state : State} {steps : Nat}

/-- The last step of a cycle makes the count of steps three times that of cycles. -/
theorem completes_cycle (clocked : Clocked steps state.toRegisters)
    (running : state.halted = false) (decoded : state.phase = .decode) :
    state.next.phase = .execute ∧ 3 * state.next.cycles = steps + 1 := by
  obtain ⟨cycles, phase⟩ := clocked.running running
  have position : steps % 3 = 2 :=
    (Registers.phaseAfter_eq_decode_iff steps).mp (phase.symm.trans decoded)
  have completed : state.next.cycles = state.cycles + 1 := by
    rw [next_of_decoded running decoded]
    exact congrArg (· + 1) (cycles_apply state (decode state.ir).operation)
  refine ⟨by rw [next_of_decoded running decoded], ?_⟩
  rw [completed, cycles]
  omega

theorem clocked_next (clocked : Clocked steps state.toRegisters) :
    Clocked (steps + 1) state.next.toRegisters := by
  rcases next_cases state with
    ⟨halted, same⟩ | ⟨running, boundary, same⟩ | ⟨running, fetched, same⟩ | ⟨running, decoded, _⟩
  · rw [same]
    refine ⟨fun running => ?_, fun _ => ?_⟩
    · rw [halted] at running
      contradiction
    · obtain ⟨phase, since⟩ := clocked.halted halted
      exact ⟨phase, Nat.le_succ_of_le since⟩
  · obtain ⟨cycles, phase⟩ := clocked.running running
    have position : steps % 3 = 0 := Registers.mod_three_of_boundary (phase ▸ boundary)
    rw [same]
    refine ⟨fun _ => ⟨?_, ?_⟩, fun halted => ?_⟩
    · exact cycles.trans (by omega)
    · exact ((Registers.phaseAfter_eq_fetch_iff (steps + 1)).mpr (by omega)).symm
    · exact absurd halted (Bool.eq_false_iff.mp running)
  · obtain ⟨cycles, phase⟩ := clocked.running running
    have position : steps % 3 = 1 :=
      (Registers.phaseAfter_eq_fetch_iff steps).mp (phase.symm.trans fetched)
    rw [same]
    refine ⟨fun _ => ⟨?_, ?_⟩, fun halted => ?_⟩
    · exact cycles.trans (by omega)
    · exact ((Registers.phaseAfter_eq_decode_iff (steps + 1)).mpr (by omega)).symm
    · exact absurd halted (Bool.eq_false_iff.mp running)
  · obtain ⟨phase, cycles⟩ := completes_cycle clocked running decoded
    refine ⟨fun _ => ⟨by omega, ?_⟩, fun _ => ⟨phase, by omega⟩⟩
    rw [phase, (Registers.phaseAfter_eq_execute_iff (steps + 1)).mpr (by omega)]

/-- A step that halts the machine is the last one of a cycle. -/
theorem cycles_of_halting_step (clocked : Clocked steps state.toRegisters)
    (running : state.halted = false) (halts : state.next.halted = true) :
    3 * state.next.cycles = steps + 1 := by
  rcases next_cases state with ⟨halted, _⟩ | ⟨_, _, same⟩ | ⟨_, _, same⟩ | ⟨_, decoded, _⟩
  · rw [running] at halted
    contradiction
  · rw [same] at halts
    exact absurd halts (Bool.eq_false_iff.mp running)
  · rw [same] at halts
    exact absurd halts (Bool.eq_false_iff.mp running)
  · exact (completes_cycle clocked running decoded).2

end State

/-! ### Commands as moves -/

namespace Command

/-- The commands that start the machine anew: the loads, the clearing and the reset. -/
def restarts : Command → Bool
  | .loadMemory _ => true
  | .loadProgram _ _ => true
  | .loadSample => true
  | .clearMemory => true
  | .reset => true
  | _ => false

/-- A single step or an edit. -/
def isMove : Command → Bool
  | .step => true
  | .editCell _ _ => true
  | _ => false

/-- The moves that a command makes: one step for each of its transitions, or the command itself. -/
def moves (simulator : Simulator) : Command → List Command
  | .stepInstruction => List.replicate simulator.finish.2.length .step
  | .run limit? =>
    List.replicate (simulator.advance (limit?.getD simulator.stepLimit).toNat).2.length .step
  | command => [command]

theorem isMove_of_mem_moves {simulator : Simulator} {command move : Command}
    (between : command.restarts = false) (among : move ∈ command.moves simulator) :
    move.isMove = true := by
  cases command with
  | editCell address entered => rw [List.mem_singleton.mp among]; rfl
  | step => rw [List.mem_singleton.mp among]; rfl
  | stepInstruction => rw [(List.mem_replicate.mp among).2]; rfl
  | run limit? => rw [(List.mem_replicate.mp among).2]; rfl
  | _ => contradiction

end Command

namespace Simulator

/-- The moves of a session, one command after the other. -/
def moves [Provision] (simulator : Simulator) : List Command → List Command
  | [] => []
  | command :: rest =>
    command.moves simulator ++ (simulator.perform command).simulator.moves rest

variable {simulator : Simulator}

theorem length_stepTimes (count : Nat) (simulator : Simulator) :
    (stepTimes count simulator).2.length = count := by
  induction count generalizing simulator with
  | zero => rfl
  | succ count previous => exact congrArg (· + 1) (previous simulator.step.1)

theorem session_append [Provision] (simulator : Simulator) (first second : List Command) :
    simulator.session (first ++ second) = (simulator.session first).session second :=
  List.foldl_append

theorem session_replicate_step [Provision] (count : Nat) (simulator : Simulator) :
    simulator.session (List.replicate count .step) = (stepTimes count simulator).1 := by
  induction count generalizing simulator with
  | zero => rfl
  | succ count previous => exact previous simulator.step.1

theorem exists_finish_eq (simulator : Simulator) :
    ∃ count, simulator.finish = simulator.stepTimes count := by
  rcases Bool.eq_false_or_eq_true simulator.state.halted with halted | running
  · exact ⟨0, finish_of_halted halted⟩
  · exact ⟨_, finish_eq running⟩

theorem exists_advance_eq (simulator : Simulator) (budget : Nat) :
    ∃ count, simulator.advance budget = simulator.stepTimes count := by
  obtain ⟨count, spends⟩ := simulator.state.exists_spends budget
  exact ⟨count, advance_eq spends⟩

theorem session_moves_command [Provision] (simulator : Simulator) (command : Command) :
    simulator.session (command.moves simulator) = (simulator.perform command).simulator := by
  cases command with
  | stepInstruction =>
      obtain ⟨count, made⟩ := simulator.exists_finish_eq
      change simulator.session (List.replicate simulator.finish.2.length .step) =
        simulator.finish.1
      rw [made, length_stepTimes, session_replicate_step]
  | run limit? =>
      obtain ⟨count, made⟩ :=
        simulator.exists_advance_eq (limit?.getD simulator.stepLimit).toNat
      change simulator.session (List.replicate _ .step) = (simulator.run limit?).simulator
      rw [simulator_run, made, length_stepTimes, session_replicate_step]
  | _ => rfl

theorem session_moves [Provision] (simulator : Simulator) (commands : List Command) :
    simulator.session (simulator.moves commands) = simulator.session commands := by
  induction commands generalizing simulator with
  | nil => rfl
  | cons command rest previous =>
      rw [moves, session_append, session_moves_command, previous]
      rfl

theorem isMove_of_mem_session_moves [Provision] {commands : List Command}
    (between : ∀ command ∈ commands, command.restarts = false) {move : Command}
    (among : move ∈ simulator.moves commands) : move.isMove = true := by
  induction commands generalizing simulator with
  | nil => contradiction
  | cons command rest previous =>
      rcases List.mem_append.mp among with first | later
      · exact Command.isMove_of_mem_moves (between command List.mem_cons_self) first
      · exact previous (fun other inside => between other (List.mem_cons_of_mem command inside))
          later

/-! ### The clock of a session -/

theorem exists_memory_of_edit [Provision] (simulator : Simulator) (address : Int) (entered : Cell) :
    ∃ memory, (simulator.perform (.editCell address entered)).simulator =
      { simulator with state := { simulator.state with memory := memory } } := by
  unfold perform editCell
  dsimp only
  cases enteredText? entered with
  | some text => exact ⟨_, rfl⟩
  | none => exact ⟨simulator.state.memory, rfl⟩

/-- A move is a step of the machine, or it changes nothing but the memory. -/
theorem perform_move_cases [Provision] (simulator : Simulator) {move : Command}
    (single : move.isMove = true) :
    (move = .step ∧ (simulator.perform move).simulator = simulator.step.1) ∨
      (move ≠ .step ∧ ∃ memory, (simulator.perform move).simulator =
        { simulator with state := { simulator.state with memory := memory } }) := by
  cases move with
  | step => exact .inl ⟨rfl, rfl⟩
  | editCell address entered =>
      exact .inr ⟨nofun, simulator.exists_memory_of_edit address entered⟩
  | _ => contradiction

/-- A simulator that has made a number of steps since its machine was started anew. -/
structure Timed (steps : Nat) (simulator : Simulator) : Prop where
  counted : simulator.steps = steps
  clocked : simulator.state.toRegisters.Clocked steps

variable {steps : Nat} {moves : List Command}

theorem session_cons [Provision] (simulator : Simulator) (command : Command) (rest : List Command) :
    simulator.session (command :: rest) = (simulator.perform command).simulator.session rest :=
  rfl

theorem Timed.session [Provision] (timed : simulator.Timed steps)
    (single : ∀ move ∈ moves, move.isMove = true) :
    (simulator.session moves).Timed (steps + moves.count .step) := by
  induction moves generalizing simulator steps with
  | nil => exact timed
  | cons move rest previous =>
      have others : ∀ later ∈ rest, later.isMove = true := fun later among =>
        single later (List.mem_cons_of_mem move among)
      rw [session_cons]
      rcases simulator.perform_move_cases (single move List.mem_cons_self) with
        ⟨rfl, stepped⟩ | ⟨other, memory, edited⟩
      · have moved : simulator.step.1.Timed (steps + 1) :=
          ⟨congrArg (· + 1) timed.counted, State.clocked_next timed.clocked⟩
        rw [stepped, List.count_cons_self, Nat.add_comm _ 1, ← Nat.add_assoc]
        exact previous moved others
      · rw [edited, List.count_cons_of_ne other]
        exact previous ⟨timed.counted, timed.clocked⟩ others

/-- The registers of a halted machine stand still. -/
theorem registers_session_of_halted [Provision] (halted : simulator.state.halted = true)
    (single : ∀ move ∈ moves, move.isMove = true) :
    (simulator.session moves).state.toRegisters = simulator.state.toRegisters := by
  induction moves generalizing simulator with
  | nil => rfl
  | cons move rest previous =>
      have others : ∀ later ∈ rest, later.isMove = true := fun later among =>
        single later (List.mem_cons_of_mem move among)
      have kept : (simulator.perform move).simulator.state.toRegisters =
          simulator.state.toRegisters := by
        rcases simulator.perform_move_cases (single move List.mem_cons_self) with
          ⟨_, stepped⟩ | ⟨_, memory, edited⟩
        · rw [stepped, state_step, State.next_of_halted halted]
        · rw [edited]
      have still : (simulator.perform move).simulator.state.halted = true :=
        (congrArg Registers.halted kept).trans halted
      rw [session_cons, previous still others, kept]

/-- A machine that is running halts with a step that is still to come. -/
theorem Timed.lt_of_halts_later [Provision] (timed : simulator.Timed steps)
    (running : simulator.state.halted = false) (single : ∀ move ∈ moves, move.isMove = true)
    (halts : (simulator.session moves).state.halted = true) :
    steps < 3 * (simulator.session moves).state.cycles := by
  induction moves generalizing simulator steps with
  | nil => exact absurd halts (Bool.eq_false_iff.mp running)
  | cons move rest previous =>
      have others : ∀ later ∈ rest, later.isMove = true := fun later among =>
        single later (List.mem_cons_of_mem move among)
      rw [session_cons] at halts ⊢
      rcases simulator.perform_move_cases (single move List.mem_cons_self) with
        ⟨_, stepped⟩ | ⟨_, memory, edited⟩
      · rw [stepped] at halts ⊢
        have moved : simulator.step.1.Timed (steps + 1) :=
          ⟨congrArg (· + 1) timed.counted, State.clocked_next timed.clocked⟩
        rcases Bool.eq_false_or_eq_true simulator.step.1.state.halted with stopped | going
        · have cycles := State.cycles_of_halting_step timed.clocked running stopped
          have still := registers_session_of_halted stopped others
          rw [still]
          change steps < 3 * simulator.state.next.cycles
          omega
        · have later := previous moved going others halts
          omega
      · rw [edited] at halts ⊢
        exact previous ⟨timed.counted, timed.clocked⟩ running others halts

/-- When a machine has halted, its cycles tell the step that it halted with. -/
theorem Timed.halted_session_iff [Provision] (timed : simulator.Timed 0)
    {earlier later : List Command} (single : ∀ move ∈ earlier ++ later, move.isMove = true)
    (halts : (simulator.session (earlier ++ later)).state.halted = true) :
    (simulator.session earlier).state.halted = true ↔
      3 * (simulator.session (earlier ++ later)).state.cycles ≤ earlier.count .step := by
  have reached := timed.session fun move among => single move (List.mem_append_left later among)
  have others : ∀ move ∈ later, move.isMove = true := fun move among =>
    single move (List.mem_append_right earlier among)
  rw [Nat.zero_add] at reached
  rw [session_append] at halts ⊢
  constructor
  · intro halted
    rw [registers_session_of_halted halted others]
    exact (reached.clocked.halted halted).2
  · intro late
    rcases Bool.eq_false_or_eq_true (simulator.session earlier).state.halted with halted | running
    · exact halted
    · exact absurd (reached.lt_of_halts_later running others halts) (Nat.not_lt.mpr late)

/-! ### Restarts -/

/-- A command succeeded and put all registers and the count of steps back, or it failed and left the
machine as it was. -/
def RestartedOrKept (simulator : Simulator) (outcome : Outcome (List Entry)) : Prop :=
  (outcome.answer = .ok [] ∧ outcome.simulator.steps = 0 ∧
      outcome.simulator.state.toRegisters = {}) ∨
    ∃ fault, outcome.answer = .error fault ∧ outcome.simulator.state = simulator.state

theorem restartedOrKept_loadCells (simulator : Simulator) (cells : List Cell) (action : Action) :
    simulator.RestartedOrKept (simulator.settled (simulator.loadCells cells action)) := by
  unfold loadCells
  split
  · exact .inr ⟨.outOfMemory, rfl, rfl⟩
  · exact .inl ⟨rfl, rfl, rfl⟩

theorem restartedOrKept_loadProgram [Provision] (simulator : Simulator) (source : String)
    (bindings : Assembly.Bindings) :
    simulator.RestartedOrKept (simulator.perform (.loadProgram source bindings)) := by
  unfold perform
  dsimp only
  rcases Assembly.assemble_cases source bindings simulator.memorySize with
    ⟨image, made⟩ | ⟨required, size, refused⟩ | ⟨fault, refused, other⟩
  · rw [loadProgram_of_assembled simulator made]
    exact .inl ⟨rfl, rfl, rfl⟩
  · rw [loadProgram_of_scarce simulator refused]
    exact .inr ⟨.capacity required size, rfl, rfl⟩
  · rw [loadProgram_of_refused simulator refused other]
    exact .inr ⟨fault, rfl, rfl⟩

theorem restartedOrKept_perform [Provision] (simulator : Simulator) {start : Command}
    (restarts : start.restarts = true) : simulator.RestartedOrKept (simulator.perform start) := by
  cases start with
  | loadMemory cells => exact simulator.restartedOrKept_loadCells cells .memoryLoaded
  | loadProgram source bindings => exact simulator.restartedOrKept_loadProgram source bindings
  | loadSample => exact simulator.restartedOrKept_loadCells Assembly.sample .sampleLoaded
  | clearMemory => exact .inl ⟨rfl, rfl, rfl⟩
  | reset => exact .inl ⟨rfl, rfl, rfl⟩
  | _ => contradiction

theorem timed_of_restart [Provision] {start : Command} (restarts : start.restarts = true)
    (succeeded : (simulator.perform start).answer = .ok []) :
    (simulator.perform start).simulator.Timed 0 := by
  rcases simulator.restartedOrKept_perform restarts with ⟨_, steps, fresh⟩ | ⟨fault, failed, _⟩
  · refine ⟨steps, ?_⟩
    rw [fresh]
    exact Registers.clocked_default
  · rw [failed] at succeeded
    contradiction

/-! ### Between two restarts -/

/-- The registers of a halted machine stand still whatever is asked of it between two restarts. -/
theorem registers_session_of_no_restart [Provision] (halted : simulator.state.halted = true)
    {commands : List Command} (between : ∀ command ∈ commands, command.restarts = false) :
    (simulator.session commands).state.toRegisters = simulator.state.toRegisters := by
  rw [← session_moves]
  exact registers_session_of_halted halted fun _ => isMove_of_mem_session_moves between

/-- A command that sets a halted machine going again is a restart that succeeds. -/
theorem restarts_of_running_again [Provision] (halted : simulator.state.halted = true)
    {command : Command} (running : (simulator.perform command).simulator.state.halted = false) :
    command.restarts = true ∧ (simulator.perform command).answer = .ok [] := by
  rcases Bool.eq_false_or_eq_true command.restarts with restarts | between
  · refine ⟨restarts, ?_⟩
    rcases simulator.restartedOrKept_perform restarts with ⟨succeeded, _⟩ | ⟨_, _, kept⟩
    · exact succeeded
    · rw [kept, halted] at running
      contradiction
  · have alone : ∀ other ∈ [command], other.restarts = false := by
      intro other among
      rw [List.mem_singleton.mp among]
      exact between
    have still := registers_session_of_no_restart halted alone
    have stays : (simulator.perform command).simulator.state.halted = true :=
      (congrArg Registers.halted still).trans halted
    rw [stays] at running
    contradiction

/-- Nothing but an edit changes the memory of a halted machine between two restarts. -/
theorem state_perform_of_halted [Provision] (halted : simulator.state.halted = true)
    {command : Command}
    (driving : command = .step ∨ command = .stepInstruction ∨ ∃ limit?, command = .run limit?) :
    (simulator.perform command).simulator.state = simulator.state := by
  rcases driving with rfl | rfl | ⟨limit?, rfl⟩
  · exact State.next_of_halted halted
  · change (simulator.finish).1.state = _
    rw [finish_of_halted halted]
  · change (simulator.run limit?).simulator.state = _
    obtain ⟨count, made⟩ :=
      simulator.exists_advance_eq (limit?.getD simulator.stepLimit).toNat
    rw [simulator_run, made, state_stepTimes, State.after_of_halted halted]

/-- After a load, clearing or reset, the commands that follow come down to single steps and edits.
While the machine runs, the number of steps tells its phase and its cycles. A machine that has
halted did so with the step that its cycles tell; from then on no command but an edit changes
anything, an edit changes the memory only, and nothing but a restart sets it going again. -/
theorem steps_tell_phase_and_cycles [Provision] (simulator : Simulator) (start : Command)
    (restarts : start.restarts = true) (succeeded : (simulator.perform start).answer = .ok [])
    (commands : List Command) (between : ∀ command ∈ commands, command.restarts = false) :
    let begun := (simulator.perform start).simulator
    let driven := begun.session commands
    let state := driven.state
    let moves := begun.moves commands
    let steps := moves.count .step
    (∀ move ∈ moves, move.isMove = true) ∧ begun.session moves = driven ∧
      begun.steps = 0 ∧ driven.steps = steps ∧
      (state.halted = false →
        state.cycles = steps / 3 ∧
          state.phase =
            if steps = 0 then .idle
            else if steps % 3 = 1 then .fetch
            else if steps % 3 = 2 then .decode
            else .execute) ∧
      (state.halted = true →
        state.phase = .execute ∧
          (∀ earlier later, moves = earlier ++ later →
            ((begun.session earlier).state.halted = true ↔
              3 * state.cycles ≤ earlier.count .step)) ∧
          (∀ later, (∀ command ∈ later, command.restarts = false) →
            let last := driven.session later
            last.state.toRegisters = state.toRegisters ∧
              ∀ command,
                command = .step ∨ command = .stepInstruction ∨ (∃ limit?, command = .run limit?) →
                  (last.perform command).simulator.state = last.state) ∧
          ∀ command, (driven.perform command).simulator.state.halted = false →
            command.restarts = true ∧ (driven.perform command).answer = .ok []) ∧
      ∀ address entered, ∃ memory,
        (driven.perform (.editCell address entered)).simulator =
          { driven with state := { state with memory := memory } } := by
  intro begun driven state moves steps
  have single : ∀ move ∈ moves, move.isMove = true := fun _ => isMove_of_mem_session_moves between
  have same : begun.session moves = driven := begun.session_moves commands
  have fresh : begun.Timed 0 := timed_of_restart restarts succeeded
  have timed : driven.Timed steps := by
    have last := fresh.session single
    rw [same, Nat.zero_add] at last
    exact last
  refine ⟨single, same, fresh.counted, timed.counted, timed.clocked.running, ?_,
    driven.exists_memory_of_edit⟩
  intro halted
  refine ⟨(timed.clocked.halted halted).1, ?_, ?_, fun _ => restarts_of_running_again halted⟩
  · intro earlier later parted
    have halts : (begun.session (earlier ++ later)).state.halted = true := by
      rw [← parted, same]
      exact halted
    have iff := fresh.halted_session_iff (parted ▸ single) halts
    rw [← parted, same] at iff
    exact iff
  · intro later others last
    have still : last.state.toRegisters = state.toRegisters :=
      registers_session_of_no_restart halted others
    refine ⟨still, fun command driving => state_perform_of_halted ?_ driving⟩
    exact (congrArg Registers.halted still).trans halted

section

open scoped Provision

/-- A run is cut off within the instruction that halts, whose cell is edited before it is executed;
the run and the step after the halt find the machine at rest. -/
theorem edited_halt_comes_with_the_sixth_step :
    let start : Command := .loadMemory [.text "LOAD 1", .text "HLT"]
    let begun := ((new 3 100).perform start).simulator
    let commands : List Command :=
      [.run (some 4), .editCell 1 (.text "OUT"), .step, .step, .run none, .step]
    let driven := begun.session commands
    start.restarts = true ∧ ((new 3 100).perform start).answer = .ok [] ∧
      (∀ command ∈ commands, command.restarts = false) ∧
      driven.state.halted = true ∧ driven.state.cycles = 2 ∧ driven.state.phase = .execute ∧
      (begun.moves commands).count .step = 7 := by
  intro start begun commands driven
  have succeeded : ((new 3 100).perform start).answer = .ok [] := rfl
  have between : ∀ command ∈ commands, command.restarts = false := by decide
  have halted : driven.state.halted = true := by decide +kernel
  have cycles : driven.state.cycles = 2 := by decide +kernel
  have made : driven.steps = 7 := by decide +kernel
  -- With the two names unfolded, nothing below is compared by running the simulator.
  dsimp only [driven, begun] at halted cycles made ⊢
  obtain ⟨_, _, _, counted, _, stopped, _⟩ :=
    steps_tell_phase_and_cycles (new 3 100) start rfl succeeded commands between
  exact ⟨rfl, succeeded, between, halted, cycles, (stopped halted).1, counted.symm.trans made⟩

end

end Simulator

end Accumulator
