import Accumulator.Proofs.Assembly.Image
import Accumulator.Proofs.Machine.Unchecked
import Accumulator.Simulator.Command

set_option autoImplicit false

/-!
The invariant of simulators. A simulator is sound when its machine is valid, its memory has the
stated size and its history is within its limit. Every command keeps a simulator sound, whether it
succeeds or fails, as long as it loads nothing but storable cells.
-/

namespace Accumulator

/-- Whether the cells that a command loads as they stand are texts, numbers and absent cells. -/
def Command.isLoadable : Command → Bool
  | .loadMemory cells => cells.all Cell.isStorable
  | _ => true

/-! ### Storable cells -/

theorem Simulator.isStorable_cellOfText (text : String) :
    (Simulator.cellOfText text).isStorable = true := by
  unfold Simulator.cellOfText
  split
  · rfl
  · split <;> rfl

namespace Simulator

theorem isStorable_emptyMemory {size : Int} {cell : Cell} (among : cell ∈ emptyMemory size) :
    cell.isStorable = true := by
  rw [(List.mem_replicate.mp among).2]
  rfl

theorem isStorable_fitted {memorySize : Int} {cells : List Cell}
    (storable : ∀ cell ∈ cells, cell.isStorable = true) {cell : Cell}
    (among : cell ∈ fitted memorySize cells) : cell.isStorable = true := by
  rcases List.mem_append.mp among with kept | padding
  · exact storable cell (List.mem_of_mem_take kept)
  · exact isStorable_emptyMemory padding

theorem length_fitted {memorySize : Int} (nonnegative : 0 ≤ memorySize) (cells : List Cell) :
    ((fitted memorySize cells).length : Int) = memorySize := by
  unfold fitted emptyMemory
  rw [List.length_append, List.length_replicate, List.length_take]
  omega

/-! ### Soundness -/

/-- What every command keeps of a simulator over a memory of the given size. -/
structure Sound (memorySize : Int) (simulator : Simulator) : Prop where
  sized : simulator.memorySize = memorySize
  valid : simulator.state.Valid
  filled : (simulator.state.size : Int) = memorySize
  remembered : simulator.history.size ≤ historyLimit

section Operations

variable {memorySize : Int} {simulator : Simulator}

theorem Sound.restart (sound : Sound memorySize simulator) {image : List Cell}
    (storable : ∀ cell ∈ image, cell.isStorable = true)
    (length : (image.length : Int) = memorySize) (action : Action) :
    Sound memorySize (simulator.restart (State.initial image) action) where
  sized := sound.sized
  valid := State.valid_initial image storable
  filled := length
  remembered := Nat.zero_le historyLimit

theorem sound_new (nonnegative : 0 ≤ memorySize) (stepLimit : Int) :
    Sound memorySize (new memorySize stepLimit) where
  sized := rfl
  valid := State.valid_initial _ fun _ => isStorable_emptyMemory
  filled := by
    change ((List.replicate memorySize.toNat Cell.empty).length : Int) = memorySize
    rw [List.length_replicate]
    omega
  remembered := Nat.zero_le historyLimit

theorem Sound.reset (sound : Sound memorySize simulator) : Sound memorySize simulator.reset where
  sized := sound.sized
  valid := sound.valid.restarted
  filled := sound.filled
  remembered := Nat.zero_le historyLimit

theorem Sound.clearMemory (nonnegative : 0 ≤ memorySize) (sound : Sound memorySize simulator) :
    Sound memorySize simulator.clearMemory := by
  apply sound.restart (fun _ => isStorable_emptyMemory)
  rw [sound.sized, emptyMemory, List.length_replicate]
  omega

theorem Sound.loadCells (nonnegative : 0 ≤ memorySize) (sound : Sound memorySize simulator)
    {cells : List Cell} (storable : ∀ cell ∈ cells, cell.isStorable = true) {action : Action}
    {next : Simulator} (loaded : simulator.loadCells cells action = .ok next) :
    Sound memorySize next := by
  unfold Simulator.loadCells at loaded
  split at loaded
  · contradiction
  · rw [← Except.ok.inj loaded]
    apply sound.restart (fun _ => isStorable_fitted storable)
    rw [sound.sized]
    exact length_fitted nonnegative cells

/-- A load that fails changes the last action at most. -/
theorem Sound.loadProgram [Provision] (sound : Sound memorySize simulator) (source : String)
    (bindings : Assembly.Bindings) :
    Sound memorySize (simulator.loadProgram source bindings).simulator := by
  unfold Simulator.loadProgram
  dsimp only
  split
  · next image made =>
      obtain ⟨enough, _, cells⟩ := Assembly.imageCells_of_assemble made
      rw [sound.sized] at enough cells
      apply sound.restart
      · rw [cells]
        exact fun _ => Assembly.isStorable_imageCells
      · rw [cells]
        exact Assembly.length_imageCells enough
  · exact ⟨sound.sized, sound.valid, sound.filled, sound.remembered⟩
  · exact sound

theorem Sound.editCell (sound : Sound memorySize simulator) {address : Int} {entered : Cell}
    {next : Simulator} (edited : simulator.editCell address entered = .ok next) :
    Sound memorySize next := by
  unfold Simulator.editCell at edited
  split at edited
  · next text _ =>
      rw [← Except.ok.inj edited]
      exact {
        sized := sound.sized
        valid := sound.valid.write address (isStorable_cellOfText text)
        filled := (congrArg Int.ofNat (State.size_write _ _ _)).trans sound.filled
        remembered := sound.remembered }
  · contradiction

theorem Sound.step (sound : Sound memorySize simulator) :
    Sound memorySize simulator.step.1 where
  sized := sound.sized
  valid := sound.valid.next
  filled := (congrArg Int.ofNat (State.size_next simulator.state)).trans sound.filled
  remembered := History.size_record_le simulator.history _

theorem Sound.advanceOnto (sound : Sound memorySize simulator) (done : List Transition)
    (budget : Nat) : Sound memorySize (advanceOnto done budget simulator).1 := by
  induction budget generalizing simulator done with
  | zero => exact sound
  | succ budget previous =>
      unfold Simulator.advanceOnto
      split
      · exact sound
      · exact previous sound.step (simulator.step.2 :: done)

theorem Sound.finish (sound : Sound memorySize simulator) :
    Sound memorySize simulator.finish.1 := by
  fun_induction Simulator.finish simulator with
  | case1 simulator halted => exact sound
  | case2 simulator running executed => exact sound.step
  | case3 simulator running unfinished last later finished previous =>
      rw [finished] at previous
      exact previous sound.step

theorem Sound.run (sound : Sound memorySize simulator) (limit? : Option Int) :
    Sound memorySize (simulator.run limit?).simulator := by
  unfold Simulator.run
  dsimp only
  split
  · exact sound.advanceOnto [] _
  · exact sound.advanceOnto [] _

theorem Sound.settled (sound : Sound memorySize simulator) {changed : Except Fault Simulator}
    (kept : ∀ next, changed = .ok next → Sound memorySize next) :
    Sound memorySize (simulator.settled changed).simulator := by
  cases changed with
  | error fault => exact sound
  | ok next => exact kept next rfl

theorem Sound.perform [Provision] (nonnegative : 0 ≤ memorySize)
    (sound : Sound memorySize simulator) {command : Command}
    (loadable : command.isLoadable = true) :
    Sound memorySize (simulator.perform command).simulator := by
  cases command with
  | loadMemory cells =>
      exact sound.settled fun _ =>
        sound.loadCells nonnegative (List.all_eq_true.mp loadable)
  | loadProgram source bindings => exact sound.loadProgram source bindings
  | loadSample => exact sound.settled fun _ => sound.loadCells nonnegative (by decide)
  | clearMemory => exact sound.clearMemory nonnegative
  | reset => exact sound.reset
  | editCell address entered => exact sound.settled fun _ => sound.editCell
  | step => exact sound.step
  | stepInstruction => exact sound.finish
  | run limit? => exact sound.run limit?

theorem Sound.session [Provision] (nonnegative : 0 ≤ memorySize)
    (sound : Sound memorySize simulator) {commands : List Command}
    (loadable : ∀ command ∈ commands, command.isLoadable = true) :
    Sound memorySize (simulator.session commands) := by
  induction commands generalizing simulator with
  | nil => exact sound
  | cons command rest previous =>
      have first : command.isLoadable = true := loadable command List.mem_cons_self
      have others : ∀ later ∈ rest, later.isLoadable = true := fun later among =>
        loadable later (List.mem_cons_of_mem command among)
      exact previous (sound.perform nonnegative first) others

end Operations

/-- After any session the machine passes its own check, its memory has the stated size, its program
counter meets a cell, its accumulator and its outputs are integers, and neither the outputs nor the
history exceed their limits. The unchecked machine, whose registers could hold other values, goes
on from there exactly like the simulator. -/
theorem session_keeps_machine_sound [Provision] (memorySize : Int) (nonnegative : 0 ≤ memorySize)
    (stepLimit : Int) (commands : List Command)
    (loadable : ∀ command ∈ commands, command.isLoadable = true) :
    let simulator := (new memorySize stepLimit).session commands
    let record := Record.ofState simulator.state
    record.isValid = true ∧
      (record.memory.length : Int) = memorySize ∧
      (∃ pc : Nat, record.pc = .int pc ∧ (pc : Int) < max memorySize 1) ∧
      (∃ value, record.acc = .cell (.int value)) ∧
      (∀ output ∈ record.outputs, ∃ value, output = .cell (.int value)) ∧
      record.outputs.length ≤ 50 ∧
      simulator.history.toList.length ≤ 1000 ∧
      (memorySize < Numeral.decimalBound → ∀ count, Registry.standard.steps count record =
        (Record.ofState (simulator.state.after count), .ok (simulator.state.lines count))) := by
  intro simulator record
  have sound : Sound memorySize simulator :=
    (sound_new nonnegative stepLimit).session nonnegative loadable
  refine ⟨(Record.isValid_ofState_iff simulator.state).mpr sound.valid, ?_, ?_, ?_, ?_, ?_,
    sound.remembered, ?_⟩
  · have size : record.memory.length = simulator.state.size := Record.size_ofState simulator.state
    rw [size]
    exact sound.filled
  · have below := sound.valid.pc_lt
    have filled := sound.filled
    exact ⟨simulator.state.pc, rfl, by omega⟩
  · exact ⟨simulator.state.acc, rfl⟩
  · intro output among
    obtain ⟨value, _, same⟩ := List.mem_map.mp among
    exact ⟨value, same.symm⟩
  · have kept := sound.valid.outputs_le
    change (simulator.state.outputs.map _).length ≤ 50
    rw [List.length_map]
    exact kept
  · intro room count
    have filled := sound.filled
    exact Registry.steps_ofState sound.valid (by omega) count

section

open scoped Provision

/-- A machine with one cell never leaves it, whatever is loaded, typed and run. -/
theorem one_cell_session_keeps_pc :
    let commands : List Command :=
      [.loadMemory [.text "JMP 9", .absent, .text "OUT"], .run (some 7), .editCell 3 (.text "OUT"),
        .loadProgram "HLT" [("x", .absent)], .stepInstruction, .step]
    (0 : Int) ≤ 1 ∧ (∀ command ∈ commands, command.isLoadable = true) ∧
      ((new 1 5).session commands).state.pc = 0 := by
  intro commands
  have loadable : ∀ command ∈ commands, command.isLoadable = true := by decide
  obtain ⟨_, _, ⟨pc, same, below⟩, _⟩ :=
    session_keeps_machine_sound 1 (by decide) 5 commands loadable
  have counter : ((new 1 5).session commands).state.pc = pc := by
    have field := Number.int.inj same
    exact Int.ofNat.inj field
  exact ⟨by decide, loadable, by omega⟩

end

end Simulator

end Accumulator
