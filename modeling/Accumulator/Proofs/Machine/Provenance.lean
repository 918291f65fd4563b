import Accumulator.Proofs.Machine.InstructionCycle

set_option autoImplicit false

/-!
Where the cells of a running machine come from. A store writes an integer and nothing else writes,
so a run adds no code to what was loaded; and an integer does not halt, so what halts a machine is
a loaded cell that the program counter still stands at.
-/

namespace Accumulator

def Opcode.stops : Opcode → Bool
  | .halt => true
  | .invalid => true
  | _ => false

theorem Opcode.stops_iff (opcode : Opcode) :
    opcode.stops = true ↔ opcode.name = "HLT" ∨ opcode.name = "INVALID" := by
  have table : ∀ candidate ∈ all,
      candidate.stops = true ↔ candidate.name = "HLT" ∨ candidate.name = "INVALID" := by
    decide
  exact table opcode (mem_all opcode)

namespace Cell

/-- Met as code, the cell halts the machine. -/
def stops (cell : Cell) : Prop :=
  (decode cell).toCall.name = "HLT" ∨ (decode cell).toCall.name = "INVALID"

instance (cell : Cell) : Decidable cell.stops :=
  inferInstanceAs (Decidable (_ ∨ _))

theorem stops_iff (cell : Cell) : cell.stops ↔ (decode cell).operation.opcode.stops = true :=
  ((decode cell).operation.opcode.stops_iff).symm

theorem not_stops_int (value : Int) : ¬(int value).stops := by
  rw [stops_iff]
  exact Bool.false_ne_true

theorem not_stops_empty : ¬empty.stops := by
  decide +kernel

/-- A blank cell is latched as an instruction that does not halt. -/
theorem stops_of_latch {cell : Cell} (stops : (State.latch cell).stops) : cell.stops := by
  unfold State.latch at stops
  split at stops
  · have passes : ¬(text Opcode.nop.name).stops := by decide +kernel
    exact absurd stops passes
  · exact stops

end Cell

namespace State

theorem apply_of_stops (state : State) {operation : Operation}
    (stops : operation.opcode.stops = true) :
    state.apply operation = { state with halted := true } := by
  cases operation with
  | halt => rfl
  | invalid => rfl
  | _ => contradiction

theorem halted_apply (state : State) {operation : Operation}
    (passes : operation.opcode.stops = false) :
    (state.apply operation).halted = state.halted := by
  cases operation with
  | halt => contradiction
  | invalid => contradiction
  | jump condition address =>
      change (if condition.holds state.acc then state.jumpTo address else state.advance).halted = _
      split <;> rfl
  | _ => rfl

theorem memory_apply_of_not_store (state : State) {operation : Operation}
    (other : ∀ address, operation ≠ .store address) :
    (state.apply operation).memory = state.memory := by
  cases operation with
  | store address => exact absurd rfl (other address)
  | jump condition address =>
      change (if condition.holds state.acc then state.jumpTo address else state.advance).memory = _
      split <;> rfl
  | _ => rfl

/-- An operation writes at most one cell, and an integer into it. -/
theorem memory_apply (state : State) (operation : Operation) :
    (state.apply operation).memory = state.memory ∨
      ∃ address, (state.apply operation).memory =
        state.memory.setIfInBounds address (.int state.acc) := by
  by_cases storing : ∃ address, operation = .store address
  · obtain ⟨address, rfl⟩ := storing
    exact .inr ⟨state.clampAddress address, rfl⟩
  · exact .inl (memory_apply_of_not_store state fun address same => storing ⟨address, same⟩)

/-- A cell that halts is really there. -/
theorem Valid.getElem?_pc_of_stops {state : State} (valid : state.Valid)
    (stops : (state.read state.pc).stops) :
    state.memory[state.pc]? = some (state.read state.pc) := by
  have present := valid.read_pc
  cases cell : state.memory[state.pc]? with
  | some found =>
      rw [cell] at present
      rw [present]
      rfl
  | none =>
      rw [cell] at present
      rw [present] at stops
      exact absurd stops Cell.not_stops_empty

/-- What a machine keeps of the image that it started with: the cells that it has not overwritten
with integers, the instruction that it is in the middle of, and the reason why it halted. -/
structure Inherits (image : List Cell) (state : State) : Prop where
  valid : state.Valid
  cells : ∀ address : Nat, state.memory[address]? = image[address]? ∨
    ∃ value : Int, state.memory[address]? = some (.int value)
  latched : state.phase = .fetch ∨ state.phase = .decode → state.ir = latch (state.read state.pc)
  caused : state.halted = true → (state.read state.pc).stops

namespace Inherits

variable {image : List Cell} {state : State}

theorem initial (storable : ∀ cell ∈ image, cell.isStorable = true) :
    Inherits image (initial image) where
  valid := valid_initial image storable
  cells address := .inl List.getElem?_toArray
  latched between := by rcases between with fetched | decoded <;> contradiction
  caused halted := by contradiction

theorem cells_apply (inherits : Inherits image state) (operation : Operation) (address : Nat) :
    (state.apply operation).memory[address]? = image[address]? ∨
      ∃ value : Int, (state.apply operation).memory[address]? = some (.int value) := by
  rcases memory_apply state operation with same | ⟨written, stored⟩
  · rw [same]
    exact inherits.cells address
  · rw [stored]
    rcases Nat.lt_or_ge written state.memory.size with inside | outside
    · by_cases hit : written = address
      · subst hit
        exact .inr ⟨state.acc, Array.getElem?_setIfInBounds_self_of_lt inside⟩
      · rw [Array.getElem?_setIfInBounds_ne hit]
        exact inherits.cells address
    · -- Without a cell there is no write.
      rw [Array.setIfInBounds_eq_of_size_le outside]
      exact inherits.cells address

/-- The instruction that is executed is the one in the cell at the program counter, so if it halts
the machine that cell is the reason. -/
theorem caused_apply (inherits : Inherits image state) (running : state.halted = false)
    (decoded : state.phase = .decode)
    (halted : (state.apply (decode state.ir).operation).halted = true) :
    ((state.apply (decode state.ir).operation).read
      (state.apply (decode state.ir).operation).pc).stops := by
  cases stops : (decode state.ir).operation.opcode.stops with
  | true =>
      rw [apply_of_stops state stops]
      have current : state.ir = latch (state.read state.pc) := inherits.latched (.inr decoded)
      rw [← Cell.stops_iff, current] at stops
      exact Cell.stops_of_latch stops
  | false =>
      rw [halted_apply state stops, running] at halted
      contradiction

theorem next (inherits : Inherits image state) : Inherits image state.next := by
  rcases next_cases state with
    ⟨_, same⟩ | ⟨running, _, same⟩ | ⟨running, fetched, same⟩ | ⟨running, decoded, same⟩
  · rw [same]
    exact inherits
  · refine ⟨inherits.valid.next, ?_, ?_, ?_⟩
    · rw [same]
      exact inherits.cells
    · -- The cell at the program counter was latched just now, and neither of the two has moved.
      rw [same]
      intro _
      rfl
    · rw [same]
      intro halted
      exact absurd halted (Bool.eq_false_iff.mp running)
  · refine ⟨inherits.valid.next, ?_, ?_, ?_⟩
    · rw [same]
      exact inherits.cells
    · rw [same]
      intro _
      exact inherits.latched (.inl fetched)
    · rw [same]
      exact inherits.caused
  · refine ⟨inherits.valid.next, ?_, ?_, ?_⟩
    · rw [same]
      exact inherits.cells_apply (decode state.ir).operation
    · rw [same]
      intro between
      rcases between with fetched | decoded <;> contradiction
    · rw [same]
      exact inherits.caused_apply running decoded

theorem after (inherits : Inherits image state) (count : Nat) :
    Inherits image (state.after count) := by
  induction count generalizing state with
  | zero => exact inherits
  | succ count previous => exact previous inherits.next

/-- The cell that halted the machine was loaded there. -/
theorem exists_loaded_of_halted (inherits : Inherits image state) (halted : state.halted = true) :
    ∃ cell, state.memory[state.pc]? = some cell ∧ image[state.pc]? = some cell ∧ cell.stops := by
  have stops := inherits.caused halted
  have present := inherits.valid.getElem?_pc_of_stops stops
  refine ⟨state.read state.pc, present, ?_, stops⟩
  rcases inherits.cells state.pc with loaded | ⟨value, overwritten⟩
  · rw [← loaded, present]
  · rw [present] at overwritten
    rw [Option.some.inj overwritten] at stops
    exact absurd stops (Cell.not_stops_int value)

end Inherits

/-- After any number of transitions from an image, each cell holds what was loaded there or an
integer, and if the machine has halted, it stands at a loaded cell that halts. So an image without
such a cell never halts. The unchecked machine, whose registers need not hold integers, goes the
same way without a fault. -/
theorem run_makes_no_code_and_halts_on_loaded_code [Provision]
    (image : List Cell) (storable : ∀ cell ∈ image, cell.isStorable = true) (count : Nat) :
    let state := (State.initial image).after count
    state.memory.size = image.length ∧
      (∀ address : Nat, state.memory[address]? = image[address]? ∨
        ∃ value : Int, state.memory[address]? = some (.int value)) ∧
      (state.halted = true →
        ∃ cell, state.memory[state.pc]? = some cell ∧ image[state.pc]? = some cell ∧
          cell.stops) ∧
      ((∀ cell ∈ image, ¬cell.stops) → state.halted = false) ∧
      (image.length < Numeral.decimalBound →
        Registry.standard.steps count (Record.ofState (State.initial image)) =
          (Record.ofState state, .ok ((State.initial image).lines count))) := by
  intro state
  have inherits : Inherits image state := (Inherits.initial storable).after count
  have loaded : state.halted = true →
      ∃ cell, state.memory[state.pc]? = some cell ∧ image[state.pc]? = some cell ∧ cell.stops :=
    inherits.exists_loaded_of_halted
  refine ⟨?_, inherits.cells, loaded, ?_, ?_⟩
  · exact (size_after (State.initial image) count).trans List.size_toArray
  · intro passive
    apply Bool.eq_false_iff.mpr
    intro halted
    obtain ⟨cell, _, present, stops⟩ := loaded halted
    exact passive cell (List.mem_of_getElem? present) stops
  · intro room
    have fits : (State.initial image).size < Numeral.decimalBound := by
      rw [size, State.initial, List.size_toArray]
      exact room
    exact Registry.steps_ofState (valid_initial image storable) fits count

section

open scoped Provision

/-- A program that halts after it has overwritten its first instruction. -/
theorem overwritten_program_halts_on_loaded_code :
    let image : List Cell := [.text "LOAD 7", .text "STORE 0", .text "HLT"]
    let state := (State.initial image).after 9
    (∀ cell ∈ image, cell.isStorable = true) ∧ state.halted = true ∧
      state.memory[0]? = some (.int 7) ∧ state.memory.size = 3 ∧
      ∃ cell, state.memory[state.pc]? = some cell ∧ image[state.pc]? = some cell ∧
        cell.stops := by
  intro image
  have storable : ∀ cell ∈ image, cell.isStorable = true := by decide
  have halted : ((State.initial image).after 9).halted = true := by decide +kernel
  have overwritten : ((State.initial image).after 9).memory[0]? = some (.int 7) := by
    decide +kernel
  have run := run_makes_no_code_and_halts_on_loaded_code image storable 9
  exact ⟨storable, halted, overwritten, run.1, run.2.2.1 halted⟩

end

end State

end Accumulator
