import Accumulator.Page.View
import Accumulator.Proofs.Machine.Footprint
import Accumulator.Proofs.Machine.Unchecked

set_option autoImplicit false

/-!
The cell that the page highlights is the one that the instruction uses. The page finds it from the
instruction register alone, and the machine finds the cell to read, to replace or to go on at when
it executes; both come to the same cell. The row of that cell is marked and no other.
-/

namespace Accumulator.Page

theorem length_memoryRows (state : State) : (memoryRows state).length = state.size := by
  rw [memoryRows, List.length_mapIdx, Array.length_toList, State.size]

theorem row_of_getElem?_memoryRows {state : State} {index : Nat} {row : Row}
    (held : (memoryRows state)[index]? = some row) :
    row.address = index ∧ row.markers = markers state index := by
  rw [memoryRows, List.getElem?_mapIdx] at held
  obtain ⟨cell, _, rfl⟩ := Option.map_eq_some_iff.mp held
  exact ⟨rfl, rfl⟩

theorem markers_sublist (state : State) (address : Nat) :
    (markers state address).Sublist ["PC", "target"] := by
  unfold markers
  split <;> split <;> decide

theorem pc_mem_markers_iff (state : State) (address : Nat) :
    "PC" ∈ markers state address ↔ address = state.pc := by
  unfold markers
  split <;> split <;> simp [*]

theorem target_mem_markers_iff (state : State) (address : Nat) :
    "target" ∈ markers state address ↔ state.target? = some (address : Int) := by
  have unnamed : "target" ∉ if address = state.pc then ["PC"] else [] := by
    split <;> decide
  rw [markers, List.mem_append, or_iff_right unnamed]
  by_cases used : some (address : Int) = state.target?
  · rw [if_pos used]
    exact iff_of_true (List.mem_singleton.mpr rfl) used.symm
  · rw [if_neg used]
    exact iff_of_false List.not_mem_nil (Ne.symm used)

/-- At the execution of an instruction with a target, no other cell matters and no other cell
changes, and a jump that is taken goes there. An instruction without a target leaves the memory
alone and does not depend on it. The page marks the row of the target, and that of the program
counter. The unchecked machine executes the same way without a fault. -/
theorem highlighted_cell_is_the_one_in_use [Provision] (simulator : Simulator)
    (valid : simulator.state.Valid) (running : simulator.state.halted = false)
    (decoded : simulator.state.phase = .decode) :
    let state := simulator.state
    let name := (decode state.ir).toCall.name
    let rows := (views simulator).memory
    (state.target?.isSome = true ↔
        name ∈ ["LOADI", "STORE", "ADDM", "SUBM", "MULM", "DIVM", "JMP", "JZ", "JNZ"]) ∧
      (∀ target, state.target? = some target →
        (∀ cell : Nat, (cell : Int) ≠ target → state.next.memory[cell]? = state.memory[cell]?) ∧
        (∀ first second : Array Cell, first.size = state.size → second.size = state.size →
          second[target.toNat]? = first[target.toNat]? →
          ({ state with memory := second } : State).next.toRegisters =
            ({ state with memory := first } : State).next.toRegisters) ∧
        (name = "JMP" ∨ name = "JZ" ∧ state.acc = 0 ∨ name = "JNZ" ∧ state.acc ≠ 0 →
          (state.next.pc : Int) = target)) ∧
      (state.target? = none →
        state.next.memory = state.memory ∧
        ∀ first second : Array Cell, first.size = state.size → second.size = state.size →
          ({ state with memory := second } : State).next.toRegisters =
            ({ state with memory := first } : State).next.toRegisters) ∧
      rows.length = state.size ∧
      (∀ (index : Nat) (row : Row), rows[index]? = some row →
        row.address = index ∧ row.markers.Sublist ["PC", "target"] ∧
          ("target" ∈ row.markers ↔ state.target? = some (index : Int)) ∧
          ("PC" ∈ row.markers ↔ index = state.pc)) ∧
      (state.size < Numeral.decimalBound →
        Registry.standard.steps 1 (Record.ofState state) =
          (Record.ofState state.next, .ok (state.lines 1))) := by
  intro state name rows
  refine ⟨state.target?_isSome_iff, ?_, ?_, length_memoryRows state, ?_, ?_⟩
  · intro target pointed
    refine ⟨?_, ?_, ?_⟩
    · intro cell other
      apply State.getElem?_next_of_unwritten
      intro stored
      have same := pointed.symm.trans (State.target?_of_writtenCell? running decoded stored)
      exact other (Option.some.inj same).symm
    · intro first second size otherSize agree
      apply State.registers_next_withMemory size otherSize
      intro cell looked
      have same := pointed.symm.trans (State.target?_of_readCell? running decoded looked)
      rw [Option.some.inj same] at agree
      exact agree
    · intro taken
      obtain ⟨condition, address, jumps, met⟩ := State.exists_taken_jump taken
      have same := pointed.symm.trans (State.target?_of_taken running decoded jumps met)
      exact (Option.some.inj same).symm
  · intro none
    refine ⟨?_, ?_⟩
    · rw [State.memory_next]
      cases stored : state.writtenCell? with
      | none => rfl
      | some cell =>
          have same := none.symm.trans (State.target?_of_writtenCell? running decoded stored)
          contradiction
    · intro first second size otherSize
      apply State.registers_next_withMemory size otherSize
      intro cell looked
      have same := none.symm.trans (State.target?_of_readCell? running decoded looked)
      contradiction
  · intro index row held
    obtain ⟨address, marked⟩ := row_of_getElem?_memoryRows held
    rw [marked]
    exact ⟨address, markers_sublist state index, target_mem_markers_iff state index,
      pc_mem_markers_iff state index⟩
  · intro room
    exact Registry.steps_ofState valid room 1

section

open scoped Provision

theorem store_past_the_end_highlights_the_last_cell :
    let state : State :=
      { acc := 7, pc := 1, ir := .text "store 0x63", phase := .decode
        memory := #[.text "OUT", .text "store 0x63", .int 5] }
    let simulator := { Simulator.new 3 9 with state := state }
    state.Valid ∧ state.halted = false ∧ state.phase = .decode ∧ state.target? = some 2 ∧
      (∀ cell : Nat, (cell : Int) ≠ 2 → state.next.memory[cell]? = state.memory[cell]?) ∧
      ∀ row, (views simulator).memory[2]? = some row →
        "target" ∈ row.markers ∧ "PC" ∉ row.markers := by
  intro state simulator
  have valid : state.Valid := by decide +kernel
  have pointed : state.target? = some 2 := by decide +kernel
  obtain ⟨-, ofTarget, -, -, marked, -⟩ :=
    highlighted_cell_is_the_one_in_use simulator valid rfl rfl
  refine ⟨valid, rfl, rfl, pointed, (ofTarget 2 pointed).1, ?_⟩
  intro row held
  obtain ⟨-, -, target, counter⟩ := marked 2 row held
  exact ⟨target.mpr pointed, fun named => absurd (counter.mp named) (by decide)⟩

end

end Accumulator.Page
