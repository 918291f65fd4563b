import Accumulator.Proofs.Machine.InstructionTable
import Accumulator.Proofs.Machine.Unchecked

set_option autoImplicit false

/-!
Three transitions make one row of the instruction table. Fetch and decode change nothing but the
instruction register and the phase, so what execute applies is the instruction in the cell that the
program counter had at the start, to the registers and the memory of the start.
-/

namespace Accumulator

namespace State

theorem Valid.read_pc {state : State} (valid : state.Valid) :
    state.read state.pc = (state.memory[state.pc]?).getD (.text "") := by
  rw [read, valid.clampAddress_pc]
  rfl

theorem after_two {state : State} (running : state.halted = false)
    (boundary : state.phase = .idle ∨ state.phase = .execute) :
    state.after 2 = { state with ir := latch (state.read state.pc), phase := .decode } := by
  change state.next.next = _
  rw [next_of_boundary running boundary]
  exact next_of_fetched running rfl

theorem after_three {state : State} (running : state.halted = false)
    (boundary : state.phase = .idle ∨ state.phase = .execute) :
    state.after 3 =
      { state with
        ir := latch (state.read state.pc)
        phase := .execute
        cycles := state.cycles + 1 }.apply (decode (latch (state.read state.pc))).operation := by
  let decoded : State := { state with ir := latch (state.read state.pc), phase := .decode }
  calc
    state.after 3 = decoded.next := congrArg next (after_two running boundary)
    _ = { decoded.execute (decode decoded.ir) with phase := .execute } :=
      next_of_decoded running rfl
    _ = { decoded.apply (decode decoded.ir).operation with
          phase := .execute
          cycles := state.cycles + 1 } := by
      unfold execute
      dsimp only
      rw [cycles_apply]
    _ = _ := apply_counted decoded (decode decoded.ir).operation .execute (state.cycles + 1)

/-- From an instruction boundary of a valid running machine, the first transition latches the
instruction, the second only changes the phase, and the third makes the change that the table gives
for the latched instruction. The unchecked machine goes the same way without a fault. -/
theorem three_transitions_make_one_row [Provision]
    (state : State) (valid : state.Valid) (running : state.halted = false)
    (boundary : state.phase = .idle ∨ state.phase = .execute) :
    let cell := (state.memory[state.pc]?).getD (.text "")
    let ir := if cell.isBlank then .text "NOP" else cell
    let call := (decode ir).toCall
    state.after 1 = { state with ir := ir, phase := .fetch } ∧
      state.after 2 = { state with ir := ir, phase := .decode } ∧
      Row { state with ir := ir, phase := .execute, cycles := state.cycles + 1 }
        call.name call.operand (state.after 3) ∧
      (state.size < Numeral.decimalBound →
        ∀ count, Registry.standard.steps count (Record.ofState state) =
          (Record.ofState (state.after count), .ok (state.lines count))) := by
  intro cell ir call
  have latched : latch (state.read state.pc) = ir := by
    rw [valid.read_pc]
    rfl
  refine ⟨?_, ?_, ?_, ?_⟩
  · rw [← latched]
    exact next_of_boundary running boundary
  · rw [← latched]
    exact after_two running boundary
  · rw [after_three running boundary, latched]
    exact row_apply _ (decode ir).operation
  · intro room count
    exact Registry.steps_ofState valid room count

section

open scoped Provision

/-- A quotient by the cell nearest to an address past the end. -/
theorem quotient_row_after_three :
    let state : State := { acc := 7, memory := #[.text "divm 0x9", .int (-2)] }
    state.Valid ∧ state.halted = false ∧ state.phase = .idle ∧
      state.after 1 = { state with ir := .text "divm 0x9", phase := .fetch } ∧
      Row { state with ir := .text "divm 0x9", phase := .execute, cycles := 1 }
        "DIVM" (some (.int 9)) (state.after 3) := by
  intro state
  have valid : state.Valid := by decide
  have stored : (state.memory[state.pc]?).getD (.text "") = .text "divm 0x9" := rfl
  have full : (Cell.text "divm 0x9").isBlank = false := by decide +kernel
  have call : (decode (.text "divm 0x9")).toCall =
      { name := "DIVM", operand := some (.int 9), source := "divm 0x9" } := by decide +kernel
  obtain ⟨latched, _, row, _⟩ := three_transitions_make_one_row state valid rfl (.inl rfl)
  simp only [stored, full, call, Bool.false_eq_true, if_false] at latched row
  exact ⟨valid, rfl, rfl, latched, row⟩

end

end State

end Accumulator
