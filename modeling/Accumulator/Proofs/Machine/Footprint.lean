import Accumulator.Proofs.Machine.Validity

set_option autoImplicit false

/-!
The footprint of a step: the cell that it looks into and the cell that it replaces. Whatever the
other cells hold, the step reports the same, makes the same of the registers and leaves those cells
alone. So a write to a cell outside the footprint may come before the step or after it.
-/

namespace Accumulator

namespace Operation

/-- The address where an operation finds its operand, if that is not the operand itself. -/
def readAddress? : Operation → Option Int
  | .load .direct address => some address
  | .arithmetic _ .direct address => some address
  | _ => none

def writtenAddress? : Operation → Option Int
  | .store address => some address
  | _ => none

theorem address?_of_read {operation : Operation} {address : Int}
    (read : operation.readAddress? = some address) : operation.address? = some address := by
  cases operation with
  | load mode operand =>
      cases mode with
      | immediate => contradiction
      | direct => exact read
  | arithmetic function mode operand =>
      cases mode with
      | immediate => contradiction
      | direct => exact read
  | _ => contradiction

theorem address?_of_written {operation : Operation} {address : Int}
    (written : operation.writtenAddress? = some address) : operation.address? = some address := by
  cases operation with
  | store target => exact written
  | _ => contradiction

theorem isSome_address? (operation : Operation) :
    operation.address?.isSome = operation.opcode.usesAddress := by
  cases operation with
  | load mode operand => cases mode <;> rfl
  | arithmetic function mode operand => cases mode <;> rfl
  | _ => rfl

end Operation

theorem Opcode.usesAddress_iff_name (opcode : Opcode) :
    opcode.usesAddress = true ↔ opcode.name ∈
      ["LOADI", "STORE", "ADDM", "SUBM", "MULM", "DIVM", "JMP", "JZ", "JNZ"] := by
  have table : ∀ candidate ∈ all, candidate.usesAddress = true ↔ candidate.name ∈
      ["LOADI", "STORE", "ADDM", "SUBM", "MULM", "DIVM", "JMP", "JZ", "JNZ"] := by
    decide
  exact table opcode (mem_all opcode)

namespace State

/-- The same registers over another memory. -/
def withMemory (state : State) (memory : Array Cell) : State :=
  { state with memory := memory }

/-- A memory with a value put into one of its cells, or into none. -/
def put (memory : Array Cell) (cell? : Option Nat) (value : Int) : Array Cell :=
  match cell? with
  | some cell => memory.setIfInBounds cell (.int value)
  | none => memory

/-- The cell that the next step looks into: fetch does at the program counter, and execute where a
direct operand is. -/
def readCell? (state : State) : Option Nat :=
  if state.halted then none
  else
    match state.phase with
    | .idle | .execute => some (state.clampAddress state.pc)
    | .fetch => none
    | .decode => (decode state.ir).operation.readAddress?.map state.clampAddress

/-- The cell that the next step replaces. -/
def writtenCell? (state : State) : Option Nat :=
  if state.halted then none
  else
    match state.phase with
    | .decode => (decode state.ir).operation.writtenAddress?.map state.clampAddress
    | _ => none

variable {state : State} {memory : Array Cell}

/-! ### Operations -/

theorem clampAddress_withMemory (size : memory.size = state.size) (address : Int) :
    (state.withMemory memory).clampAddress address = state.clampAddress address :=
  congrArg (clampInto · address) size

theorem jumpTo_withMemory (size : memory.size = state.size) (address : Int) :
    (state.withMemory memory).jumpTo address = (state.jumpTo address).withMemory memory := by
  unfold jumpTo
  rw [clampAddress_withMemory size]
  rfl

theorem advance_withMemory (size : memory.size = state.size) :
    (state.withMemory memory).advance = state.advance.withMemory memory :=
  jumpTo_withMemory size (state.pc + 1)

theorem read_withMemory (size : memory.size = state.size) {address : Int}
    (same : memory[state.clampAddress address]? = state.memory[state.clampAddress address]?) :
    (state.withMemory memory).read address = state.read address := by
  unfold read
  rw [clampAddress_withMemory size, ← same]
  rfl

theorem operandValue_withMemory (size : memory.size = state.size) {mode : Mode} {operand : Int}
    (same : mode = .direct →
      memory[state.clampAddress operand]? = state.memory[state.clampAddress operand]?) :
    (state.withMemory memory).operandValue mode operand = state.operandValue mode operand := by
  cases mode with
  | immediate => rfl
  | direct => exact congrArg Cell.word (read_withMemory size (same rfl))

theorem accept_withMemory (size : memory.size = state.size) (value : Int) :
    { state.withMemory memory with acc := value }.advance =
      { state with acc := value }.advance.withMemory memory :=
  @advance_withMemory { state with acc := value } memory size

theorem write_withMemory (size : memory.size = state.size) (address : Int) (cell : Cell) :
    (state.withMemory memory).write address cell =
      state.withMemory (memory.setIfInBounds (state.clampAddress address) cell) := by
  unfold write
  rw [clampAddress_withMemory size]
  rfl

section Operation

variable {operation : Operation} (size : memory.size = state.size)
  (same : ∀ address ∈ operation.readAddress?,
    memory[state.clampAddress address]? = state.memory[state.clampAddress address]?)

include size same

theorem apply_withMemory :
    (state.withMemory memory).apply operation =
      (state.apply operation).withMemory
        (put memory (operation.writtenAddress?.map state.clampAddress) state.acc) := by
  cases operation with
  | nop => exact advance_withMemory size
  | halt => rfl
  | output => exact @advance_withMemory (state.emit state.acc) memory size
  | load mode operand =>
      have found := @operandValue_withMemory state memory size mode operand
        fun direct => same operand (by rw [direct]; rfl)
      change { state.withMemory memory with acc := _ }.advance = _
      rw [found]
      exact accept_withMemory size (state.operandValue mode operand)
  | store address =>
      have resized (before : Array Cell) (kept : before.size = state.size) :
          (before.setIfInBounds (state.clampAddress address) (.int state.acc)).size =
            state.size :=
        Array.size_setIfInBounds.trans kept
      change ((state.withMemory memory).write address (.int state.acc)).advance = _
      rw [write_withMemory size, advance_withMemory (resized memory size)]
      change _ = (state.withMemory _).advance.withMemory _
      rw [advance_withMemory (resized state.memory rfl)]
      rfl
  | arithmetic function mode operand =>
      have found := @operandValue_withMemory state memory size mode operand
        fun direct => same operand (by rw [direct]; rfl)
      change { state.withMemory memory with acc := function.apply state.acc _ }.advance = _
      rw [found]
      exact accept_withMemory size _
  | jump condition address =>
      change (if condition.holds state.acc then _ else _) =
        (if condition.holds state.acc then state.jumpTo address
          else state.advance).withMemory memory
      split
      · exact jumpTo_withMemory size address
      · exact advance_withMemory size
  | data word => exact advance_withMemory size
  | invalid => rfl

end Operation

/-- What is reported of an operation mentions clamped addresses and the word that it reads. -/
theorem report_withMemory (size : memory.size = state.size) {instruction : Instruction}
    (same : ∀ address ∈ instruction.operation.readAddress?,
      memory[state.clampAddress address]? = state.memory[state.clampAddress address]?) :
    (state.withMemory memory).report instruction = state.report instruction := by
  obtain ⟨operation, source⟩ := instruction
  have place := @clampAddress_withMemory state memory size
  cases operation with
  | load mode operand =>
      cases mode with
      | immediate => rfl
      | direct =>
          have found := @operandValue_withMemory state memory size .direct operand
            fun _ => same operand rfl
          change Event.loadedFrom _ _ = Event.loadedFrom _ _
          rw [place, found]
  | store address => exact congrArg (Event.stored (.int state.acc)) (place address)
  | arithmetic function mode operand =>
      cases mode with
      | immediate => rfl
      | direct =>
          have found := @operandValue_withMemory state memory size .direct operand
            fun _ => same operand rfl
          change Event.computedFrom function _ _ (.int (function.apply state.acc _)) = _
          rw [place, found]
          rfl
  | jump condition address =>
      change (if condition.holds state.acc then _ else _) = _
      rw [place]
      rfl
  | _ => rfl

/-! ### Steps -/

theorem readCell?_of_boundary (running : state.halted = false)
    (boundary : state.phase = .idle ∨ state.phase = .execute) :
    state.readCell? = some (state.clampAddress state.pc) := by
  rw [readCell?, if_neg (Bool.eq_false_iff.mp running)]
  rcases boundary with idle | execute
  · rw [idle]
  · rw [execute]

theorem readCell?_of_decoded (running : state.halted = false) (decoded : state.phase = .decode) :
    state.readCell? = (decode state.ir).operation.readAddress?.map state.clampAddress := by
  rw [readCell?, if_neg (Bool.eq_false_iff.mp running), decoded]

theorem writtenCell?_of_decoded (running : state.halted = false)
    (decoded : state.phase = .decode) :
    state.writtenCell? = (decode state.ir).operation.writtenAddress?.map state.clampAddress := by
  rw [writtenCell?, if_neg (Bool.eq_false_iff.mp running), decoded]

theorem not_decode_of_boundary (boundary : state.phase = .idle ∨ state.phase = .execute) :
    state.phase ≠ .decode := by
  rcases boundary with idle | execute
  · rw [idle]
    decide
  · rw [execute]
    decide

theorem not_decode_of_fetched (fetched : state.phase = .fetch) : state.phase ≠ .decode := by
  rw [fetched]
  decide

/-- Nothing but the execution of an instruction replaces a cell. -/
theorem writtenCell?_eq_none (still : state.halted = true ∨ state.phase ≠ .decode) :
    state.writtenCell? = none := by
  unfold writtenCell?
  rcases still with halted | other
  · exact if_pos halted
  · split
    · rfl
    · split
      · contradiction
      · rfl

/-- A step depends on no cell but the one that it looks into. -/
theorem step_withMemory (size : memory.size = state.size)
    (same : ∀ cell ∈ state.readCell?, memory[cell]? = state.memory[cell]?) :
    (state.withMemory memory).step =
      (state.next.withMemory (put memory state.writtenCell? state.acc), state.step.2) := by
  rcases next_cases state with
    ⟨halted, next⟩ | ⟨running, boundary, next⟩ | ⟨running, fetched, next⟩ |
      ⟨running, decoded, next⟩
  · have resting : (state.withMemory memory).halted = true := halted
    rw [next, writtenCell?_eq_none (.inl halted), step_of_halted halted, step_of_halted resting]
    rfl
  · have found := read_withMemory size (same _ (readCell?_of_boundary running boundary))
    have going : (state.withMemory memory).halted = false := running
    have counter : (state.withMemory memory).pc = state.pc := rfl
    rw [next, writtenCell?_eq_none (.inr (not_decode_of_boundary boundary)),
      step_of_boundary running boundary, step_of_boundary going boundary, counter, found]
    rfl
  · have going : (state.withMemory memory).halted = false := running
    rw [next, writtenCell?_eq_none (.inr (not_decode_of_fetched fetched)),
      step_of_fetched running fetched, step_of_fetched going fetched]
    rfl
  · have going : (state.withMemory memory).halted = false := running
    have looked : ∀ address ∈ (decode state.ir).operation.readAddress?,
        memory[state.clampAddress address]? = state.memory[state.clampAddress address]? := by
      intro address among
      apply same
      rw [readCell?_of_decoded running decoded, among]
      rfl
    have applied := apply_withMemory size looked
    have reported := report_withMemory size looked
    rw [next, writtenCell?_of_decoded running decoded, step_of_decoded running decoded,
      step_of_decoded going decoded]
    change ({ (state.withMemory memory).execute (decode state.ir) with phase := .execute },
      (state.withMemory memory).report (decode state.ir)) = _
    rw [execute, applied, reported]
    rfl

theorem next_withMemory (size : memory.size = state.size)
    (same : ∀ cell ∈ state.readCell?, memory[cell]? = state.memory[cell]?) :
    (state.withMemory memory).next =
      state.next.withMemory (put memory state.writtenCell? state.acc) :=
  congrArg Prod.fst (step_withMemory size same)

/-- A step replaces no cell but the one that it stores to. -/
theorem memory_next (state : State) :
    state.next.memory = put state.memory state.writtenCell? state.acc :=
  congrArg State.memory (@next_withMemory state state.memory rfl fun _ _ => rfl)

theorem put_setIfInBounds {cell : Nat} {cell? : Option Nat} (other : cell? ≠ some cell)
    (memory : Array Cell) (content : Cell) (value : Int) :
    put (memory.setIfInBounds cell content) cell? value =
      (put memory cell? value).setIfInBounds cell content := by
  cases cell? with
  | none => rfl
  | some stored =>
      have apart : cell ≠ stored := fun equal => other (congrArg some equal.symm)
      exact Array.setIfInBounds_comm content (.int value) apart

/-- A write outside the footprint of a step may come before the step or after it. -/
theorem step_write {address : Int} {content : Cell}
    (unread : state.readCell? ≠ some (state.clampAddress address))
    (unwritten : state.writtenCell? ≠ some (state.clampAddress address)) :
    (state.write address content).step = (state.next.write address content, state.step.2) := by
  have looked : ∀ cell ∈ state.readCell?,
      (state.memory.setIfInBounds (state.clampAddress address) content)[cell]? =
        state.memory[cell]? := by
    intro cell among
    apply Array.getElem?_setIfInBounds_ne
    intro equal
    exact unread (equal ▸ among)
  have place : state.next.clampAddress address = state.clampAddress address :=
    congrArg (clampInto · address) (size_next state)
  change (state.withMemory _).step = _
  rw [step_withMemory Array.size_setIfInBounds looked, put_setIfInBounds unwritten, ← memory_next]
  unfold write
  rw [place]
  rfl

theorem getElem?_next_of_unwritten {cell : Nat} (unwritten : state.writtenCell? ≠ some cell) :
    state.next.memory[cell]? = state.memory[cell]? := by
  rw [memory_next]
  cases stored : state.writtenCell? with
  | none => rfl
  | some other =>
      apply Array.getElem?_setIfInBounds_ne
      intro equal
      exact unwritten (stored.trans (congrArg some equal))

theorem readCell?_over (size : memory.size = state.size) :
    (state.withMemory memory).readCell? = state.readCell? := by
  have places : (state.withMemory memory).clampAddress = state.clampAddress :=
    funext (clampAddress_withMemory size)
  unfold readCell?
  rw [places]
  rfl

/-- Over two memories that agree on the cell that it looks into, a step leaves the same
registers. -/
theorem registers_next_withMemory {other : Array Cell} (size : memory.size = state.size)
    (otherSize : other.size = state.size)
    (same : ∀ cell ∈ state.readCell?, other[cell]? = memory[cell]?) :
    (state.withMemory other).next.toRegisters = (state.withMemory memory).next.toRegisters := by
  rw [← readCell?_over size] at same
  have resized : other.size = (state.withMemory memory).size := otherSize.trans size.symm
  change ((state.withMemory memory).withMemory other).next.toRegisters = _
  rw [next_withMemory resized same]
  rfl

/-! ### The target -/

theorem target?_eq (state : State) :
    state.target? =
      (decode state.ir).operation.address?.map
        fun address => (state.clampAddress address : Int) := by
  unfold target? targetAddress?
  congr 1
  funext address
  unfold clampAddress clampInto clamp
  omega

/-- The cell that an execution looks into is the target of the instruction. -/
theorem target?_of_readCell? (running : state.halted = false) (decoded : state.phase = .decode)
    {cell : Nat} (looked : state.readCell? = some cell) : state.target? = some (cell : Int) := by
  rw [readCell?_of_decoded running decoded] at looked
  obtain ⟨address, read, rfl⟩ := Option.map_eq_some_iff.mp looked
  rw [target?_eq, Operation.address?_of_read read]
  rfl

/-- The cell that an execution replaces is the target of the instruction. -/
theorem target?_of_writtenCell? (running : state.halted = false)
    (decoded : state.phase = .decode) {cell : Nat} (stored : state.writtenCell? = some cell) :
    state.target? = some (cell : Int) := by
  rw [writtenCell?_of_decoded running decoded] at stored
  obtain ⟨address, written, rfl⟩ := Option.map_eq_some_iff.mp stored
  rw [target?_eq, Operation.address?_of_written written]
  rfl

theorem target?_isSome_iff (state : State) :
    state.target?.isSome = true ↔
      (decode state.ir).toCall.name ∈
        ["LOADI", "STORE", "ADDM", "SUBM", "MULM", "DIVM", "JMP", "JZ", "JNZ"] := by
  rw [target?_eq, Option.isSome_map, Operation.isSome_address?]
  exact (decode state.ir).operation.opcode.usesAddress_iff_name

/-- The name is that of a jump whose condition the accumulator meets. -/
theorem exists_taken_jump {operation : Operation} {accumulator : Int}
    (taken : operation.opcode.name = "JMP" ∨ operation.opcode.name = "JZ" ∧ accumulator = 0 ∨
      operation.opcode.name = "JNZ" ∧ accumulator ≠ 0) :
    ∃ condition address, operation = .jump condition address ∧
      condition.holds accumulator = true := by
  have jumps (condition : Condition) (named : operation.opcode.name = condition.name) :
      ∃ address, operation = .jump condition address := by
    have same : operation.opcode = .jump condition := Opcode.name_injective named
    cases operation with
    | jump other address =>
        obtain rfl := Opcode.jump.inj same
        exact ⟨address, rfl⟩
    | _ => contradiction
  rcases taken with named | ⟨named, zero⟩ | ⟨named, nonzero⟩
  · obtain ⟨address, jump⟩ := jumps .always named
    exact ⟨.always, address, jump, rfl⟩
  · obtain ⟨address, jump⟩ := jumps .zero named
    exact ⟨.zero, address, jump, beq_iff_eq.mpr zero⟩
  · obtain ⟨address, jump⟩ := jumps .nonzero named
    exact ⟨.nonzero, address, jump, bne_iff_ne.mpr nonzero⟩

theorem target?_of_taken (running : state.halted = false) (decoded : state.phase = .decode)
    {condition : Condition} {address : Int}
    (jumps : (decode state.ir).operation = .jump condition address)
    (taken : condition.holds state.acc = true) : state.target? = some (state.next.pc : Int) := by
  have moved : state.next.pc = state.clampAddress address := by
    rw [next_of_decoded running decoded, execute, jumps, apply, if_pos taken]
    rfl
  rw [target?_eq, jumps, moved]
  rfl

end State

end Accumulator
