import Accumulator.Machine.Registry
import Accumulator.Proofs.Machine.Validity

set_option autoImplicit false

/-!
The unchecked machine agrees with the typed one. A record computes with whatever its fields hold and
may report a fault; started as the record of a valid state it reports none, and every transition
leads to the record of the next state. So the accumulator and the outputs stay integers not because
they are typed so, but because no instruction makes anything else of integers.
-/

namespace Accumulator

/-! ### Computing with integers -/

theorem Item.apply_int [Provision] (function : Arithmetic) (left right : Int) :
    Item.apply function (.cell (.int left)) (.int right) =
      .ok (.cell (.int (function.apply left right))) := by
  change (Number.apply function (.int left) (.int right)).map _ = _
  rw [Number.apply_int]
  rfl

namespace Record

/-! ### Records of states -/

theorem size_ofState (state : State) : (ofState state).size = state.size := by
  change (state.memory.toList.map Item.cell).length = _
  rw [List.length_map, Array.length_toList]
  rfl

theorem clampAddress_ofState (state : State) (address : Int) :
    (ofState state).clampAddress (.int address) = .int (state.clampAddress address) := by
  rw [clampAddress, size_ofState]
  rfl

theorem index_int (record : Record) (address : Int) :
    record.index (.int address) = .ok (State.clampInto record.size address) :=
  rfl

theorem index_ofState (state : State) (address : Int) :
    (ofState state).index (.int address) = .ok (state.clampAddress address) := by
  rw [index, clampAddress_ofState]
  rfl

theorem itemAt_ofState (state : State) (address : Int) :
    (ofState state).itemAt (state.clampAddress address) = .cell (state.read address) := by
  change ((state.memory.toList.map Item.cell)[state.clampAddress address]?).getD _ = _
  rw [List.getElem?_map, Array.getElem?_toList, State.read]
  cases state.memory[state.clampAddress address]? <;> rfl

theorem read_ofState (state : State) (address : Int) :
    (ofState state).read (.int address) = .ok (.cell (state.read address)) := by
  rw [read, index_ofState, Except.map, itemAt_ofState]

theorem jumpTo_ofState (state : State) (address : Int) :
    (ofState state).jumpTo (.int address) = ofState (state.jumpTo address) := by
  rw [jumpTo, clampAddress_ofState]
  rfl

theorem advance_ofState (state : State) : (ofState state).advance = ofState state.advance :=
  jumpTo_ofState state (state.pc + 1)

theorem writeAt_ofState (state : State) (address : Int) (cell : Cell) :
    (ofState state).writeAt (state.clampAddress address) (.cell cell) =
      ofState (state.write address cell) := by
  unfold writeAt ofState State.write
  dsimp only
  rw [Array.toList_setIfInBounds, List.map_set]

theorem emit_ofState (state : State) (value : Int) :
    (ofState state).emit (.cell (.int value)) = ofState (state.emit value) := by
  unfold emit ofState State.emit lastOf
  dsimp only
  rw [List.map_drop, List.map_append, List.length_append, List.length_append, List.length_map]
  rfl

theorem accept_ofState (state : State) (value : Int) :
    (ofState state).accept (.cell (.int value)) = ofState { state with acc := value }.advance :=
  advance_ofState { state with acc := value }

theorem conditionHolds_ofState (state : State) (condition : Condition) :
    (ofState state).conditionHolds condition = condition.holds state.acc := by
  cases condition <;> rfl

/-! ### The check -/

private theorem isNonnegative_natCast (count : Nat) :
    (Number.int count).isNonnegative = true := by
  simp only [Number.isNonnegative, Number.isZero, Number.isAbove, Bool.or_eq_true, beq_iff_eq,
    decide_eq_true_eq]
  omega

private theorem pcInRange_ofState_iff (state : State) :
    (ofState state).pcInRange = true ↔ state.pc < max state.size 1 := by
  have size := size_ofState state
  unfold pcInRange
  by_cases empty : state.size = 0
  · have noCells : (ofState state).memory = [] := List.length_eq_zero_iff.mp (size.trans empty)
    rw [noCells, empty]
    change ((state.pc : Int) == 0) = true ↔ _
    rw [beq_iff_eq]
    omega
  · have someCell : (ofState state).memory.isEmpty = false := by
      rw [List.isEmpty_eq_false_iff]
      intro noCells
      exact empty (size.symm.trans (List.length_eq_zero_iff.mpr noCells))
    have above : (ofState state).pc.isNonnegative = true := isNonnegative_natCast state.pc
    rw [someCell, above, size]
    change decide ((state.pc : Int) < state.size) = true ↔ _
    rw [decide_eq_true_eq]
    omega

private theorem all_storable_ofState_iff (state : State) :
    (ofState state).memory.all Item.isStorable = true ↔
      ∀ cell ∈ state.memory, cell.isStorable = true := by
  change (state.memory.toList.map Item.cell).all Item.isStorable = true ↔ _
  rw [List.all_map, List.all_eq_true]
  simp only [Array.mem_toList_iff]
  rfl

/-- The check of the record of a state is the validity of the state. -/
theorem isValid_ofState_iff (state : State) : (ofState state).isValid = true ↔ state.Valid := by
  have counted : (ofState state).cycles.isNonnegative = true := isNonnegative_natCast state.cycles
  have integer : (ofState state).accIsInteger = true := rfl
  have known : (ofState state).phaseIsKnown = true := rfl
  have kept : (ofState state).outputs.length = state.outputs.length := List.length_map _
  unfold isValid
  rw [counted, integer, known, kept]
  simp only [Bool.and_true, Bool.and_eq_true, decide_eq_true_eq, pcInRange_ofState_iff,
    all_storable_ofState_iff]
  constructor
  · rintro ⟨⟨pc_lt, outputs_le⟩, storable⟩
    exact ⟨pc_lt, outputs_le, storable⟩
  · intro valid
    exact ⟨⟨valid.pc_lt, valid.outputs_le⟩, valid.storable⟩

/-! ### Operations -/

private theorem ok_bind {First Second : Type} (value : First) (rest : First → Except Fault Second) :
    (Except.ok value >>= rest) = rest value :=
  rfl

private theorem word_cell (content : Cell) : Item.word (.cell content) = content.word :=
  rfl

section Arithmetic

variable {record : Record} {acc : Int} {call : Call}

theorem perform_arithmetic_immediate [Provision] (integer : record.acc = .cell (.int acc))
    {operand : Int} (given : call.operand = some (.int operand)) (function : Arithmetic) :
    perform (.arithmetic function .immediate) record call =
      .ok (record.accept (.cell (.int (function.apply acc operand))),
        .computed function (.int operand) (.int (function.apply acc operand))) := by
  have taken : numberOperand call = .ok (.int operand) := by rw [numberOperand, given]
  simp only [perform, taken, ok_bind, integer, Item.apply_int]
  rfl

theorem perform_arithmetic_direct [Provision] (integer : record.acc = .cell (.int acc))
    {address : Int} (given : call.operand = some (.int address)) {item : Item}
    (held : record.itemAt (State.clampInto record.size address) = item) (function : Arithmetic) :
    perform (.arithmetic function .direct) record call =
      .ok (record.accept (.cell (.int (function.apply acc item.word))),
        .computedFrom function (State.clampInto record.size address) item.word
          (.int (function.apply acc item.word))) := by
  have taken : numberOperand call = .ok (.int address) := by rw [numberOperand, given]
  simp only [perform, taken, ok_bind, index_int, held, integer, Item.apply_int]
  rfl

end Arithmetic

/-- Performing the call of an instruction applies its operation and reports what the typed machine
reports. -/
theorem perform_ofState [Provision] (state : State) (instruction : Instruction) :
    perform instruction.operation.opcode (ofState state) instruction.toCall =
      .ok (ofState (state.apply instruction.operation), state.report instruction) := by
  obtain ⟨operation, source⟩ := instruction
  cases operation with
  | nop =>
      change Except.ok ((ofState state).advance, Event.nothing) = _
      rw [advance_ofState]
      rfl
  | halt => rfl
  | output =>
      change Except.ok (((ofState state).emit (.cell (.int state.acc))).advance, _) = _
      rw [emit_ofState, advance_ofState]
      rfl
  | load mode operand =>
      cases mode with
      | immediate =>
          change Except.ok ((ofState state).accept (.cell (.int operand)), _) = _
          rw [accept_ofState]
          rfl
      | direct =>
          -- With the operand of the call known, every bind has a value to pass on.
          have given : numberOperand (Instruction.toCall ⟨.load .direct operand, source⟩) =
              .ok (.int operand) := rfl
          simp only [Operation.opcode, perform, given, ok_bind, index_ofState, itemAt_ofState,
            word_cell, accept_ofState]
          rfl
  | store address =>
      have given : numberOperand (Instruction.toCall ⟨.store address, source⟩) =
          .ok (.int address) := rfl
      simp only [Operation.opcode, perform, given, ok_bind, index_ofState]
      change Except.ok (((ofState state).writeAt _ (.cell (.int state.acc))).advance, _) = _
      rw [writeAt_ofState, advance_ofState]
      rfl
  | arithmetic function mode operand =>
      cases mode with
      | immediate =>
          rw [Operation.opcode, perform_arithmetic_immediate rfl rfl, accept_ofState]
          rfl
      | direct =>
          have held := itemAt_ofState state operand
          rw [State.clampAddress, ← size_ofState] at held
          rw [Operation.opcode, perform_arithmetic_direct rfl rfl held, size_ofState, word_cell,
            accept_ofState]
          rfl
  | jump condition address =>
      have given : numberOperand (Instruction.toCall ⟨.jump condition address, source⟩) =
          .ok (.int address) := rfl
      simp only [Operation.opcode, perform, given, ok_bind, conditionHolds_ofState, jumpTo_ofState,
        advance_ofState, State.apply, State.report]
      split <;> rfl
  | data word =>
      change Except.ok ((ofState state).advance, Event.passedData (.number word)) = _
      rw [advance_ofState]
      rfl
  | invalid => rfl

end Record

/-! ### Transitions -/

theorem Event.checkedLine_eq {event : Event}
    (writable : ∀ address ∈ event.addresses, address.hasText = true) :
    event.checkedLine = .ok event.line := by
  rw [checkedLine, if_pos (List.all_eq_true.mpr writable)]

namespace State

/-- The address of a cell has a numeral if the size of the memory has one. -/
theorem hasDecimal_of_lt {size address : Nat} (room : size < Numeral.decimalBound)
    (inside : address < max size 1) : Numeral.hasDecimal address = true := by
  unfold Numeral.hasDecimal
  rw [decide_eq_true_eq]
  omega

/-- Every address in what an operation reports is that of a cell, so it can be written out. -/
private theorem checkedLine_report (state : State) (room : state.size < Numeral.decimalBound)
    (instruction : Instruction) :
    (state.report instruction).checkedLine = .ok (state.report instruction).line := by
  have writable (address : Int) : (Number.int (state.clampAddress address)).hasText = true :=
    hasDecimal_of_lt room (clampInto_lt_max state.size address)
  have mentioned : (state.report instruction).addresses.all Number.hasText = true := by
    obtain ⟨operation, source⟩ := instruction
    cases operation with
    | load mode operand =>
        cases mode with
        | immediate => rfl
        | direct => simpa [report, Event.addresses] using writable operand
    | store address => simpa [report, Event.addresses] using writable address
    | arithmetic function mode operand =>
        cases mode with
        | immediate => rfl
        | direct => simpa [report, Event.addresses] using writable operand
    | jump condition address =>
        unfold report
        dsimp only
        split
        · simpa [Event.addresses] using writable address
        · rfl
    | _ => rfl
  exact Event.checkedLine_eq (List.all_eq_true.mp mentioned)

def lines (state : State) : Nat → List String
  | 0 => []
  | count + 1 => state.step.2.line :: state.next.lines count

end State

namespace Registry

private theorem lookup_name {Value : Type} (value : Opcode → Value) (opcode : Opcode) :
    ∀ opcodes : List Opcode, opcode ∈ opcodes →
      (opcodes.map fun entry => (entry.name, value entry)).lookup opcode.name =
        some (value opcode) := by
  intro opcodes
  induction opcodes with
  | nil =>
      intro member
      contradiction
  | cons first rest previous =>
      intro member
      rw [List.map_cons, List.lookup_cons]
      by_cases same : opcode.name = first.name
      · have found : opcode = first := Opcode.name_injective same
        rw [found, beq_self_eq_true]
      · rw [beq_false_of_ne same]
        rcases List.mem_cons.mp member with found | later
        · exact absurd (congrArg Opcode.name found) same
        · exact previous later

theorem find?_standard [Provision] (opcode : Opcode) :
    standard.find? opcode.name = some opcode.primitive :=
  lookup_name Opcode.primitive opcode Opcode.all (Opcode.mem_all opcode)

/-- What is performed without a fault is executed without one, if its line can be written. -/
theorem execute_of_perform [Provision] {opcode : Opcode} {record changed : Record} {call : Call}
    {event : Event} (named : call.name = opcode.name)
    (performed : Record.perform opcode record call = .ok (changed, event))
    (written : event.checkedLine = .ok event.line) :
    standard.execute record call = .ok (changed.completeCycle, event.line) := by
  have found : standard.find? call.name = some opcode.primitive := by
    rw [named, find?_standard]
  unfold execute
  rw [found]
  dsimp only
  unfold Opcode.primitive
  rw [performed]
  change ((event.checkedLine >>= _) >>= _) = _
  rw [written]
  rfl

private theorem fetch_ofState {state : State} (valid : state.Valid)
    (room : state.size < Numeral.decimalBound) :
    fetch (Record.ofState state) =
      .ok (Record.ofState
          { state with ir := State.latch (state.read state.pc), phase := .fetch },
        (Event.fetched (.int state.pc) (State.latch (state.read state.pc))).line) := by
  have counter : (Record.ofState state).pc = .int state.pc := rfl
  have short : (Number.int state.pc).hasText = true := State.hasDecimal_of_lt room valid.pc_lt
  have writable : Record.written (.int state.pc) = .ok (.int state.pc) := if_pos short
  unfold fetch
  rw [counter, Record.read_ofState, writable]
  rfl

/-- Executing the call of an instruction makes of a record what the instruction makes of the state,
with the line of what it reports. -/
theorem execute_ofState [Provision] (state : State) (room : state.size < Numeral.decimalBound)
    (instruction : Instruction) :
    standard.execute (Record.ofState state) instruction.toCall =
      .ok (Record.ofState (state.execute instruction), (state.report instruction).line) := by
  rw [execute_of_perform rfl (Record.perform_ofState state instruction)
    (State.checkedLine_report state room instruction)]
  rfl

private theorem complete_ofState [Provision] (state : State)
    (room : state.size < Numeral.decimalBound) :
    standard.complete (Record.ofState state) =
      .ok (Record.ofState { state.execute (decode state.ir) with phase := .execute },
        (state.report (decode state.ir)).line) := by
  unfold complete
  change (standard.execute (Record.ofState state) (decode state.ir).toCall >>= _) = _
  rw [execute_ofState state room]
  rfl

theorem step_ofState [Provision] {state : State} (valid : state.Valid)
    (room : state.size < Numeral.decimalBound) :
    standard.step (Record.ofState state) =
      .ok (Record.ofState state.next, state.step.2.line) := by
  have flag : (Record.ofState state).halted = state.halted := rfl
  have known : (Record.ofState state).phase = .known state.phase := rfl
  unfold step State.next
  cases halted : state.halted with
  | true =>
      rw [flag, if_pos halted, State.step_of_halted halted]
  | false =>
      rw [flag, if_neg (Bool.eq_false_iff.mp halted), known]
      cases phase : state.phase with
      | idle =>
          rw [State.step_of_boundary halted (.inl phase)]
          exact fetch_ofState valid room
      | fetch =>
          rw [State.step_of_fetched halted phase]
          rfl
      | decode =>
          rw [State.step_of_decoded halted phase]
          exact complete_ofState state room
      | execute =>
          rw [State.step_of_boundary halted (.inr phase)]
          exact fetch_ofState valid room

/-- A run of the record of a valid state reports no fault and follows the typed one. -/
theorem steps_ofState [Provision] {state : State} (valid : state.Valid)
    (room : state.size < Numeral.decimalBound) (count : Nat) :
    standard.steps count (Record.ofState state) =
      (Record.ofState (state.after count), .ok (state.lines count)) := by
  induction count generalizing state with
  | zero => rfl
  | succ count previous =>
      have later := previous valid.next (by rw [State.size_next]; exact room)
      unfold steps
      rw [step_ofState valid room]
      dsimp only
      rw [later]
      rfl

end Registry

end Accumulator
