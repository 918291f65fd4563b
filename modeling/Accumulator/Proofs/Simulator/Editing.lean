import Accumulator.Proofs.Machine.Footprint
import Accumulator.Proofs.Simulator.Clock

set_option autoImplicit false

/-!
Edits among steps. An edit replaces one cell, so it may come before a step or after it unless the
step looks into that cell or replaces it. A fetched instruction is in its register; no edit changes
it.
-/

namespace Accumulator

/-! ### The cells that an instruction uses -/

theorem Operation.uses_of_read {operation : Operation} {address : Int}
    (read : operation.readAddress? = some address) :
    operation.opcode.name ∈ ["LOADI", "STORE", "ADDM", "SUBM", "MULM", "DIVM"] ∧
      operation.operand? = some (.int address) := by
  cases operation with
  | load mode operand =>
      cases mode with
      | immediate => contradiction
      | direct =>
          rw [← Option.some.inj read]
          exact ⟨List.mem_cons_self, rfl⟩
  | arithmetic function mode operand =>
      cases mode with
      | immediate => contradiction
      | direct =>
          rw [← Option.some.inj read]
          refine ⟨?_, rfl⟩
          change (Opcode.arithmetic function .direct).name ∈ _
          cases function <;> decide
  | _ => contradiction

theorem Operation.uses_of_written {operation : Operation} {address : Int}
    (written : operation.writtenAddress? = some address) :
    operation.opcode.name ∈ ["LOADI", "STORE", "ADDM", "SUBM", "MULM", "DIVM"] ∧
      operation.operand? = some (.int address) := by
  cases operation with
  | store target =>
      rw [← Option.some.inj written]
      exact ⟨List.mem_cons_of_mem "LOADI" List.mem_cons_self, rfl⟩
  | _ => contradiction

namespace State

variable {state : State}

/-- Whether the instruction register holds an instruction that reads or stores to the cell. -/
def Uses (state : State) (cell : Nat) : Prop :=
  (decode state.ir).toCall.name ∈ ["LOADI", "STORE", "ADDM", "SUBM", "MULM", "DIVM"] ∧
    ∃ operand : Int, (decode state.ir).toCall.operand = some (.int operand) ∧
      state.clampAddress operand = cell

/-- What makes the next step leave a cell alone and not look into it. -/
def Ignores (state : State) (cell : Nat) : Prop :=
  state.halted = true ∨ state.phase = .fetch ∨
    (state.phase = .idle ∨ state.phase = .execute) ∧ cell ≠ state.pc ∨
    state.phase = .decode ∧ ¬state.Uses cell

theorem readCell?_eq_none (still : state.halted = true ∨ state.phase = .fetch) :
    state.readCell? = none := by
  unfold readCell?
  rcases still with halted | fetched
  · exact if_pos halted
  · rw [fetched]
    split <;> rfl

/-- A step that ignores a cell has it outside its footprint. -/
theorem footprint_of_ignores (grounded : state.clampAddress state.pc = state.pc) {cell : Nat}
    (ignores : state.Ignores cell) :
    state.readCell? ≠ some cell ∧ state.writtenCell? ≠ some cell := by
  rcases Bool.eq_false_or_eq_true state.halted with halted | running
  · rw [readCell?_eq_none (.inl halted), writtenCell?_eq_none (.inl halted)]
    exact ⟨nofun, nofun⟩
  rcases ignores with halted | fetched | ⟨boundary, other⟩ | ⟨decoded, unused⟩
  · rw [running] at halted
    contradiction
  · rw [readCell?_eq_none (.inr fetched),
      writtenCell?_eq_none (.inr (not_decode_of_fetched fetched))]
    exact ⟨nofun, nofun⟩
  · rw [readCell?_of_boundary running boundary, grounded,
      writtenCell?_eq_none (.inr (not_decode_of_boundary boundary))]
    exact ⟨fun same => other (Option.some.inj same).symm, nofun⟩
  · rw [readCell?_of_decoded running decoded, writtenCell?_of_decoded running decoded]
    constructor
    · intro looked
      obtain ⟨address, read, place⟩ := Option.map_eq_some_iff.mp looked
      obtain ⟨named, operand⟩ := Operation.uses_of_read read
      exact unused ⟨named, address, operand, place⟩
    · intro stored
      obtain ⟨address, written, place⟩ := Option.map_eq_some_iff.mp stored
      obtain ⟨named, operand⟩ := Operation.uses_of_written written
      exact unused ⟨named, address, operand, place⟩

/-! ### The program counter -/

/-- The program counter meets a cell, or is zero when there is none. -/
def Grounded (state : State) : Prop :=
  state.pc < max state.size 1

theorem Grounded.clampAddress_pc (grounded : state.Grounded) :
    state.clampAddress state.pc = state.pc :=
  clampAddress_of_lt_max grounded

theorem Grounded.write (grounded : state.Grounded) (address : Int) (cell : Cell) :
    (state.write address cell).Grounded := by
  unfold Grounded
  rw [size_write]
  exact grounded

theorem grounded_jumpTo (state : State) (address : Int) : (state.jumpTo address).Grounded :=
  clampInto_lt_max state.size address

theorem Grounded.apply (grounded : state.Grounded) (operation : Operation) :
    (state.apply operation).Grounded := by
  have advanced (before : State) : before.advance.Grounded :=
    grounded_jumpTo before (before.pc + 1)
  cases operation with
  | halt => exact grounded
  | invalid => exact grounded
  | jump condition address =>
      change (if condition.holds state.acc then state.jumpTo address else state.advance).Grounded
      split
      · exact grounded_jumpTo state address
      · exact advanced state
  | _ => exact advanced _

theorem Grounded.next (grounded : state.Grounded) : state.next.Grounded := by
  rcases next_cases state with ⟨_, same⟩ | ⟨_, _, same⟩ | ⟨_, _, same⟩ | ⟨_, _, same⟩
  · rw [same]
    exact grounded
  · rw [same]
    exact grounded
  · rw [same]
    exact grounded
  · rw [same]
    exact grounded.apply (decode state.ir).operation

theorem grounded_of_fresh (fresh : state.toRegisters = {}) : state.Grounded := by
  have zero : state.pc = 0 := congrArg Registers.pc fresh
  unfold Grounded
  omega

end State

namespace Simulator

variable {simulator : Simulator}

/-- An edit writes a text, or its value cannot be written and nothing changes. -/
theorem perform_editCell_cases [Provision] (simulator : Simulator) (address : Int)
    (entered : Cell) :
    (∃ text, (simulator.perform (.editCell address entered)).simulator =
        simulator.editText address text) ∨
      (simulator.perform (.editCell address entered)).simulator = simulator := by
  unfold perform editCell
  dsimp only
  cases enteredText? entered with
  | some text => exact .inl ⟨text, rfl⟩
  | none => exact .inr rfl

theorem grounded_move [Provision] (grounded : simulator.state.Grounded) {move : Command}
    (single : move.isMove = true) : (simulator.perform move).simulator.state.Grounded := by
  cases move with
  | step => exact grounded.next
  | editCell address entered =>
      rcases simulator.perform_editCell_cases address entered with ⟨text, edited⟩ | kept
      · rw [edited]
        exact grounded.write address (cellOfText text)
      · rw [kept]
        exact grounded
  | _ => contradiction

theorem grounded_moves [Provision] (grounded : simulator.state.Grounded) {moves : List Command}
    (single : ∀ move ∈ moves, move.isMove = true) :
    (simulator.session moves).state.Grounded := by
  induction moves generalizing simulator with
  | nil => exact grounded
  | cons move rest previous =>
      have others : ∀ later ∈ rest, later.isMove = true := fun later among =>
        single later (List.mem_cons_of_mem move among)
      exact previous (grounded_move grounded (single move List.mem_cons_self)) others

theorem grounded_perform [Provision] (grounded : simulator.state.Grounded) (command : Command) :
    (simulator.perform command).simulator.state.Grounded := by
  rcases Bool.eq_false_or_eq_true command.restarts with restarts | between
  · rcases simulator.restartedOrKept_perform restarts with ⟨_, _, fresh⟩ | ⟨_, _, kept⟩
    · exact State.grounded_of_fresh fresh
    · rw [kept]
      exact grounded
  · rw [← session_moves_command]
    exact grounded_moves grounded fun _ => Command.isMove_of_mem_moves between

theorem grounded_session [Provision] (grounded : simulator.state.Grounded)
    (commands : List Command) :
    (simulator.session commands).state.Grounded := by
  induction commands generalizing simulator with
  | nil => exact grounded
  | cons command rest previous => exact previous (grounded_perform grounded command)

/-! ### Edits -/

/-- An edit of a cell that the step ignores may come before it or after it. -/
theorem step_editText {address : Int} {text : String}
    (unread : simulator.state.readCell? ≠ some (simulator.state.clampAddress address))
    (unwritten : simulator.state.writtenCell? ≠ some (simulator.state.clampAddress address)) :
    (simulator.editText address text).step =
      (simulator.step.1.editText address text, simulator.step.2) := by
  have moved := @State.step_write _ _ (cellOfText text) unread unwritten
  unfold step editText
  dsimp only
  rw [moved]
  rfl

theorem registers_session_of_edits [Provision] {edits : List Command}
    (edit : ∀ command ∈ edits, ∃ address entered, command = .editCell address entered) :
    (simulator.session edits).state.toRegisters = simulator.state.toRegisters := by
  induction edits generalizing simulator with
  | nil => rfl
  | cons command rest previous =>
      have others : ∀ later ∈ rest, ∃ address entered, later = .editCell address entered :=
        fun later among => edit later (List.mem_cons_of_mem command among)
      obtain ⟨address, entered, rfl⟩ := edit command List.mem_cons_self
      obtain ⟨memory, edited⟩ := simulator.exists_memory_of_edit address entered
      rw [session_cons, previous others, edited]

/-- Edits after the fetch and after the decoding leave the latched cell in its register. -/
theorem decoded_after_edits [Provision] (running : simulator.state.halted = false)
    (boundary : simulator.state.phase = .idle ∨ simulator.state.phase = .execute)
    {first second : List Command}
    (edit : ∀ command ∈ first ++ second, ∃ address entered, command = .editCell address entered) :
    let decoded := (simulator.session (.step :: first ++ .step :: second)).state
    decoded.halted = false ∧ decoded.phase = .decode ∧
      decoded.ir = State.latch (simulator.state.read simulator.state.pc) := by
  intro decoded
  let fetched := simulator.step.1.session first
  have early : fetched.state.toRegisters =
      { simulator.state.toRegisters with
        ir := State.latch (simulator.state.read simulator.state.pc)
        phase := .fetch } := by
    rw [registers_session_of_edits fun command among =>
      edit command (List.mem_append_left second among)]
    rw [state_step, State.next_of_boundary running boundary]
  have going : fetched.state.halted = false := (congrArg Registers.halted early).trans running
  have late : decoded.toRegisters = { fetched.state.toRegisters with phase := .decode } := by
    have passed := State.next_of_fetched going (congrArg Registers.phase early)
    change (simulator.session (.step :: first ++ .step :: second)).state.toRegisters = _
    rw [session_append]
    change (fetched.step.1.session second).state.toRegisters = _
    rw [registers_session_of_edits fun command among =>
      edit command (List.mem_append_right first among)]
    rw [state_step, passed]
  have kept := congrArg Registers.ir late
  have latched := congrArg Registers.ir early
  exact ⟨(congrArg Registers.halted late).trans going, congrArg Registers.phase late,
    kept.trans latched⟩

/-- In every session, an edit of a cell that the next step ignores may come before that step or
after it. Between the fetch of an instruction and its execution, edits do not change it. -/
theorem edit_commutes_with_independent_step [Provision] (memorySize stepLimit : Int)
    (past : List Command) :
    let simulator := (new memorySize stepLimit).session past
    let state := simulator.state
    (∀ (index : Int) (text : String),
      let cell := state.clampAddress index
      let call := (decode state.ir).toCall
      let edit : Command := .editCell index (.text text)
      let edited := simulator.perform edit
      let stepped := simulator.perform .step
      let editedFirst := edited.simulator.perform .step
      let editedLast := stepped.simulator.perform edit
      edited.answer = .ok [] ∧ editedLast.answer = .ok [] ∧
        (state.halted = true ∨ state.phase = .fetch ∨
            (state.phase = .idle ∨ state.phase = .execute) ∧ cell ≠ state.pc ∨
            state.phase = .decode ∧
              ¬(call.name ∈ ["LOADI", "STORE", "ADDM", "SUBM", "MULM", "DIVM"] ∧
                ∃ operand : Int, call.operand = some (.int operand) ∧
                  state.clampAddress operand = cell) →
          editedFirst.answer = stepped.answer ∧
            editedFirst.simulator = editedLast.simulator)) ∧
      (state.halted = false → state.phase = .idle ∨ state.phase = .execute →
        ∀ first second : List Command,
          (∀ edit ∈ first ++ second, ∃ index entered, edit = .editCell index entered) →
            let decoded := (simulator.session (.step :: first ++ .step :: second)).state
            let instruction := decode (State.latch (state.read state.pc))
            decode decoded.ir = instruction ∧
              decoded.next = { decoded.execute instruction with phase := .execute }) := by
  intro simulator state
  have grounded : state.Grounded := by
    apply grounded_session
    exact State.grounded_of_fresh rfl
  refine ⟨?_, ?_⟩
  · intro index text cell call edit edited stepped editedFirst editedLast
    refine ⟨rfl, rfl, ?_⟩
    intro ignores
    obtain ⟨unread, unwritten⟩ := State.footprint_of_ignores grounded.clampAddress_pc ignores
    have moved := @step_editText simulator index text unread unwritten
    refine ⟨?_, ?_⟩
    · exact congrArg (fun made => Except.ok [made.2.entry]) moved
    · exact congrArg Prod.fst moved
  · intro running boundary first second edit decoded instruction
    obtain ⟨going, phase, latched⟩ := decoded_after_edits running boundary edit
    have same : decode decoded.ir = instruction := congrArg decode latched
    refine ⟨same, ?_⟩
    rw [State.next_of_decoded going phase, same]

section

open scoped Provision

/-- The cell that a store was fetched from is overwritten in the middle of the instruction. -/
theorem overwritten_store_is_carried_out :
    let past : List Command := [.loadMemory [.text "STORE 2"], .step, .step]
    let simulator := (new 3 10).session past
    let edit : Command := .editCell 0 (.text "HLT")
    let edited := simulator.perform edit
    let stepped := simulator.perform .step
    simulator.state.phase = .decode ∧
      (edited.simulator.perform .step).answer = stepped.answer ∧
      (edited.simulator.perform .step).simulator = (stepped.simulator.perform edit).simulator ∧
      (edited.simulator.perform .step).simulator.state.memory = #[.text "HLT", .empty, .int 0] := by
  intro past simulator edit edited stepped
  have decoded : simulator.state.phase = .decode := rfl
  have unused : ¬((decode simulator.state.ir).toCall.name ∈
        ["LOADI", "STORE", "ADDM", "SUBM", "MULM", "DIVM"] ∧
      ∃ operand : Int, (decode simulator.state.ir).toCall.operand = some (.int operand) ∧
        simulator.state.clampAddress operand = simulator.state.clampAddress 0) := by
    rintro ⟨-, operand, read, place⟩
    have held : (decode simulator.state.ir).toCall.operand = some (.int 2) := by decide +kernel
    have two : operand = 2 := Number.int.inj (Option.some.inj (read.symm.trans held))
    subst two
    exact absurd place (by decide +kernel)
  have memory : (edited.simulator.perform .step).simulator.state.memory =
      #[.text "HLT", .empty, .int 0] := by
    decide +kernel
  obtain ⟨commutes, -⟩ := edit_commutes_with_independent_step 3 10 past
  obtain ⟨-, -, same⟩ := commutes 0 "HLT"
  obtain ⟨answer, last⟩ := same (.inr (.inr (.inr ⟨decoded, unused⟩)))
  exact ⟨decoded, answer, last, memory⟩

end

end Simulator

end Accumulator
