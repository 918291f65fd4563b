import Accumulator.Proofs.Instruction.Mnemonic
import Accumulator.Proofs.Machine.Storage

set_option autoImplicit false

/-!
Two machines in lockstep. Their cells may differ in text as long as each pair denotes the same word
and is executed to the same effect. A step keeps that up: both machines fetch such a pair, and a
store writes the same integer to the same place in both.
-/

namespace Accumulator

/-- The operation with its address moved into a memory of the given number of cells, where data is
passed over and what is no instruction halts. -/
def Operation.settle (size : Nat) : Operation → Operation
  | .load .direct address => .load .direct (State.clampInto size address)
  | .store address => .store (State.clampInto size address)
  | .arithmetic function .direct address =>
    .arithmetic function .direct (State.clampInto size address)
  | .jump condition address => .jump condition (State.clampInto size address)
  | .data _ => .nop
  | .invalid => .halt
  | operation => operation

/-- Two cells that denote the same word and are latched as similar operations. -/
structure Cell.Alike (similar : Operation → Operation → Prop) (left right : Cell) : Prop where
  word : left.word = right.word
  code : similar (decode (State.latch left)).operation (decode (State.latch right)).operation

/-- A text with words in it is latched as it is. -/
theorem State.latch_of_words {content : String} {first : List Char} {rest : List (List Char)}
    (parted : Text.words content.toList = first :: rest) :
    latch (.text content) = .text content := by
  have filled : (Cell.text content).isBlank = false := Text.isEmpty_trim_of_words parted
  rw [latch, filled, if_neg Bool.false_ne_true]

/-- Two texts that start with mnemonics are alike as soon as they decode to similar operations. -/
theorem Cell.alike_of_mnemonics {similar : Operation → Operation → Prop} {left right : String}
    {first second : List Char} {firstRest secondRest : List (List Char)}
    (leftParted : Text.words left.toList = first :: firstRest)
    (rightParted : Text.words right.toList = second :: secondRest)
    {leftKind rightKind : OperandKind}
    (leftListed : String.ofList (Text.upper first) ∈ leftKind.mnemonics)
    (rightListed : String.ofList (Text.upper second) ∈ rightKind.mnemonics)
    (code : similar (decode (.text left)).operation (decode (.text right)).operation) :
    (text left).Alike similar (text right) where
  word := by
    change (wordOfToken? left.toList).getD 0 = (wordOfToken? right.toList).getD 0
    rw [wordOfToken?_of_mnemonic leftParted leftListed,
      wordOfToken?_of_mnemonic rightParted rightListed]
  code := by
    rw [State.latch_of_words leftParted, State.latch_of_words rightParted]
    exact code

namespace State

theorem clampAddress_clampInto (state : State) (address : Int) :
    state.clampAddress (clampInto state.size address) = state.clampAddress address := by
  unfold clampAddress clampInto clamp
  omega

/-- Settling an operation does not change its effect. -/
theorem apply_settle (state : State) (operation : Operation) :
    state.apply (operation.settle state.size) = state.apply operation := by
  have settled := state.clampAddress_clampInto
  cases operation with
  | load mode operand =>
      cases mode with
      | immediate => rfl
      | direct => simp only [Operation.settle, apply, operandValue, read, settled]
  | store address => simp only [Operation.settle, apply, write, settled]
  | arithmetic function mode operand =>
      cases mode with
      | immediate => rfl
      | direct => simp only [Operation.settle, apply, operandValue, read, settled]
  | jump condition address => simp only [Operation.settle, apply, jumpTo, settled]
  | _ => rfl

/-- All that is seen of two machines but the latched cell and the memory is the same. -/
structure Agrees (left right : State) : Prop where
  pc : left.pc = right.pc
  acc : left.acc = right.acc
  phase : left.phase = right.phase
  halted : left.halted = right.halted
  outputs : left.outputs = right.outputs
  cycles : left.cycles = right.cycles

/-- Two machines that agree and hold cells in pairs. -/
structure InStep (similar : Operation → Operation → Prop) (left right : State) : Prop
    extends Agrees left right where
  size : left.size = right.size
  cells : ∀ address, (left.read address).Alike similar (right.read address)
  latched : left.phase = .fetch ∨ left.phase = .decode →
    similar (decode left.ir).operation (decode right.ir).operation

variable {similar : Operation → Operation → Prop} {left right : State}

/-! ### One operation in both machines -/

theorem Agrees.jumpTo (agrees : left.Agrees right) (size : left.size = right.size)
    (address : Int) : (left.jumpTo address).Agrees (right.jumpTo address) where
  pc := congrArg (clampInto · address) size
  acc := agrees.acc
  phase := agrees.phase
  halted := agrees.halted
  outputs := agrees.outputs
  cycles := agrees.cycles

theorem Agrees.advance (agrees : left.Agrees right) (size : left.size = right.size) :
    left.advance.Agrees right.advance := by
  unfold State.advance
  rw [agrees.pc]
  exact agrees.jumpTo size (right.pc + 1)

theorem Agrees.accept (agrees : left.Agrees right) {first second : Int} (same : first = second) :
    { left with acc := first }.Agrees { right with acc := second } :=
  ⟨agrees.pc, same, agrees.phase, agrees.halted, agrees.outputs, agrees.cycles⟩

theorem Agrees.write (agrees : left.Agrees right) (address : Int) (first second : Cell) :
    (left.write address first).Agrees (right.write address second) :=
  ⟨agrees.pc, agrees.acc, agrees.phase, agrees.halted, agrees.outputs, agrees.cycles⟩

theorem Agrees.halt (agrees : left.Agrees right) :
    { left with halted := true }.Agrees { right with halted := true } :=
  ⟨agrees.pc, agrees.acc, agrees.phase, rfl, agrees.outputs, agrees.cycles⟩

theorem Agrees.emit (agrees : left.Agrees right) :
    (left.emit left.acc).Agrees (right.emit right.acc) where
  pc := agrees.pc
  acc := agrees.acc
  phase := agrees.phase
  halted := agrees.halted
  outputs := by
    change lastOf outputLimit (left.outputs ++ [left.acc]) = _
    rw [agrees.outputs, agrees.acc]
    rfl
  cycles := agrees.cycles

theorem InStep.operandValue_eq (inStep : InStep similar left right) (mode : Mode)
    (operand : Int) : left.operandValue mode operand = right.operandValue mode operand := by
  cases mode with
  | immediate => rfl
  | direct => exact (inStep.cells operand).word

theorem InStep.agrees_apply (inStep : InStep similar left right) (operation : Operation) :
    (left.apply operation).Agrees (right.apply operation) := by
  have agrees := inStep.toAgrees
  have size := inStep.size
  cases operation with
  | nop => exact agrees.advance size
  | halt => exact agrees.halt
  | output => exact agrees.emit.advance size
  | load mode operand =>
      exact (agrees.accept (inStep.operandValue_eq mode operand)).advance size
  | store address =>
      apply (agrees.write address (.int left.acc) (.int right.acc)).advance
      rw [size_write, size_write, size]
  | arithmetic function mode operand =>
      refine (agrees.accept ?_).advance size
      rw [inStep.operandValue_eq mode operand, agrees.acc]
  | jump condition address =>
      unfold apply
      dsimp only
      rw [agrees.acc]
      split
      · exact agrees.jumpTo size address
      · exact agrees.advance size
  | data word => exact agrees.advance size
  | invalid => exact agrees.halt

/-! ### The cells of both machines -/

theorem read_congr {first second : State} (same : first.memory = second.memory) (address : Int) :
    first.read address = second.read address := by
  unfold read clampAddress size
  rw [same]

theorem write_of_no_cells {state : State} (empty : state.size = 0) (address : Int) (cell : Cell) :
    state.write address cell = state := by
  have outside : state.memory.size ≤ state.clampAddress address := by
    rw [← size, empty]
    exact Nat.zero_le _
  unfold write
  rw [Array.setIfInBounds_eq_of_size_le outside]

theorem InStep.cells_write (inStep : InStep similar left right) {first second : Cell}
    (alike : first.Alike similar second) (target address : Int) :
    ((left.write target first).read address).Alike similar
      ((right.write target second).read address) := by
  have size := inStep.size
  rcases Nat.eq_zero_or_pos left.size with empty | inside
  · rw [write_of_no_cells empty, write_of_no_cells (size ▸ empty)]
    exact inStep.cells address
  · rw [read_write left target address first inside,
      read_write right target address second (size ▸ inside)]
    unfold clampAddress
    rw [size]
    split
    · exact alike
    · exact inStep.cells address

/-- Cells stay in pairs: a store puts the same integer into both of one pair. -/
theorem InStep.cells_apply (inStep : InStep similar left right)
    (reflexive : ∀ operation, similar operation operation) (operation : Operation)
    (address : Int) :
    ((left.apply operation).read address).Alike similar
      ((right.apply operation).read address) := by
  by_cases storing : ∃ target, operation = .store target
  · obtain ⟨target, rfl⟩ := storing
    have stored : (Cell.int left.acc).Alike similar (.int right.acc) := by
      rw [inStep.acc]
      exact ⟨rfl, reflexive _⟩
    exact inStep.cells_write stored target address
  · have other : ∀ target, operation ≠ .store target := fun target same => storing ⟨target, same⟩
    rw [read_congr (memory_apply_of_not_store left other),
      read_congr (memory_apply_of_not_store right other)]
    exact inStep.cells address

/-! ### Transitions -/

/-- When two machines are about to execute, what they decoded changes both of them as one and the
same operation would. -/
def Concur (left right : State) : Prop :=
  left.phase = .decode → ∃ common,
    left.apply (decode left.ir).operation = left.apply common ∧
      right.apply (decode right.ir).operation = right.apply common

theorem InStep.enter (inStep : InStep similar left right) (phase : Phase) {first second : Cell}
    (latched : similar (decode first).operation (decode second).operation) :
    InStep similar { left with ir := first, phase := phase }
      { right with ir := second, phase := phase } where
  pc := inStep.pc
  acc := inStep.acc
  phase := rfl
  halted := inStep.halted
  outputs := inStep.outputs
  cycles := inStep.cycles
  size := inStep.size
  cells := inStep.cells
  latched := fun _ => latched

theorem InStep.next (inStep : InStep similar left right)
    (reflexive : ∀ operation, similar operation operation) (concur : Concur left right) :
    InStep similar left.next right.next := by
  have phase := inStep.phase
  rcases next_cases left with
    ⟨halted, same⟩ | ⟨running, boundary, same⟩ | ⟨running, fetched, same⟩ |
      ⟨running, decoded, same⟩
  · rw [same, next_of_halted (inStep.halted ▸ halted)]
    exact inStep
  · have fetched : right.read right.pc = right.read left.pc := by rw [inStep.pc]
    rw [same, next_of_boundary (inStep.halted ▸ running) (phase ▸ boundary), fetched]
    exact inStep.enter .fetch (inStep.cells left.pc).code
  · rw [same, next_of_fetched (inStep.halted ▸ running) (phase ▸ fetched)]
    exact inStep.enter .decode (inStep.latched (.inl fetched))
  · obtain ⟨common, first, second⟩ := concur decoded
    have agrees := inStep.agrees_apply common
    rw [same, next_of_decoded (inStep.halted ▸ running) (phase ▸ decoded), execute, execute,
      first, second]
    exact {
      pc := agrees.pc
      acc := agrees.acc
      phase := rfl
      halted := agrees.halted
      outputs := agrees.outputs
      cycles := congrArg (· + 1) agrees.cycles
      size := by
        change (left.apply common).size = (right.apply common).size
        rw [size_apply, size_apply, inStep.size]
      cells := inStep.cells_apply reflexive common
      latched := fun between => by rcases between with fetched | decoded <;> contradiction }

theorem InStep.after (inStep : InStep similar left right)
    (reflexive : ∀ operation, similar operation operation) {count : Nat}
    (concur : ∀ index < count, InStep similar (left.after index) (right.after index) →
      Concur (left.after index) (right.after index)) :
    InStep similar (left.after count) (right.after count) := by
  induction count with
  | zero => exact inStep
  | succ count previous =>
      have reached := previous fun index sooner => concur index (Nat.lt_succ_of_lt sooner)
      rw [after_succ, after_succ]
      exact reached.next reflexive (concur count (Nat.lt_succ_self count) reached)

theorem size_initial (image : List Cell) : (initial image).size = image.length :=
  List.size_toArray

theorem getElem?_initial (image : List Cell) (index : Nat) :
    (initial image).memory[index]? = image[index]? :=
  List.getElem?_toArray

/-- Machines that start on two images are in step when the cells of these are pairs. -/
theorem InStep.initial {image other : List Cell}
    (reflexive : ∀ operation, similar operation operation) (length : image.length = other.length)
    (paired : ∀ (index : Nat) (first second : Cell), image[index]? = some first →
      other[index]? = some second → first.Alike similar second) :
    InStep similar (State.initial image) (State.initial other) where
  pc := rfl
  acc := rfl
  phase := rfl
  halted := rfl
  outputs := rfl
  cycles := rfl
  size := by rw [size_initial, size_initial, length]
  cells := by
    intro address
    have same : (State.initial image).clampAddress address =
        (State.initial other).clampAddress address := by
      rw [clampAddress, clampAddress, size_initial, size_initial, length]
    rw [read, read, same, getElem?_initial, getElem?_initial]
    cases first : image[(State.initial other).clampAddress address]? with
    | none =>
        have outside := List.getElem?_eq_none_iff.mp first
        rw [List.getElem?_eq_none (le_of_eq_of_le length.symm outside)]
        exact ⟨rfl, reflexive _⟩
    | some held =>
        obtain ⟨inside, _⟩ := List.getElem?_eq_some_iff.mp first
        have second := List.getElem?_eq_getElem (Nat.lt_of_lt_of_eq inside length)
        rw [second]
        exact paired _ _ _ first second
  latched := fun between => by rcases between with fetched | decoded <;> contradiction

end State

end Accumulator
