import Accumulator.Proofs.Machine.Transition

set_option autoImplicit false

/-!
Validity is an invariant. Each change that an operation is made of keeps the program counter at a
cell, the outputs within their limit and the memory storable, so every operation does, every
transition does, and by induction every run.
-/

namespace Accumulator

namespace State

/-- A clamped address meets a cell, or is zero when there is none. -/
theorem clampInto_lt_max (size : Nat) (address : Int) : clampInto size address < max size 1 := by
  rw [clampInto, clamp]
  omega

theorem clampAddress_of_lt_max {state : State} {address : Nat}
    (inside : address < max state.size 1) : state.clampAddress address = address := by
  rw [clampAddress, clampInto, clamp]
  omega

theorem Valid.clampAddress_pc {state : State} (valid : state.Valid) :
    state.clampAddress state.pc = state.pc :=
  clampAddress_of_lt_max valid.pc_lt

theorem valid_initial (image : List Cell) (storable : ∀ cell ∈ image, cell.isStorable = true) :
    (initial image).Valid where
  pc_lt := by
    change 0 < max _ 1
    omega
  outputs_le := Nat.zero_le _
  storable := by
    intro cell present
    exact storable cell (List.mem_toArray.mp present)

theorem Valid.restarted {state : State} (valid : state.Valid) : state.restarted.Valid where
  pc_lt := by
    change 0 < max _ 1
    omega
  outputs_le := Nat.zero_le _
  storable := valid.storable

theorem Valid.jumpTo {state : State} (valid : state.Valid) (address : Int) :
    (state.jumpTo address).Valid where
  pc_lt := clampInto_lt_max state.size address
  outputs_le := valid.outputs_le
  storable := valid.storable

theorem Valid.advance {state : State} (valid : state.Valid) : state.advance.Valid :=
  valid.jumpTo (state.pc + 1)

theorem Valid.emit {state : State} (valid : state.Valid) (value : Int) :
    (state.emit value).Valid where
  pc_lt := valid.pc_lt
  outputs_le := length_lastOf_le outputLimit (state.outputs ++ [value])
  storable := valid.storable

theorem Valid.write {state : State} (valid : state.Valid) (address : Int) {cell : Cell}
    (storable : cell.isStorable = true) : (state.write address cell).Valid where
  pc_lt := by
    rw [size_write]
    exact valid.pc_lt
  outputs_le := valid.outputs_le
  storable := by
    intro other present
    rcases Array.mem_or_eq_of_mem_setIfInBounds present with before | written
    · exact valid.storable other before
    · rw [written]
      exact storable

/-- The accumulator takes no part in validity. -/
theorem Valid.accept {state : State} (valid : state.Valid) (value : Int) :
    { state with acc := value }.Valid :=
  ⟨valid.pc_lt, valid.outputs_le, valid.storable⟩

theorem Valid.halt {state : State} (valid : state.Valid) : { state with halted := true }.Valid :=
  ⟨valid.pc_lt, valid.outputs_le, valid.storable⟩

theorem Valid.apply {state : State} (valid : state.Valid) (operation : Operation) :
    (state.apply operation).Valid := by
  cases operation with
  | nop => exact valid.advance
  | halt => exact valid.halt
  | output => exact (valid.emit state.acc).advance
  | load mode operand => exact (valid.accept _).advance
  | store address => exact (valid.write address rfl).advance
  | arithmetic function mode operand => exact (valid.accept _).advance
  | jump condition address =>
      change (if condition.holds state.acc then state.jumpTo address else state.advance).Valid
      split
      · exact valid.jumpTo address
      · exact valid.advance
  | data word => exact valid.advance
  | invalid => exact valid.halt

theorem Valid.next {state : State} (valid : state.Valid) : state.next.Valid := by
  rcases next_cases state with ⟨_, same⟩ | ⟨_, _, same⟩ | ⟨_, _, same⟩ | ⟨_, _, same⟩
  · rw [same]
    exact valid
  · rw [same]
    exact ⟨valid.pc_lt, valid.outputs_le, valid.storable⟩
  · rw [same]
    exact ⟨valid.pc_lt, valid.outputs_le, valid.storable⟩
  · rw [same]
    have applied := valid.apply (decode state.ir).operation
    exact ⟨applied.pc_lt, applied.outputs_le, applied.storable⟩

theorem Valid.after {state : State} (valid : state.Valid) (count : Nat) :
    (state.after count).Valid := by
  induction count generalizing state with
  | zero => exact valid
  | succ count previous => exact previous valid.next

/-! ### The size of the memory -/

@[simp]
theorem size_apply (state : State) (operation : Operation) :
    (state.apply operation).size = state.size := by
  cases operation with
  | store address => exact size_write state address (.int state.acc)
  | jump condition address =>
      change (if condition.holds state.acc then state.jumpTo address else state.advance).size = _
      split <;> rfl
  | _ => rfl

@[simp]
theorem size_next (state : State) : state.next.size = state.size := by
  rcases next_cases state with ⟨_, same⟩ | ⟨_, _, same⟩ | ⟨_, _, same⟩ | ⟨_, _, same⟩
  · rw [same]
  · rw [same]
    rfl
  · rw [same]
    rfl
  · rw [same]
    exact size_apply state (decode state.ir).operation

@[simp]
theorem size_after (state : State) (count : Nat) : (state.after count).size = state.size := by
  induction count generalizing state with
  | zero => rfl
  | succ count previous =>
      rw [after, previous, size_next]

end State

end Accumulator
