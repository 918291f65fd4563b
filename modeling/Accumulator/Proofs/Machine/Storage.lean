import Accumulator.Proofs.Machine.Halting
import Accumulator.Proofs.Machine.Provenance

set_option autoImplicit false

/-!
What the memory of a running machine holds. A cell changes only when a store that meets it is
executed, and then it holds the accumulator of that moment, so a load from a cell finds what was
stored there last, whatever ran in between.
-/

namespace Accumulator

namespace State

/-- The next step of the machine applies that operation. -/
structure Executes (state : State) (operation : Operation) : Prop where
  running : state.halted = false
  decoded : state.phase = .decode
  latched : (decode state.ir).operation = operation

/-- The next step of the machine executes a store that meets the cell. -/
def StoresTo (state : State) (cell : Nat) : Prop :=
  ∃ address, state.Executes (.store address) ∧ state.clampAddress address = cell

variable {state : State} {operation : Operation}

theorem Executes.acc_next (executes : state.Executes operation) :
    state.next.acc = (state.apply operation).acc := by
  rw [next_of_decoded executes.running executes.decoded, ← executes.latched]
  rfl

theorem Executes.memory_next (executes : state.Executes operation) :
    state.next.memory = (state.apply operation).memory := by
  rw [next_of_decoded executes.running executes.decoded, ← executes.latched]
  rfl

/-- A step that executes no store leaves the memory alone. -/
theorem memory_next_of_no_store (none : ∀ address, ¬state.Executes (.store address)) :
    state.next.memory = state.memory := by
  rcases next_cases state with ⟨_, same⟩ | ⟨_, _, same⟩ | ⟨_, _, same⟩ | ⟨running, decoded, _⟩
  · rw [same]
  · rw [same]
  · rw [same]
  · have executes : state.Executes (decode state.ir).operation := ⟨running, decoded, rfl⟩
    rw [executes.memory_next]
    apply memory_apply_of_not_store
    intro address same
    exact none address (same ▸ executes)

theorem getElem?_next_of_storesTo {cell : Nat} (inside : cell < state.size)
    (stores : state.StoresTo cell) : state.next.memory[cell]? = some (.int state.acc) := by
  obtain ⟨address, executes, rfl⟩ := stores
  rw [executes.memory_next]
  exact Array.getElem?_setIfInBounds_self_of_lt inside

theorem getElem?_next_of_not_storesTo {cell : Nat} (spared : ¬state.StoresTo cell) :
    state.next.memory[cell]? = state.memory[cell]? := by
  by_cases storing : ∃ address, state.Executes (.store address)
  · obtain ⟨address, executes⟩ := storing
    rw [executes.memory_next]
    apply Array.getElem?_setIfInBounds_ne
    intro hit
    exact spared ⟨address, executes, hit⟩
  · rw [memory_next_of_no_store fun address executes => storing ⟨address, executes⟩]

/-! ### Runs -/

theorem getElem?_after_of_no_store {cell count : Nat}
    (spared : ∀ index < count, ¬(state.after index).StoresTo cell) :
    (state.after count).memory[cell]? = state.memory[cell]? := by
  induction count with
  | zero => rfl
  | succ count previous =>
      rw [after_succ, getElem?_next_of_not_storesTo (spared count (Nat.lt_succ_self count))]
      exact previous fun index sooner => spared index (Nat.lt_succ_of_lt sooner)

theorem getElem?_after_last_store {cell made count : Nat} (inside : cell < state.size)
    (sooner : made < count) (stores : (state.after made).StoresTo cell)
    (last : ∀ index, made < index → index < count → ¬(state.after index).StoresTo cell) :
    (state.after count).memory[cell]? = some (.int (state.after made).acc) := by
  obtain ⟨more, rfl⟩ := Nat.exists_eq_add_of_lt sooner
  have kept : ∀ index < more, ¬((state.after (made + 1)).after index).StoresTo cell := by
    intro index before
    rw [← after_add]
    exact last _ (by omega) (by omega)
  have split : state.after (made + more + 1) = (state.after (made + 1)).after more := by
    rw [← after_add]
    congr 1
    omega
  rw [split, getElem?_after_of_no_store kept, after_succ]
  exact getElem?_next_of_storesTo (by rw [size_after]; exact inside) stores

/-- A load finds the integer that was stored last in its cell. -/
theorem acc_after_load {made used : Nat} {target source : Int} (inside : 0 < state.size)
    (sooner : made < used) (stores : (state.after made).Executes (.store target))
    (loads : (state.after used).Executes (.load .direct source))
    (same : state.clampAddress source = state.clampAddress target)
    (last : ∀ index, made < index → index < used →
      ¬(state.after index).StoresTo (state.clampAddress target)) :
    (state.after (used + 1)).acc = (state.after made).acc := by
  have sized (count : Nat) (address : Int) :
      (state.after count).clampAddress address = state.clampAddress address := by
    rw [clampAddress, size_after, clampAddress]
  have stored : (state.after made).StoresTo (state.clampAddress target) :=
    ⟨target, stores, sized made target⟩
  have reached : state.clampAddress target < state.size := clampInto_lt inside target
  have held := getElem?_after_last_store reached sooner stored last
  rw [after_succ, loads.acc_next]
  change ((state.after used).read source).word = _
  rw [read, sized, same, held]
  rfl

/-- A machine without cells fetches nothing but instructions without effect. -/
theorem nop_of_executes_of_no_cells (valid : state.Valid)
    (boundary : state.phase = .idle ∨ state.phase = .execute) (empty : state.size = 0)
    {count : Nat} (executes : (state.after count).Executes operation) : operation = .nop := by
  have running : state.halted = false := running_before (Nat.zero_le count) executes.running
  have inherits : Inherits state.memory.toList state := {
    valid := valid
    cells := fun _ => .inl Array.getElem?_toList.symm
    latched := fun between => by
      rcases boundary with idle | execute
      · rw [idle] at between
        rcases between with fetched | decoded <;> contradiction
      · rw [execute] at between
        rcases between with fetched | decoded <;> contradiction
    caused := fun halted => absurd halted (Bool.eq_false_iff.mp running) }
  have vacant : (state.after count).read (state.after count).pc = .empty := by
    have none : (state.after count).memory.size = 0 := (size_after state count).trans empty
    rw [read, Array.getElem?_eq_none (by omega)]
    rfl
  have latched := (inherits.after count).latched (.inr executes.decoded)
  rw [← executes.latched, latched, vacant]
  decide +kernel

/-- After any number of transitions from an instruction boundary, a cell holds the accumulator that
the last store executed on it met, or what it held at the start. So a load after a store to its
cell, with no other store to it in between, brings that accumulator back. The unchecked machine
goes the same way without a fault. -/
theorem cells_hold_what_was_stored_last [Provision] (state : State) (valid : state.Valid)
    (boundary : state.phase = .idle ∨ state.phase = .execute) :
    (∀ count cell, cell < state.size →
      ((∀ index < count, ¬(state.after index).StoresTo cell) →
        (state.after count).memory[cell]? = state.memory[cell]?) ∧
      ∀ made < count, (state.after made).StoresTo cell →
        (∀ index, made < index → index < count → ¬(state.after index).StoresTo cell) →
          (state.after count).memory[cell]? = some (.int (state.after made).acc)) ∧
      (∀ made used target source, made < used →
        (state.after made).Executes (.store target) →
        (state.after used).Executes (.load .direct source) →
        state.clampAddress source = state.clampAddress target →
        (∀ index, made < index → index < used →
          ¬(state.after index).StoresTo (state.clampAddress target)) →
            (state.after (used + 1)).acc = (state.after made).acc) ∧
      (state.size < Numeral.decimalBound →
        ∀ count, Registry.standard.steps count (Record.ofState state) =
          (Record.ofState (state.after count), .ok (state.lines count))) := by
  refine ⟨?_, ?_, fun room count => Registry.steps_ofState valid room count⟩
  · intro count cell inside
    exact ⟨getElem?_after_of_no_store, fun made sooner => getElem?_after_last_store inside sooner⟩
  · intro made used target source sooner stores loads same last
    have inside : 0 < state.size := by
      apply Nat.pos_of_ne_zero
      intro empty
      have nop := nop_of_executes_of_no_cells valid boundary empty stores
      contradiction
    exact acc_after_load inside sooner stores loads same last

section

open scoped Provision

/-- An integer of more than one word, stored past the end and loaded from the last cell after the
accumulator has been changed. -/
theorem stored_integer_comes_back :
    let state : State :=
      { acc := -18446744073709551617
        memory := #[.text "STORE 99", .text "ADD 1", .text "loadi 0x3", .absent] }
    state.Valid ∧ (state.phase = .idle ∨ state.phase = .execute) ∧
      (state.after 8).acc = -18446744073709551616 ∧
      (state.after 9).acc = -18446744073709551617 := by
  intro state
  have valid : state.Valid := by decide
  have stores : (state.after 2).Executes (.store 99) :=
    ⟨by decide +kernel, by decide +kernel, by decide +kernel⟩
  have loads : (state.after 8).Executes (.load .direct 3) :=
    ⟨by decide +kernel, by decide +kernel, by decide +kernel⟩
  have between : ∀ index < 8, 2 < index → (state.after index).phase = .decode →
      (decode (state.after index).ir).operation = .arithmetic .add .immediate 1 := by
    decide +kernel
  have last : ∀ index, 2 < index → index < 8 →
      ¬(state.after index).StoresTo (state.clampAddress 99) := by
    rintro index later sooner ⟨address, executes, _⟩
    have added := between index sooner later executes.decoded
    rw [executes.latched] at added
    contradiction
  have changed : (state.after 8).acc = -18446744073709551616 := by decide +kernel
  obtain ⟨_, comesBack, _⟩ := cells_hold_what_was_stored_last state valid (.inl rfl)
  have back := comesBack 2 8 99 3 (by decide) stores loads (by decide) last
  have stored : (state.after 2).acc = -18446744073709551617 := by decide +kernel
  refine ⟨valid, .inl rfl, changed, ?_⟩
  rw [back]
  exact stored

end

end State

end Accumulator
