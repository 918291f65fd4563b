import Accumulator.Proofs.Machine.Storage

set_option autoImplicit false

/-!
The outputs of a running machine. Only an executed output instruction touches them: it appends the
accumulator of that moment, and what no longer has room goes at the other end. Cutting off at once
or at the very end leaves the same, so a run shows the recent part of everything that was put out.
-/

namespace Accumulator

theorem lastOf_of_length_le {Element : Type} {limit : Nat} {elements : List Element}
    (few : elements.length ≤ limit) : lastOf limit elements = elements := by
  rw [lastOf, Nat.sub_eq_zero_of_le few, List.drop_zero]

theorem lastOf_append {Element : Type} (limit : Nat) (first second : List Element) :
    lastOf limit (first ++ second) =
      first.drop (first.length + second.length - limit) ++ lastOf limit second := by
  have behind : first.length + second.length - limit - first.length = second.length - limit := by
    omega
  rw [lastOf, List.length_append, List.drop_append, behind, lastOf]

/-- What is cut off early would be cut off later as well. -/
theorem lastOf_lastOf_append {Element : Type} (limit : Nat) (first second : List Element) :
    lastOf limit (lastOf limit first ++ second) = lastOf limit (first ++ second) := by
  have dropped : first.length - limit +
      ((lastOf limit first).length + second.length - limit) =
        first.length + second.length - limit := by
    rw [lastOf, List.length_drop]
    omega
  rw [lastOf_append, lastOf_append limit first]
  congr 1
  rw [← dropped, ← List.drop_drop, lastOf]

namespace State

instance (state : State) (operation : Operation) : Decidable (state.Executes operation) :=
  decidable_of_iff
    (state.halted = false ∧ state.phase = .decode ∧ (decode state.ir).operation = operation)
    ⟨fun ⟨running, decoded, latched⟩ => ⟨running, decoded, latched⟩,
      fun ⟨running, decoded, latched⟩ => ⟨running, decoded, latched⟩⟩

/-- The accumulators that the output instructions met in that many steps, in order. -/
def emitted (state : State) (count : Nat) : List Int :=
  ((List.range count).filter fun index => (state.after index).Executes .output).map
    fun index => (state.after index).acc

theorem emitted_succ (state : State) (count : Nat) :
    state.emitted (count + 1) =
      state.emitted count ++
        if (state.after count).Executes .output then [(state.after count).acc] else [] := by
  unfold emitted
  rw [List.range_succ, List.filter_append, List.map_append, List.filter_cons, List.filter_nil]
  congr 1
  by_cases emits : (state.after count).Executes .output
  · rw [if_pos emits, if_pos (decide_eq_true emits)]
    rfl
  · rw [if_neg emits, if_neg fun met => emits (of_decide_eq_true met)]
    rfl

theorem outputs_apply_of_not_output (state : State) {operation : Operation}
    (other : operation ≠ .output) : (state.apply operation).outputs = state.outputs := by
  cases operation with
  | output => exact absurd rfl other
  | jump condition address =>
      unfold apply
      dsimp only
      split <;> rfl
  | _ => rfl

variable {state : State}

theorem outputs_next_of_output (emits : state.Executes .output) :
    state.next.outputs = lastOf outputLimit (state.outputs ++ [state.acc]) := by
  rw [next_of_decoded emits.running emits.decoded, execute, emits.latched]
  rfl

/-- A step that executes no output instruction leaves the outputs alone. -/
theorem outputs_next_of_no_output (none : ¬state.Executes .output) :
    state.next.outputs = state.outputs := by
  rcases next_cases state with ⟨_, same⟩ | ⟨_, _, same⟩ | ⟨_, _, same⟩ | ⟨running, decoded, same⟩
  · rw [same]
  · rw [same]
  · rw [same]
  · rw [same]
    apply outputs_apply_of_not_output
    intro output
    exact none ⟨running, decoded, output⟩

theorem outputs_after (few : state.outputs.length ≤ outputLimit) (count : Nat) :
    (state.after count).outputs = lastOf outputLimit (state.outputs ++ state.emitted count) := by
  induction count with
  | zero =>
      change state.outputs = lastOf outputLimit (state.outputs ++ [])
      rw [List.append_nil, lastOf_of_length_le few]
  | succ count previous =>
      rw [after_succ, emitted_succ, ← List.append_assoc]
      by_cases emits : (state.after count).Executes .output
      · rw [if_pos emits, outputs_next_of_output emits, previous, lastOf_lastOf_append]
      · rw [if_neg emits, outputs_next_of_no_output emits, previous, List.append_nil]

/-- After any number of transitions of a valid machine, its outputs are the last fifty among those
at the start and, behind them, the accumulators that the output instructions met, in order. No
other transition changes them. The unchecked machine goes the same way without a fault. -/
theorem outputs_are_the_recent_part_of_all [Provision] (state : State) (valid : state.Valid)
    (count : Nat) :
    let all := state.outputs ++ state.emitted count
    (state.after count).outputs = all.drop (all.length - 50) ∧
      (∀ index < count, ¬(state.after index).Executes .output →
        (state.after (index + 1)).outputs = (state.after index).outputs) ∧
      (state.size < Numeral.decimalBound →
        Registry.standard.steps count (Record.ofState state) =
          (Record.ofState (state.after count), .ok (state.lines count))) := by
  intro all
  refine ⟨outputs_after valid.outputs_le count, ?_, ?_⟩
  · intro index _ none
    rw [after_succ, outputs_next_of_no_output none]
  · intro room
    exact Registry.steps_ofState valid room count

section

open scoped Provision

/-- A full list of outputs, and a run that starts in the middle of one output instruction and ends
with another. -/
theorem two_outputs_replace_the_two_oldest :
    let state : State :=
      { acc := 7
        pc := 1
        ir := .text "out 9"
        phase := .decode
        outputs := (List.range 50).map Int.ofNat
        memory := #[.text "sub 0x9", .text "out 9", .text "JMP -3"] }
    state.Valid ∧ state.emitted 10 = [7, -2] ∧
      (state.after 10).outputs = ((List.range 50).map Int.ofNat).drop 2 ++ [7, -2] := by
  intro state
  have valid : state.Valid := by decide
  have emitted : state.emitted 10 = [7, -2] := by decide +kernel
  obtain ⟨outputs, _⟩ := outputs_are_the_recent_part_of_all state valid 10
  rw [emitted] at outputs
  exact ⟨valid, emitted, outputs⟩

end

end State

end Accumulator
