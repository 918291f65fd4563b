import Accumulator.Machine.Step

set_option autoImplicit false

/-!
What a transition does, by phase: one equation for each phase of a running machine and one for a
machine that has halted. A run is taken apart at any count of its transitions.
-/

namespace Accumulator

namespace State

variable {state : State}

theorem step_of_halted (halted : state.halted = true) : state.step = (state, .rest) := by
  rw [step, if_pos halted]

theorem step_of_boundary (running : state.halted = false)
    (boundary : state.phase = .idle ∨ state.phase = .execute) :
    state.step =
      ({ state with ir := latch (state.read state.pc), phase := .fetch },
        .fetched (.int state.pc) (latch (state.read state.pc))) := by
  rw [step, if_neg (Bool.eq_false_iff.mp running)]
  rcases boundary with idle | execute
  · rw [idle]
  · rw [execute]

theorem step_of_fetched (running : state.halted = false) (fetched : state.phase = .fetch) :
    state.step = ({ state with phase := .decode }, .decoded (decode state.ir).toCall) := by
  rw [step, if_neg (Bool.eq_false_iff.mp running), fetched]

theorem step_of_decoded (running : state.halted = false) (decoded : state.phase = .decode) :
    state.step =
      ({ state.execute (decode state.ir) with phase := .execute },
        state.report (decode state.ir)) := by
  rw [step, if_neg (Bool.eq_false_iff.mp running), decoded]

theorem next_of_halted (halted : state.halted = true) : state.next = state := by
  rw [next, step_of_halted halted]

theorem next_of_boundary (running : state.halted = false)
    (boundary : state.phase = .idle ∨ state.phase = .execute) :
    state.next = { state with ir := latch (state.read state.pc), phase := .fetch } := by
  rw [next, step_of_boundary running boundary]

theorem next_of_fetched (running : state.halted = false) (fetched : state.phase = .fetch) :
    state.next = { state with phase := .decode } := by
  rw [next, step_of_fetched running fetched]

theorem next_of_decoded (running : state.halted = false) (decoded : state.phase = .decode) :
    state.next = { state.execute (decode state.ir) with phase := .execute } := by
  rw [next, step_of_decoded running decoded]

/-- A transition rests, starts an instruction, or goes through one of its later phases. -/
theorem next_cases (state : State) :
    (state.halted = true ∧ state.next = state) ∨
      (state.halted = false ∧ (state.phase = .idle ∨ state.phase = .execute) ∧
        state.next = { state with ir := latch (state.read state.pc), phase := .fetch }) ∨
      (state.halted = false ∧ state.phase = .fetch ∧
        state.next = { state with phase := .decode }) ∨
      (state.halted = false ∧ state.phase = .decode ∧
        state.next = { state.execute (decode state.ir) with phase := .execute }) := by
  rcases Bool.eq_false_or_eq_true state.halted with halted | running
  · exact .inl ⟨halted, next_of_halted halted⟩
  · cases phase : state.phase with
    | idle => exact .inr (.inl ⟨running, .inl rfl, next_of_boundary running (.inl phase)⟩)
    | fetch => exact .inr (.inr (.inl ⟨running, rfl, next_of_fetched running phase⟩))
    | decode => exact .inr (.inr (.inr ⟨running, rfl, next_of_decoded running phase⟩))
    | execute => exact .inr (.inl ⟨running, .inr rfl, next_of_boundary running (.inr phase)⟩)

end State

end Accumulator
