import Accumulator.Proofs.Page.Intact
import Accumulator.Proofs.Simulator.Driving

set_option autoImplicit false

/-!
Ticks of the timer. Each one makes a step unless the machine is halted, and says whether the machine
goes on after it, so a number of ticks drives the simulator of a page like a run with that limit.
With it, every way of driving a simulator comes down to single steps.
-/

namespace Accumulator

namespace Page.Session

/-- What the page shows about a run agrees with whether the machine goes on. -/
structure Reports (session : Session) (simulator : Simulator) : Prop where
  running : session.running = !simulator.state.halted
  active : session.timer.active = !simulator.state.halted

/-- A display leaves no entered cell in the place of the simulator. -/
theorem currentSimulator_absorb (session : Session) (simulator : Simulator) (running : Bool) :
    (session.absorb (Response.displayingRun simulator running)).currentSimulator =
      .ok simulator := by
  let displayed := session.discard displayComponents
  let response := Response.displayingRun simulator running
  have cleared : (session.absorb response).entered.lookup .simulator = none := by
    rw [List.lookup_eq_none_iff]
    intro entry among
    have present : entry ∈ displayed.entered :=
      (List.mem_filter.mp (List.mem_filter.mp among).1).1
    have kept : (!displayComponents.contains entry.1) = true := (List.mem_filter.mp present).2
    rw [bne_iff_ne]
    intro same
    rw [← same] at kept
    contradiction
  rw [currentSimulator, cleared]
  rfl

theorem fire_tick [Provision] {session : Session} {simulator : Simulator}
    (current : session.currentSimulator = .ok simulator) :
    session.fire .tick =
      (session.absorb (reporting (if simulator.state.halted then simulator else simulator.step.1)),
        .ok ()) := by
  apply fire_of_response
  rw [respond, driving, current]
  exact answer_tick simulator

/-- The simulator after one tick, and that the tick reports on it. -/
theorem exists_fire_tick [Provision] {session : Session} {simulator : Simulator}
    (current : session.currentSimulator = .ok simulator) :
    let moved := if simulator.state.halted then simulator else simulator.step.1
    ∃ next, session.fire .tick = (next, .ok ()) ∧ next.currentSimulator = .ok moved ∧
      next.Reports moved := by
  intro moved
  refine ⟨session.absorb (reporting moved), fire_tick current, currentSimulator_absorb _ _ _,
    ?_, ?_⟩
  · exact running_absorb session (reporting moved)
  · exact active_absorb session (reporting moved)

/-- Ticks make the steps that the machine spends of their number. -/
theorem fireTimes_tick [Provision] {session : Session} {simulator : Simulator} {ticks count : Nat}
    (current : session.currentSimulator = .ok simulator)
    (spends : simulator.state.Spends ticks count)
    (reported : 0 < ticks ∨ session.Reports simulator) :
    let driven := (simulator.stepTimes count).1
    ∃ page, session.fireTimes .tick ticks = (page, .ok ()) ∧ page.currentSimulator = .ok driven ∧
      page.Reports driven := by
  induction ticks generalizing session simulator count with
  | zero =>
      have none : count = 0 := Nat.le_zero.mp spends.within
      rw [none]
      exact ⟨session, rfl, current, reported.resolve_left (Nat.lt_irrefl 0)⟩
  | succ ticks previous =>
      obtain ⟨next, fired, moved, reports⟩ := exists_fire_tick current
      unfold fireTimes
      rw [fired]
      dsimp only
      cases count with
      | zero =>
          -- The machine was halted before, so it rests for all the ticks that are left.
          have halted := spends.halted_of_zero
          rw [if_pos halted] at moved reports
          exact previous moved ⟨Nat.zero_le ticks, nofun, .inr halted⟩ (.inr reports)
      | succ count =>
          have running := Bool.eq_false_iff.mp spends.running_of_succ
          rw [if_neg running] at moved reports
          have later : simulator.step.1.state.Spends ticks count := spends.next
          exact @previous next simulator.step.1 count moved later (.inr reports)

end Page.Session

namespace Simulator

section

open scoped Provision

end

end Simulator

end Accumulator
