import Accumulator.Proofs.Page.Ticking

set_option autoImplicit false

/-!
Pages that run. The flag and the timer tell the same: the timer is active exactly while the running
flag is raised, a tick leaves both as the machine goes on or not, and a change of the speed gives
the timer another interval and leaves both alone. No other event gives it one.
-/

namespace Accumulator.Page

namespace Session

variable {session : Session}

/-! ### The interval -/

/-- The interval that an event gives the timer, if it gives it one. -/
def intervalAfter (session : Session) : Trigger → Option Binary64
  | .changeSpeed =>
    match realOf (session.entry .speed) with
    | .ok milliseconds => some (milliseconds.divideBy 1000)
    | .error _ => none
  | _ => none

theorem interval?_of_assembleSized [Provision] {simulator : Simulator} {source x y z : Cell}
    {size : Int} {response : Response}
    (responds : (assembleSized simulator source x y z size).answer = .ok response) :
    response.interval? = none := by
  obtain ⟨target, text, _, _, _, ⟨_, rfl⟩ | ⟨required, available, _, rfl⟩⟩ :=
    assembleSized_cases responds
  · rfl
  · rfl

theorem interval?_of_performing [Provision] {simulator : Simulator} {command : Command}
    {respond : Simulator → Response} {response : Response}
    (responds : (performing simulator command respond).answer = .ok response)
    (silent : ∀ changed, (respond changed).interval? = none) : response.interval? = none := by
  rw [response_of_performing responds]
  exact silent _

theorem Intact.interval?_of_response [Provision] (intact : session.Intact) {trigger : Trigger}
    {response : Response} (responds : (session.respond trigger).answer = .ok response) :
    response.interval? = session.intervalAfter trigger := by
  cases trigger with
  | loadTemplate =>
      obtain ⟨mnemonic, _, made⟩ := exists_of_bind responds
      rw [← Except.ok.inj made]
      rfl
  | assemble =>
      unfold respond at responds
      dsimp only at responds
      split at responds
      · rw [intact.driving] at responds
        exact interval?_of_assembleSized responds
      · contradiction
  | step =>
      rw [respond, intact.driving] at responds
      exact interval?_of_performing responds fun _ => rfl
  | toggleRun =>
      rw [respond, intact.driving] at responds
      split at responds
      all_goals
        rw [← Except.ok.inj responds]
        rfl
  | tick =>
      rw [respond, intact.driving, answer_tick] at responds
      rw [← Except.ok.inj responds]
      rfl
  | changeSpeed =>
      obtain ⟨milliseconds, entered, made⟩ := exists_of_bind responds
      rw [← Except.ok.inj made, intervalAfter, entered]
  | reset =>
      rw [respond, intact.driving] at responds
      exact interval?_of_performing responds fun _ => rfl
  | loadSample =>
      rw [respond, intact.driving] at responds
      exact interval?_of_performing responds fun _ => rfl
  | clearMemory =>
      rw [respond, intact.driving] at responds
      exact interval?_of_performing responds fun _ => rfl
  | writeCell =>
      rw [respond, intact.driving, writeCell] at responds
      split at responds
      · exact interval?_of_performing responds fun _ => rfl
      · contradiction
  | opening =>
      rw [respond, intact.driving] at responds
      rw [← Except.ok.inj responds]
      rfl

theorem interval_absorb (session : Session) (response : Response) :
    (session.absorb response).timer.interval =
      response.interval?.getD session.timer.interval := by
  rw [absorb_eq]

theorem Intact.interval_after_fire [Provision] (intact : session.Intact) (trigger : Trigger) :
    (session.after (.fire trigger)).timer.interval =
      (session.intervalAfter trigger).getD session.timer.interval := by
  cases answer : (session.respond trigger).answer with
  | ok response =>
      rw [after_fire_of_response answer, interval_absorb, intact.interval?_of_response answer]
  | error fault =>
      rw [after_fire_of_fault answer]
      cases trigger with
      | changeSpeed =>
          rw [intervalAfter]
          cases entered : realOf (session.entry .speed) with
          | ok milliseconds =>
              change changeSpeed (session.entry .speed) = _ at answer
              rw [changeSpeed, entered] at answer
              contradiction
          | error reason => rfl
      | _ => rfl

theorem after_changeSpeed_of_fault [Provision] {fault : Fault}
    (unread : realOf (session.entry .speed) = .error fault) :
    session.after (.fire .changeSpeed) = session := by
  have fails : (session.respond .changeSpeed).answer = .error fault := by
    change changeSpeed (session.entry .speed) = _
    rw [changeSpeed, unread]
    rfl
  exact after_fire_of_fault fails

/-- On a page in the hands of a user the timer is active exactly while the running flag is raised.
A tick never fails, and after it both say whether the machine goes on. A change of the speed leaves
both as they are and sets the interval to the speed in seconds, or changes nothing if what was
entered is no number; nothing else changes the interval. -/
theorem timer_is_active_while_the_flag_is_raised [Provision]
    (deeds : List Deed) (ofUser : ∀ deed ∈ deeds, deed.isOfUser = true) :
    let page := opened.afterAll deeds
    let changed := page.after (.fire .changeSpeed)
    (page.content .running = .cell (.flag page.running) ∧
      page.content .timer = .timer page.timer ∧ page.timer.active = page.running) ∧
    (∃ ticked, page.fire .tick = (ticked, .ok ()) ∧
      ticked.content .simulator = .simulator ticked.simulator ∧
      ticked.running = !ticked.simulator.state.halted ∧
      ticked.timer.active = !ticked.simulator.state.halted) ∧
    (changed.running = page.running ∧ changed.timer.active = page.timer.active ∧
      (∀ milliseconds, realOf (page.entry .speed) = .ok milliseconds →
        changed.timer.interval = milliseconds.divideBy 1000) ∧
      ∀ fault, realOf (page.entry .speed) = .error fault → changed = page) ∧
    ∀ deed : Deed, deed ≠ .fire .changeSpeed →
      (page.after deed).timer.interval = page.timer.interval := by
  intro page changed
  have intact : page.Intact := intact_opened.afterAll ofUser
  refine ⟨⟨intact.content_running, intact.content_timer, intact.agreeing⟩, ?_, ?_, ?_⟩
  · obtain ⟨ticked, fired, moved, reports⟩ := exists_fire_tick intact.currentSimulator
    have reached : page.after (.fire .tick) = ticked := congrArg Prod.fst fired
    have again : ticked.Intact := reached ▸ intact.after rfl
    have held : ticked.simulator = _ := Except.ok.inj (again.currentSimulator.symm.trans moved)
    rw [← held] at reports
    exact ⟨ticked, fired, again.content_simulator, reports.running, reports.active⟩
  · have flag : changed.running = page.running := intact.running_after_fire .changeSpeed
    have again : changed.Intact := intact.after rfl
    refine ⟨flag, ?_, ?_, fun _ unread => after_changeSpeed_of_fault unread⟩
    · rw [again.agreeing, flag, intact.agreeing]
    · intro milliseconds entered
      have interval := intact.interval_after_fire .changeSpeed
      rw [intervalAfter, entered] at interval
      exact interval
  · intro deed other
    cases deed with
    | enter component cell => rfl
    | fire trigger =>
        rw [intact.interval_after_fire]
        cases trigger with
        | changeSpeed => exact absurd rfl other
        | _ => rfl

section

open scoped Provision

/-- The sample runs at a quarter of a second, an assembly fails, and the speed is taken out. -/
theorem running_sample_ignores_a_missing_speed :
    let deeds : List Deed :=
      [.enter .speed (.text " 250 "), .fire .changeSpeed, .fire .loadSample, .fire .toggleRun,
        .enter .memorySize (.text "many"), .fire .assemble, .enter .speed .absent]
    let page := opened.afterAll deeds
    (∀ deed ∈ deeds, deed.isOfUser = true) ∧
      page.content .running = .cell (.flag true) ∧
      page.content .timer = .timer ⟨Binary64.ofFraction false 1 4, true⟩ ∧
      page.after (.fire .changeSpeed) = page ∧
      ∃ ticked, page.fire .tick = (ticked, .ok ()) ∧
        ticked.running = !ticked.simulator.state.halted := by
  intro deeds page
  have ofUser : ∀ deed ∈ deeds, deed.isOfUser = true := by decide
  obtain ⟨⟨flag, timer, _⟩, ⟨ticked, fired, _, running, _⟩, ⟨_, _, _, kept⟩, _⟩ :=
    timer_is_active_while_the_flag_is_raised deeds ofUser
  have raised : page.running = true := by decide +kernel
  have set : page.timer = ⟨Binary64.ofFraction false 1 4, true⟩ := by decide +kernel
  have missing : realOf (page.entry .speed) = .error .notNumeric := rfl
  rw [raised] at flag
  rw [set] at timer
  exact ⟨ofUser, flag, timer, kept _ missing, ticked, fired, running⟩

end

end Session

end Accumulator.Page
