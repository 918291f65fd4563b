import Accumulator.Proofs.Page.Ticking

set_option autoImplicit false

/-!
Pages that are paused. Nothing but a press of the run button or a tick raises the running flag of a
page. A tick does not look at the flag: whatever was paused, it raises the flag again when the
machine can go on.
-/

namespace Accumulator.Page

namespace Session

open Session (Deed)

section

variable [Provision] {session : Session}

theorem Intact.paused_after (intact : session.Intact) (paused : session.running = false)
    {deed : Deed} (unpressed : deed ≠ .fire .toggleRun)
    (resting : deed = .fire .tick → session.simulator.state.next.halted = true) :
    (session.after deed).running = false := by
  cases deed with
  | enter component cell => exact paused
  | fire trigger =>
      rw [intact.running_after_fire]
      cases trigger with
      | toggleRun => exact absurd rfl unpressed
      | tick =>
          rw [flagAfter, resting rfl]
          rfl
      | reset => rfl
      | loadSample => rfl
      | clearMemory => rfl
      | _ => exact paused

theorem Intact.paused_afterAll (intact : session.Intact) (paused : session.running = false)
    {later : List Deed} (ofUser : ∀ deed ∈ later, deed.isOfUser = true)
    (unpressed : Deed.fire .toggleRun ∉ later)
    (resting : ∀ before rest, later = before ++ .fire .tick :: rest →
      (session.afterAll before).simulator.state.next.halted = true) :
    (session.afterAll later).running = false := by
  induction later generalizing session with
  | nil => exact paused
  | cons deed rest previous =>
      have first : deed ≠ .fire .toggleRun := fun press =>
        unpressed (press ▸ List.mem_cons_self)
      have kept : (session.after deed).running = false := by
        apply intact.paused_after paused first
        intro tick
        exact resting [] rest (congrArg (· :: rest) tick)
      -- What comes before a later tick now comes after this deed.
      apply previous (intact.after (ofUser deed List.mem_cons_self)) kept
      · intro other among
        exact ofUser other (List.mem_cons_of_mem deed among)
      · intro among
        exact unpressed (List.mem_cons_of_mem deed among)
      · intro before behind parted
        exact resting (deed :: before) behind (congrArg (deed :: ·) parted)

/-- Ticks leave a page paused exactly if the machine is halted after them. -/
theorem Intact.paused_fireTimes_iff (intact : session.Intact) {ticks : Nat} (positive : 0 < ticks) :
    let ticked := (session.fireTimes .tick ticks).1
    ticked.running = false ∧ ticked.timer.active = false ↔
      (session.simulator.state.after ticks).halted = true := by
  intro ticked
  obtain ⟨count, spends⟩ := session.simulator.state.exists_spends ticks
  obtain ⟨page, fired, _, reports⟩ :=
    fireTimes_tick intact.currentSimulator spends (.inl positive)
  have driven : (session.simulator.stepTimes count).1.state =
      session.simulator.state.after ticks := by
    rw [Simulator.state_stepTimes, spends.after_eq]
  have reached : ticked = page := congrArg Prod.fst fired
  rw [reached, reports.running, reports.active, driven]
  cases (session.simulator.state.after ticks).halted <;> decide

/-- A page is paused when it opens, by a press while it runs, and by a reset, the sample or a
cleared memory; its timer is inactive then. What keeps it so is that nobody presses the button and
that every tick leaves the machine halted. Ticks that do not start it again. -/
theorem paused_page_resumes_by_press_or_running_tick
    (deeds : List Deed) (ofUser : ∀ deed ∈ deeds, deed.isOfUser = true) :
    let page := opened.afterAll deeds
    opened.running = false ∧
      (page.running = true → (page.after (.fire .toggleRun)).running = false) ∧
      (∀ trigger, trigger = .reset ∨ trigger = .loadSample ∨ trigger = .clearMemory →
        (page.after (.fire trigger)).running = false) ∧
      (page.running = false →
        page.timer.active = false ∧
        (∀ ticks, 0 < ticks →
          let ticked := (page.fireTimes .tick ticks).1
          (ticked.running = false ∧ ticked.timer.active = false ↔
            (page.simulator.state.after ticks).halted = true)) ∧
        (∀ later, (∀ deed ∈ later, deed.isOfUser = true) → Deed.fire .toggleRun ∉ later →
          (∀ before rest, later = before ++ .fire .tick :: rest →
            (page.afterAll before).simulator.state.next.halted = true) →
          (page.afterAll later).running = false ∧
            (page.afterAll later).timer.active = false)) := by
  intro page
  have intact : page.Intact := intact_opened.afterAll ofUser
  refine ⟨rfl, ?_, ?_, ?_⟩
  · intro running
    rw [intact.running_after_fire, flagAfter, running]
    rfl
  · rintro trigger (rfl | rfl | rfl) <;> exact intact.running_after_fire _
  · intro paused
    refine ⟨intact.agreeing.trans paused, fun ticks => intact.paused_fireTimes_iff, ?_⟩
    intro later laterOfUser unpressed resting
    have kept := intact.paused_afterAll paused laterOfUser unpressed resting
    exact ⟨kept, (intact.afterAll laterOfUser).agreeing.trans kept⟩

end

section

open scoped Provision

/-- The sample, started and paused at once: fourteen late ticks start it again, a fifteenth ends
it. -/
theorem paused_sample_resumes_until_it_halts :
    let deeds : List Deed := [.fire .loadSample, .fire .toggleRun, .fire .toggleRun]
    (∀ deed ∈ deeds, deed.isOfUser = true) ∧
      (opened.afterAll deeds).running = false ∧
      ¬(((opened.afterAll deeds).fireTimes .tick 14).1.running = false ∧
        ((opened.afterAll deeds).fireTimes .tick 14).1.timer.active = false) ∧
      ((opened.afterAll deeds).fireTimes .tick 15).1.running = false ∧
      ((opened.afterAll deeds).fireTimes .tick 15).1.timer.active = false := by
  intro deeds
  have ofUser : ∀ deed ∈ deeds, deed.isOfUser = true := by decide
  have paused : (opened.afterAll deeds).running = false := by decide +kernel
  have going : ((opened.afterAll deeds).simulator.state.after 14).halted = false := by
    decide +kernel
  have halted : ((opened.afterAll deeds).simulator.state.after 15).halted = true := by
    decide +kernel
  obtain ⟨_, _, _, rest⟩ := paused_page_resumes_by_press_or_running_tick deeds ofUser
  obtain ⟨_, ticked, _⟩ := rest paused
  refine ⟨ofUser, paused, ?_, (ticked 15 (by decide)).mpr halted⟩
  intro both
  rw [(ticked 14 (by decide)).mp both] at going
  contradiction

/-- One tick after a pause is enough to raise the flag again. -/
theorem late_tick_resumes_paused_page :
    ¬∀ (deeds : List Deed) (ticks : Nat), (∀ deed ∈ deeds, deed.isOfUser = true) →
      (opened.afterAll deeds).running = false →
        ((opened.afterAll deeds).fireTimes .tick ticks).1.running = false := by
  intro claimed
  let deeds : List Deed := [.fire .toggleRun, .fire .tick, .fire .toggleRun]
  have paused : (opened.afterAll deeds).running = false := by decide +kernel
  have resumed : ((opened.afterAll deeds).fireTimes .tick 1).1.running = true := by decide +kernel
  rw [claimed deeds 1 (by decide) paused] at resumed
  exact Bool.false_ne_true resumed

end

end Session

end Accumulator.Page
