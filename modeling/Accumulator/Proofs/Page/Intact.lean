import Accumulator.Proofs.Machine.Transition
import Accumulator.Proofs.Page.Event

set_option autoImplicit false

/-!
Pages in the hands of a user, who enters cells into the entry components and causes events in any
order. Such a page always has its own simulator, and its timer is active exactly while its running
flag is raised: every response sets both alike or neither, and what it sets depends on the event and
on the machine alone.
-/

namespace Accumulator.Page

open Session (Deed)

/-- The components that a user can enter cells into. -/
def entryComponents : List Component :=
  [.template, .source, .x, .y, .z, .memorySize, .speed, .cellAddress, .cellText]

def Session.Deed.isOfUser : Deed → Bool
  | .enter component _ => entryComponents.contains component
  | .fire _ => true

namespace Session

/-! ### What every event leaves intact -/

structure Intact (session : Session) : Prop where
  untouched : ∀ entry ∈ session.entered, entry.1 ∈ entryComponents
  agreeing : session.timer.active = session.running
  sized : 0 ≤ session.simulator.memorySize

theorem Intact.lookup_eq_none {session : Session} (intact : session.Intact)
    {component : Component} (outside : component ∉ entryComponents) :
    session.entered.lookup component = none := by
  rw [List.lookup_eq_none_iff]
  intro entry among
  rw [bne_iff_ne]
  intro same
  rw [same] at outside
  exact outside (intact.untouched entry among)

theorem Intact.content_simulator {session : Session} (intact : session.Intact) :
    session.content .simulator = .simulator session.simulator := by
  rw [content, intact.lookup_eq_none (by decide)]
  rfl

theorem Intact.content_running {session : Session} (intact : session.Intact) :
    session.content .running = .cell (.flag session.running) := by
  rw [content, intact.lookup_eq_none (by decide)]
  rfl

theorem Intact.content_timer {session : Session} (intact : session.Intact) :
    session.content .timer = .timer session.timer := by
  rw [content, intact.lookup_eq_none (by decide)]
  rfl

theorem Intact.currentSimulator {session : Session} (intact : session.Intact) :
    session.currentSimulator = .ok session.simulator := by
  rw [Session.currentSimulator, intact.lookup_eq_none (by decide)]

theorem Intact.driving {session : Session} (intact : session.Intact)
    (handler : Simulator → Outcome Response) :
    session.driving handler = handler session.simulator := by
  rw [Session.driving, intact.currentSimulator]

theorem Intact.isRunning {session : Session} (intact : session.Intact) :
    session.isRunning = session.running := by
  rw [Session.isRunning, intact.lookup_eq_none (by decide)]

/-- What an event makes of the running flag, if it sets it at all. -/
def flagAfter (session : Session) : Trigger → Option Bool
  | .toggleRun => some (!session.running && !session.simulator.state.halted)
  | .tick => some (!session.simulator.state.next.halted)
  | .reset => some false
  | .loadSample => some false
  | .clearMemory => some false
  | _ => none

/-- A response that sets timer and flag alike and displays a simulator whose memory has a size. -/
structure Conforms (flag? : Option Bool) (response : Response) : Prop where
  running : response.running? = flag?
  active : response.active? = flag?
  sized : ∀ display, response.display? = some display → 0 ≤ display.simulator.memorySize

private theorem conforms_setting (flag? : Option Bool) (interval? : Option Binary64)
    (source? : Option String) :
    Conforms flag?
      { active? := flag?, interval? := interval?, running? := flag?, source? := source? } where
  running := rfl
  active := rfl
  sized display shown := by contradiction

theorem conforms_displaying {simulator : Simulator} (sized : 0 ≤ simulator.memorySize) :
    Conforms none (Response.displaying simulator) where
  running := rfl
  active := rfl
  sized display shown := by
    rw [← Option.some.inj shown]
    exact sized

theorem conforms_displayingRun {simulator : Simulator} (sized : 0 ≤ simulator.memorySize)
    (running : Bool) : Conforms (some running) (Response.displayingRun simulator running) where
  running := rfl
  active := rfl
  sized := (conforms_displaying sized).sized

theorem memorySize_candidate [Provision] {simulator target : Simulator} {size : Int}
    (chosen : candidate simulator size = .ok target) : target.memorySize = size := by
  unfold candidate at chosen
  split at chosen
  · next same => rw [← Except.ok.inj chosen, same]
  · rw [Simulator.eq_new_of_create chosen]
    rfl

private theorem conforms_assembleSized [Provision] {simulator : Simulator}
    (sized : 0 ≤ simulator.memorySize) {source x y z : Cell} {size : Int} {response : Response}
    (responds : (assembleSized simulator source x y z size).answer = .ok response) :
    Conforms none response := by
  obtain ⟨target, text, chosen, _, _, ⟨loaded, rfl⟩ | ⟨required, available, _, rfl⟩⟩ :=
    assembleSized_cases responds
  · apply conforms_displaying
    rw [Simulator.memorySize_loadProgram]
    exact Simulator.nonnegative_of_loadProgram loaded
  · refine ⟨rfl, rfl, ?_⟩
    intro display shown
    rw [← Option.some.inj shown]
    dsimp only
    split
    · next same =>
        rw [Simulator.memorySize_loadProgram, memorySize_candidate chosen, same]
        exact sized
    · exact sized

/-- A command keeps the size of the memory, so what is displayed of it conforms. -/
private theorem conforms_performing [Provision] {simulator : Simulator}
    (sized : 0 ≤ simulator.memorySize) {command : Command} (stroke : command.isStroke = true)
    {flag? : Option Bool} {respond : Simulator → Response}
    (displayed : ∀ changed : Simulator, 0 ≤ changed.memorySize → Conforms flag? (respond changed))
    {response : Response}
    (responds : (performing simulator command respond).answer = .ok response) :
    Conforms flag? response := by
  rw [response_of_performing responds]
  apply displayed
  rw [Simulator.memorySize_perform stroke]
  exact sized

private theorem conforms_pausing [Provision] {simulator : Simulator}
    (sized : 0 ≤ simulator.memorySize) {command : Command} (stroke : command.isStroke = true)
    {response : Response} (responds : (pausing simulator command).answer = .ok response) :
    Conforms (some false) response :=
  conforms_performing sized stroke (fun _ kept => conforms_displayingRun kept false) responds

private theorem conforms_writeCell [Provision] {simulator : Simulator}
    (sized : 0 ≤ simulator.memorySize) {address entered : Cell} {response : Response}
    (responds : (writeCell simulator address entered).answer = .ok response) :
    Conforms none response := by
  unfold writeCell at responds
  split at responds
  · exact conforms_performing sized rfl (fun _ => conforms_displaying) responds
  · contradiction

private theorem conforms_loadTemplate {entry : Cell} {response : Response}
    (responds : loadTemplate entry = .ok response) : Conforms none response := by
  unfold loadTemplate at responds
  obtain ⟨mnemonic, _, responds⟩ := exists_of_bind responds
  rw [← Except.ok.inj responds]
  exact conforms_setting none none _

private theorem conforms_changeSpeed {entry : Cell} {response : Response}
    (responds : changeSpeed entry = .ok response) : Conforms none response := by
  unfold changeSpeed at responds
  obtain ⟨milliseconds, _, responds⟩ := exists_of_bind responds
  rw [← Except.ok.inj responds]
  exact conforms_setting none _ none

/-- A tick reports on the machine, which it has moved unless it was halted. -/
theorem answer_tick [Provision] (simulator : Simulator) :
    (tick simulator).answer =
      .ok (reporting (if simulator.state.halted then simulator else simulator.step.1)) := by
  unfold Page.tick
  split
  · rfl
  · rfl

/-- A tick reports whether the machine goes on after it. -/
theorem conforms_tick [Provision] {simulator : Simulator} (sized : 0 ≤ simulator.memorySize)
    {response : Response} (responds : (tick simulator).answer = .ok response) :
    Conforms (some (!simulator.state.next.halted)) response := by
  rw [answer_tick] at responds
  rw [← Except.ok.inj responds]
  split
  · next halted =>
      rw [State.next_of_halted halted]
      exact conforms_displayingRun sized _
  · have moved : 0 ≤ simulator.step.1.memorySize := sized
    exact conforms_displayingRun moved _

/-- A memory whose size is not negative has room for the part of the sample that fits. -/
private theorem exists_loadSample [Provision] {simulator : Simulator}
    (sized : 0 ≤ simulator.memorySize) :
    ∃ response, (loadSample simulator).answer = .ok response := by
  have room : Simulator.overflows simulator.memorySize Assembly.sample = false := by
    unfold Simulator.overflows
    rw [decide_eq_false (Int.not_lt.mpr sized), Bool.false_and]
  unfold loadSample pausing performing Simulator.perform Simulator.loadSample Simulator.loadCells
  rw [room]
  exact ⟨_, rfl⟩

/-- What a response sets depends on the event and the machine only. -/
theorem Intact.conforms [Provision] {session : Session} (intact : session.Intact)
    {trigger : Trigger} {response : Response}
    (responds : (session.respond trigger).answer = .ok response) :
    Conforms (session.flagAfter trigger) response := by
  have sized := intact.sized
  cases trigger with
  | loadTemplate => exact conforms_loadTemplate responds
  | assemble =>
      unfold respond at responds
      dsimp only at responds
      split at responds
      · rw [intact.driving] at responds
        exact conforms_assembleSized sized responds
      · contradiction
  | step =>
      rw [respond, intact.driving] at responds
      exact conforms_performing sized rfl (fun _ => conforms_displaying) responds
  | toggleRun =>
      rw [respond, intact.isRunning, intact.driving] at responds
      unfold flagAfter
      cases flag : session.running with
      | true =>
          rw [flag, if_pos rfl] at responds
          rw [← Except.ok.inj responds]
          exact conforms_setting (some false) none none
      | false =>
          rw [flag, if_neg Bool.false_ne_true] at responds
          rw [← Except.ok.inj responds]
          exact conforms_setting (some _) none none
  | tick =>
      rw [respond, intact.driving] at responds
      exact conforms_tick sized responds
  | changeSpeed => exact conforms_changeSpeed responds
  | reset =>
      rw [respond, intact.driving] at responds
      exact conforms_pausing sized rfl responds
  | loadSample =>
      rw [respond, intact.driving] at responds
      exact conforms_pausing sized rfl responds
  | clearMemory =>
      rw [respond, intact.driving] at responds
      exact conforms_pausing sized rfl responds
  | writeCell =>
      rw [respond, intact.driving] at responds
      exact conforms_writeCell sized responds
  | opening =>
      rw [respond, intact.driving] at responds
      rw [← Except.ok.inj responds]
      exact conforms_displaying sized

/-- The events that set the flag never fail. -/
theorem Intact.exists_response [Provision] {session : Session} (intact : session.Intact)
    {trigger : Trigger} (sets : session.flagAfter trigger ≠ none) :
    ∃ response, (session.respond trigger).answer = .ok response := by
  cases trigger with
  | toggleRun =>
      rw [respond, intact.driving]
      split
      · exact ⟨_, rfl⟩
      · exact ⟨_, rfl⟩
  | tick =>
      rw [respond, intact.driving]
      exact ⟨_, answer_tick session.simulator⟩
  | reset =>
      rw [respond, intact.driving]
      exact ⟨_, rfl⟩
  | loadSample =>
      rw [respond, intact.driving]
      exact exists_loadSample intact.sized
  | clearMemory =>
      rw [respond, intact.driving]
      exact ⟨_, rfl⟩
  | _ => exact absurd rfl sets

/-! ### Sessions -/

theorem Intact.absorb {session : Session} (intact : session.Intact) {flag? : Option Bool}
    {response : Response} (conforms : Conforms flag? response) :
    (session.absorb response).Intact where
  untouched entry among := by
    rcases mem_entered_of_mem_absorb among with before | source
    · exact intact.untouched entry before
    · rw [source]
      decide
  agreeing := by
    rw [active_absorb, running_absorb, conforms.active, conforms.running, intact.agreeing]
  sized := by
    rw [simulator_absorb]
    cases shown : response.display? with
    | none => exact intact.sized
    | some display => exact conforms.sized display shown

theorem intact_opened : opened.Intact where
  untouched entry among := absurd among List.not_mem_nil
  agreeing := rfl
  sized := by decide

theorem Intact.after [Provision] {session : Session} (intact : session.Intact) {deed : Deed}
    (ofUser : deed.isOfUser = true) : (session.after deed).Intact := by
  cases deed with
  | enter component cell =>
      refine ⟨?_, intact.agreeing, intact.sized⟩
      intro entry among
      rcases List.mem_cons.mp among with written | kept
      · rw [written]
        exact List.contains_iff_mem.mp ofUser
      · exact intact.untouched entry (mem_of_mem_discard kept)
  | fire trigger =>
      cases answer : (session.respond trigger).answer with
      | ok response =>
          rw [after_fire_of_response answer]
          exact intact.absorb (intact.conforms answer)
      | error fault =>
          rw [after_fire_of_fault answer]
          exact intact

theorem Intact.afterAll [Provision] {session : Session} (intact : session.Intact)
    {deeds : List Deed} (ofUser : ∀ deed ∈ deeds, deed.isOfUser = true) :
    (session.afterAll deeds).Intact := by
  induction deeds generalizing session with
  | nil => exact intact
  | cons deed rest previous =>
      have others : ∀ later ∈ rest, later.isOfUser = true := fun later among =>
        ofUser later (List.mem_cons_of_mem deed among)
      exact previous (intact.after (ofUser deed List.mem_cons_self)) others

theorem Intact.running_after_fire [Provision] {session : Session} (intact : session.Intact)
    (trigger : Trigger) :
    (session.after (.fire trigger)).running =
      (session.flagAfter trigger).getD session.running := by
  cases answer : (session.respond trigger).answer with
  | ok response =>
      rw [after_fire_of_response answer, running_absorb, (intact.conforms answer).running]
  | error fault =>
      -- An event that sets the flag does not fail, so this one leaves it alone.
      rw [after_fire_of_fault answer]
      have unset : session.flagAfter trigger = none := by
        apply Decidable.byContradiction
        intro sets
        obtain ⟨response, responds⟩ := intact.exists_response sets
        rw [responds] at answer
        contradiction
      rw [unset]
      rfl

end Session

end Accumulator.Page
