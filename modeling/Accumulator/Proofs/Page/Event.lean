import Accumulator.Page.Session
import Accumulator.Proofs.Fallible
import Accumulator.Proofs.Simulator.Loading

set_option autoImplicit false

/-!
Events of a page. An event works on the simulator of the page itself, also one that fails. Whatever
it has done to it is displayed, or else it has done nothing: so an event that fails leaves the page
as it was.
-/

namespace Accumulator

/-- The commands that change a machine in one stroke. -/
def Command.isStroke : Command → Bool
  | .loadMemory _ => true
  | .loadSample => true
  | .clearMemory => true
  | .reset => true
  | .editCell _ _ => true
  | .step => true
  | _ => false

namespace Simulator

variable {simulator : Simulator} {changed : Except Fault Simulator}

theorem settled_of_fault {fault : Fault}
    (failed : (simulator.settled changed).answer = .error fault) :
    (simulator.settled changed).simulator = simulator := by
  cases changed with
  | ok next => contradiction
  | error reason => rfl

theorem memorySize_settled
    (kept : ∀ next, changed = .ok next → next.memorySize = simulator.memorySize) :
    (simulator.settled changed).simulator.memorySize = simulator.memorySize := by
  cases changed with
  | ok next => exact kept next rfl
  | error reason => rfl

theorem perform_of_fault [Provision] {command : Command} (stroke : command.isStroke = true)
    {fault : Fault} (failed : (simulator.perform command).answer = .error fault) :
    (simulator.perform command).simulator = simulator := by
  cases command with
  | loadMemory cells => exact settled_of_fault failed
  | loadSample => exact settled_of_fault failed
  | clearMemory => exact settled_of_fault failed
  | reset => exact settled_of_fault failed
  | editCell address entered => exact settled_of_fault failed
  | step => contradiction
  | _ => contradiction

theorem memorySize_loadCells {cells : List Cell} {action : Action} {next : Simulator}
    (loaded : simulator.loadCells cells action = .ok next) :
    next.memorySize = simulator.memorySize := by
  unfold loadCells at loaded
  split at loaded
  · contradiction
  · rw [← Except.ok.inj loaded]
    rfl

theorem memorySize_editCell {address : Int} {entered : Cell} {next : Simulator}
    (edited : simulator.editCell address entered = .ok next) :
    next.memorySize = simulator.memorySize := by
  unfold editCell at edited
  split at edited
  · rw [← Except.ok.inj edited]
    rfl
  · contradiction

theorem memorySize_perform [Provision] {command : Command} (stroke : command.isStroke = true) :
    (simulator.perform command).simulator.memorySize = simulator.memorySize := by
  cases command with
  | loadMemory cells => exact memorySize_settled fun _ => memorySize_loadCells
  | loadSample => exact memorySize_settled fun _ => memorySize_loadCells
  | clearMemory => rfl
  | reset => rfl
  | editCell address entered => exact memorySize_settled fun _ => memorySize_editCell
  | step => rfl
  | _ => contradiction

end Simulator

namespace Page

/-! ### Outcomes -/

/-- The outcome displays a simulator, or it has left the one from before as it was. -/
def Accounts (simulator : Simulator) (outcome : Outcome Response) : Prop :=
  outcome.simulator = simulator ∨
    ∃ response, outcome.answer = .ok response ∧ response.display?.isSome = true

section Outcome

variable {simulator target : Simulator}

theorem accounts_keeping (answer : Except Fault Response) :
    Accounts simulator (keeping simulator answer) :=
  .inl rfl

theorem response_of_performing [Provision] {command : Command} {response : Simulator → Response}
    {made : Response} (responds : (performing simulator command response).answer = .ok made) :
    made = response (simulator.perform command).simulator := by
  change (simulator.perform command).answer.map _ = _ at responds
  cases answer : (simulator.perform command).answer with
  | error fault =>
      rw [answer] at responds
      contradiction
  | ok entries =>
      rw [answer] at responds
      exact (Except.ok.inj responds).symm

theorem accounts_performing [Provision] {command : Command} (stroke : command.isStroke = true)
    {response : Simulator → Response}
    (displays : ∀ changed, (response changed).display?.isSome = true) :
    Accounts simulator (performing simulator command response) := by
  cases answer : (simulator.perform command).answer with
  | error fault => exact .inl (Simulator.perform_of_fault stroke answer)
  | ok entries =>
      refine .inr ⟨response (simulator.perform command).simulator, ?_, displays _⟩
      rw [performing, answer]
      rfl

variable {source x y z : Cell} {size : Int} {text : String}

/-- A program is loaded into the simulator that was chosen for the size. -/
theorem assembleSized_of_candidate [Provision] (chosen : candidate simulator size = .ok target)
    (given : textOf source = .ok text) :
    assembleSized simulator source x y z size =
      let outcome := target.loadProgram text [("X", x), ("Y", y), ("Z", z)]
      let own := if size = simulator.memorySize then outcome.simulator else simulator
      { simulator := own, answer := responseToLoad own outcome, notes := outcome.notes } := by
  rw [assembleSized, chosen, given]

/-- What is answered comes of a program that is loaded, or refused for its cells. -/
theorem assembleSized_cases [Provision] {response : Response}
    (responds : (assembleSized simulator source x y z size).answer = .ok response) :
    ∃ target text, candidate simulator size = .ok target ∧ textOf source = .ok text ∧
      let outcome := target.loadProgram text [("X", x), ("Y", y), ("Z", z)]
      let own := if size = simulator.memorySize then outcome.simulator else simulator
      (assembleSized simulator source x y z size).simulator = own ∧
      (outcome.answer = .ok () ∧ response = Response.displaying outcome.simulator ∨
        ∃ required available, outcome.answer = .error (.capacity required available) ∧
          response = refuse own (.capacity required available)) := by
  cases chosen : candidate simulator size with
  | error fault =>
      rw [assembleSized, chosen] at responds
      contradiction
  | ok target =>
      cases given : textOf source with
      | error fault =>
          rw [assembleSized, chosen, given] at responds
          contradiction
      | ok text =>
          rw [assembleSized_of_candidate chosen given] at responds ⊢
          refine ⟨target, text, rfl, rfl, rfl, ?_⟩
          dsimp only [responseToLoad] at responds ⊢
          split at responds
          · next loaded => exact .inl ⟨loaded, (Except.ok.inj responds).symm⟩
          · next required available refused =>
              exact .inr ⟨required, available, refused, (Except.ok.inj responds).symm⟩
          · contradiction

theorem candidate_of_same [Provision] (same : size = simulator.memorySize) :
    candidate simulator size = .ok simulator :=
  if_pos same

theorem candidate_of_other [Provision] (other : size ≠ simulator.memorySize) :
    candidate simulator size = Simulator.create size defaultStepLimit :=
  if_neg other

/-- An attempt that fails has not touched the simulator: a load fails before it changes anything,
unless it is for want of cells. -/
theorem assembleSized_of_fault [Provision] {fault : Fault}
    (failed : (assembleSized simulator source x y z size).answer = .error fault) :
    (assembleSized simulator source x y z size).simulator = simulator := by
  cases chosen : candidate simulator size with
  | error reason =>
      rw [assembleSized, chosen]
      rfl
  | ok target =>
      cases given : textOf source with
      | error reason =>
          rw [assembleSized, chosen, given]
          rfl
      | ok text =>
          rw [assembleSized_of_candidate chosen given] at failed ⊢
          dsimp only [responseToLoad] at failed ⊢
          by_cases same : size = simulator.memorySize
          · rw [candidate_of_same same] at chosen
            obtain rfl := Except.ok.inj chosen
            rw [if_pos same]
            split at failed
            · contradiction
            · contradiction
            · next reason other refused =>
                rcases Simulator.loadProgram_failed refused with ⟨kept, _⟩ | ⟨scarce, _⟩
                · exact kept
                · exact absurd scarce (other _ _)
          · rw [if_neg same]

theorem accounts_assembleSized [Provision] (source x y z : Cell) (size : Int) :
    Accounts simulator (assembleSized simulator source x y z size) := by
  cases answer : (assembleSized simulator source x y z size).answer with
  | error fault => exact .inl (assembleSized_of_fault answer)
  | ok response =>
      right
      obtain ⟨target, text, _, _, _, ⟨_, rfl⟩ | ⟨required, available, _, rfl⟩⟩ :=
        assembleSized_cases answer
      · exact ⟨_, answer, rfl⟩
      · exact ⟨_, answer, rfl⟩

end Outcome

namespace Session

/-! ### Events -/

theorem accounts_driving (session : Session) {handler : Simulator → Outcome Response}
    (accounts : ∀ simulator, Accounts simulator (handler simulator)) :
    Accounts session.simulator (session.driving handler) := by
  unfold driving currentSimulator
  cases session.entered.lookup .simulator with
  | some cell => exact accounts_keeping _
  | none => exact accounts session.simulator

/-- One event. -/
theorem accounts_respond [Provision] (session : Session) (trigger : Trigger) :
    Accounts session.simulator (session.respond trigger) := by
  cases trigger with
  | loadTemplate => exact accounts_keeping _
  | changeSpeed => exact accounts_keeping _
  | assemble =>
      unfold respond
      dsimp only
      split
      · exact session.accounts_driving fun _ => accounts_assembleSized _ _ _ _ _
      · exact accounts_keeping _
  | step => exact session.accounts_driving fun _ => accounts_performing rfl fun _ => rfl
  | toggleRun =>
      unfold respond
      dsimp only
      split
      · exact accounts_keeping _
      · exact session.accounts_driving fun _ => accounts_keeping _
  | tick =>
      apply session.accounts_driving
      intro simulator
      unfold Page.tick
      split
      · exact accounts_keeping _
      · exact accounts_performing rfl fun _ => rfl
  | reset => exact session.accounts_driving fun _ => accounts_performing rfl fun _ => rfl
  | loadSample => exact session.accounts_driving fun _ => accounts_performing rfl fun _ => rfl
  | clearMemory => exact session.accounts_driving fun _ => accounts_performing rfl fun _ => rfl
  | writeCell =>
      apply session.accounts_driving
      intro simulator
      unfold Page.writeCell
      split
      · exact accounts_performing rfl fun _ => rfl
      · exact accounts_keeping _
  | opening => exact session.accounts_driving fun _ => accounts_keeping _

/-! ### What a response changes -/

/-- Simulator, running flag and timer after a response; a setting that it leaves out stays. -/
theorem absorb_eq (session : Session) (response : Response) :
    session.absorb response =
      { session.absorb response with
        simulator := (response.display?.map Display.simulator).getD session.simulator
        running := response.running?.getD session.running
        timer :=
          { interval := response.interval?.getD session.timer.interval
            active := response.active?.getD session.timer.active } } := by
  obtain ⟨display?, active?, interval?, running?, source?⟩ := response
  cases display? <;> cases active? <;> cases interval? <;> cases running? <;> cases source? <;> rfl

theorem simulator_absorb (session : Session) (response : Response) :
    (session.absorb response).simulator =
      (response.display?.map Display.simulator).getD session.simulator := by
  rw [absorb_eq]

theorem running_absorb (session : Session) (response : Response) :
    (session.absorb response).running = response.running?.getD session.running := by
  rw [absorb_eq]

theorem active_absorb (session : Session) (response : Response) :
    (session.absorb response).timer.active = response.active?.getD session.timer.active := by
  rw [absorb_eq]

theorem mem_of_mem_discard {session : Session} {components : List Component}
    {entry : Component × Cell} (among : entry ∈ (session.discard components).entered) :
    entry ∈ session.entered :=
  (List.mem_filter.mp among).1

/-- A response removes entered cells; the only one that it can put in is the source text. -/
theorem mem_entered_of_mem_absorb {session : Session} {response : Response}
    {entry : Component × Cell} (among : entry ∈ (session.absorb response).entered) :
    entry ∈ session.entered ∨ entry.1 = .source := by
  obtain ⟨display?, active?, interval?, running?, source?⟩ := response
  have displayed (present : entry ∈ (session.absorbDisplay display?).entered) :
      entry ∈ session.entered := by
    cases display? with
    | none => exact present
    | some display => exact mem_of_mem_discard present
  have timed (before : Session)
      (present : entry ∈ (before.absorbTimer active? interval?).entered) :
      entry ∈ before.entered := by
    unfold absorbTimer at present
    split at present
    · exact present
    · exact mem_of_mem_discard present
  have flagged (before : Session) (present : entry ∈ (before.absorbRunning running?).entered) :
      entry ∈ before.entered := by
    cases running? with
    | none => exact present
    | some running => exact mem_of_mem_discard present
  have sourced (before : Session) (present : entry ∈ (before.absorbSource source?).entered) :
      entry ∈ before.entered ∨ entry.1 = .source := by
    cases source? with
    | none => exact .inl present
    | some source =>
        rcases List.mem_cons.mp present with written | kept
        · exact .inr (congrArg Prod.fst written)
        · exact .inl (mem_of_mem_discard (mem_of_mem_discard kept))
  exact (sourced _ among).imp_left fun kept => displayed (timed _ (flagged _ kept))

/-- A response that displays a simulator puts it in the place of whatever was there. -/
theorem absorb_touched (session : Session) (simulator : Simulator) {response : Response}
    (displays : response.display?.isSome = true) :
    { session with simulator := simulator }.absorb response = session.absorb response := by
  obtain ⟨display?, active?, interval?, running?, source?⟩ := response
  cases display? with
  | none => contradiction
  | some display => rfl

theorem fire_of_response [Provision] {session : Session} {trigger : Trigger} {response : Response}
    (responds : (session.respond trigger).answer = .ok response) :
    session.fire trigger = (session.absorb response, .ok ()) := by
  unfold fire
  dsimp only
  rw [responds]
  dsimp only
  rcases session.accounts_respond trigger with kept | ⟨shown, answered, displays⟩
  · rw [kept]
  · obtain rfl : response = shown := Except.ok.inj (responds.symm.trans answered)
    rw [absorb_touched session _ displays]

/-- An event that fails changes nothing. -/
theorem fire_of_fault [Provision] {session : Session} {trigger : Trigger} {fault : Fault}
    (fails : (session.respond trigger).answer = .error fault) :
    session.fire trigger = (session, .error fault) := by
  unfold fire
  dsimp only
  rw [fails]
  dsimp only
  rcases session.accounts_respond trigger with kept | ⟨response, answered, _⟩
  · rw [kept]
  · rw [answered] at fails
    contradiction

theorem after_fire_of_response [Provision] {session : Session} {trigger : Trigger}
    {response : Response} (responds : (session.respond trigger).answer = .ok response) :
    session.after (.fire trigger) = session.absorb response :=
  congrArg Prod.fst (fire_of_response responds)

theorem after_fire_of_fault [Provision] {session : Session} {trigger : Trigger} {fault : Fault}
    (fails : (session.respond trigger).answer = .error fault) :
    session.after (.fire trigger) = session :=
  congrArg Prod.fst (fire_of_fault fails)

end Session

end Page

end Accumulator
