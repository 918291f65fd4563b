import Accumulator.Proofs.Page.Intact

set_option autoImplicit false

/-!
What the page shows. An event that is wired to the views writes all of them together with the
simulator that they belong to, and every other deed leaves both alone. So from the first such event
on the page shows its own simulator. The status is the last action, unless the last such event was
one that refused a program.
-/

namespace Accumulator.Page

open Session (Deed)

/-- Whether the event is wired to all the views. -/
def Trigger.writesViews (trigger : Trigger) : Bool :=
  wires.any fun wire => wire.trigger == trigger && viewComponents.all wire.outputs.contains

namespace Session

/-- What the status says of a program that has too many lines for the memory asked for. -/
def refusal? (session : Session) : Trigger → Option String
  | .assemble =>
    match requestedSize (session.entry .memorySize), textOf (session.entry .source) with
    | .ok size, .ok source =>
      let required := (Assembly.programLines source.toList).length + 3
      if size < required then
        some ("Error: " ++ ("Program and data need " ++ Numeral.text required ++
          " cells but memory has " ++ Numeral.text size))
      else none
    | _, _ => none
  | _ => none

/-- The deed is an event that writes the views, and it does not fail. -/
def displays [Provision] (session : Session) : Deed → Bool
  | .enter _ _ => false
  | .fire trigger => trigger.writesViews && (session.fire trigger).2.isOk

/-- The page shows the views of the simulator that it holds, but for the status, which is given. -/
structure Shows (session : Session) (status : String) : Prop where
  simulator : session.content .simulator = .simulator session.simulator
  status : session.content .status = .cell (.text status)
  registers : session.content .registers = .cell (.text (views session.simulator).registers)
  memory : session.content .memory = .rows (views session.simulator).memory
  outputs : session.content .outputs = .cell (.text (views session.simulator).outputs)
  history : session.content .history = .cell (.text (views session.simulator).history)

/-- In a page in the hands of a user no entered cell stands in the place of a view. -/
theorem Intact.shows {session : Session} (intact : session.Intact) {status : String}
    (given : session.views? = some { views session.simulator with status := status }) :
    session.Shows status := by
  have vacant (component : Component) (outside : component ∉ entryComponents) :=
    intact.lookup_eq_none outside
  refine ⟨intact.content_simulator, ?_, ?_, ?_, ?_, ?_⟩
  all_goals
    -- The components before it in the list are others, and then comes its own.
    rw [content, vacant _ (by decide)]
    dsimp only
    repeat rw [if_neg (by decide)]
    rw [if_pos rfl, shown, given]

/-! ### What an event writes -/

/-- What an event writes into the views, if it is wired to them: those of the simulator that it
displays, but for the status of a refusal. -/
structure Exhibits (session : Session) (trigger : Trigger) (display? : Option Display) :
    Prop where
  wired : display?.isSome = trigger.writesViews
  current : ∀ display, display? = some display →
    display.views = { views display.simulator with
      status := (session.refusal? trigger).getD display.simulator.lastAction.text }

theorem views_with_last_action (simulator : Simulator) :
    { views simulator with status := simulator.lastAction.text } = views simulator := by
  dsimp only [views]

theorem exhibits_none (session : Session) {trigger : Trigger}
    (silent : trigger.writesViews = false) : session.Exhibits trigger none where
  wired := silent.symm
  current display given := by contradiction

theorem exhibits_views (session : Session) {trigger : Trigger}
    (writes : trigger.writesViews = true) (accepted : session.refusal? trigger = none)
    (simulator : Simulator) :
    session.Exhibits trigger (Response.displaying simulator).display? where
  wired := writes.symm
  current display given := by
    obtain rfl := Option.some.inj given
    rw [accepted, Option.getD_none]
    exact (views_with_last_action simulator).symm

/-- Of an assembled program all lines found room; of a refused one the message says how many cells
were missing. -/
theorem exhibits_assembleSized [Provision] {session : Session} {simulator : Simulator} {size : Int}
    {response : Response} (sized : requestedSize (session.entry .memorySize) = .ok size)
    (responds : (assembleSized simulator (session.entry .source) (session.entry .x)
      (session.entry .y) (session.entry .z) size).answer = .ok response) :
    session.Exhibits .assemble response.display? := by
  have writes : Trigger.assemble.writesViews = true := by decide
  obtain ⟨target, source, chosen, given, _, answered⟩ := assembleSized_cases responds
  have refusal : session.refusal? .assemble =
      if size < (Assembly.programLines source.toList).length + 3 then
        some ("Error: " ++ ("Program and data need " ++
          Numeral.text ((Assembly.programLines source.toList).length + 3) ++
            " cells but memory has " ++ Numeral.text size))
      else none := by
    rw [refusal?, sized, given]
    rfl
  rcases answered with ⟨loaded, rfl⟩ | ⟨required, available, refused, rfl⟩
  · apply exhibits_views session writes
    obtain ⟨image, made⟩ := Simulator.assembled_of_loadProgram loaded
    obtain ⟨enough, _, _⟩ := Assembly.imageCells_of_assemble made
    rw [memorySize_candidate chosen] at enough
    rw [refusal, if_neg (Int.not_lt.mpr enough)]
  · refine ⟨writes.symm, ?_⟩
    intro display given
    obtain rfl := Option.some.inj given
    obtain ⟨scarce, rfl, rfl⟩ := Simulator.capacity_of_loadProgram refused
    rw [memorySize_candidate chosen] at scarce ⊢
    rw [refusal, if_pos scarce]
    rfl

theorem exhibits_performing [Provision] (session : Session) {trigger : Trigger}
    (writes : trigger.writesViews = true) (accepted : session.refusal? trigger = none)
    {simulator : Simulator} {command : Command} {respond : Simulator → Response}
    {response : Response} (responds : (performing simulator command respond).answer = .ok response)
    (displays : ∀ changed, (respond changed).display? = (Response.displaying changed).display?) :
    session.Exhibits trigger response.display? := by
  rw [response_of_performing responds, displays]
  exact exhibits_views session writes accepted _

theorem Intact.exhibits [Provision] {session : Session} (intact : session.Intact)
    {trigger : Trigger} {response : Response}
    (responds : (session.respond trigger).answer = .ok response) :
    session.Exhibits trigger response.display? := by
  cases trigger with
  | loadTemplate =>
      obtain ⟨mnemonic, _, made⟩ := exists_of_bind responds
      rw [← Except.ok.inj made]
      exact exhibits_none session (by decide)
  | assemble =>
      unfold respond at responds
      dsimp only at responds
      split at responds
      · next size sized =>
          rw [intact.driving] at responds
          exact exhibits_assembleSized sized responds
      · contradiction
  | step =>
      rw [respond, intact.driving] at responds
      exact exhibits_performing session (by decide) rfl responds fun _ => rfl
  | toggleRun =>
      rw [respond, intact.driving] at responds
      split at responds
      all_goals
        rw [← Except.ok.inj responds]
        exact exhibits_none session (by decide)
  | tick =>
      rw [respond, intact.driving, answer_tick] at responds
      rw [← Except.ok.inj responds]
      exact exhibits_views session (by decide) rfl _
  | changeSpeed =>
      obtain ⟨milliseconds, _, made⟩ := exists_of_bind responds
      rw [← Except.ok.inj made]
      exact exhibits_none session (by decide)
  | reset =>
      rw [respond, intact.driving] at responds
      exact exhibits_performing session (by decide) rfl responds fun _ => rfl
  | loadSample =>
      rw [respond, intact.driving] at responds
      exact exhibits_performing session (by decide) rfl responds fun _ => rfl
  | clearMemory =>
      rw [respond, intact.driving] at responds
      exact exhibits_performing session (by decide) rfl responds fun _ => rfl
  | writeCell =>
      rw [respond, intact.driving, writeCell] at responds
      split at responds
      · exact exhibits_performing session (by decide) rfl responds fun _ => rfl
      · contradiction
  | opening =>
      rw [respond, intact.driving] at responds
      rw [← Except.ok.inj responds]
      exact exhibits_views session (by decide) rfl session.simulator

/-! ### Sessions -/

theorem views?_absorb (session : Session) (response : Response) :
    (session.absorb response).views? =
      match response.display? with
      | some display => some display.views
      | none => session.views? := by
  obtain ⟨display?, active?, interval?, running?, source?⟩ := response
  cases display? <;> cases active? <;> cases interval? <;> cases running? <;> cases source? <;> rfl

/-- After an event that writes the views the page shows the simulator that it holds then. -/
theorem Intact.views?_of_displays [Provision] {session : Session} (intact : session.Intact)
    {trigger : Trigger} (displayed : session.displays (.fire trigger) = true) :
    let page := session.after (.fire trigger)
    page.views? = some { views page.simulator with
      status := (session.refusal? trigger).getD page.simulator.lastAction.text } := by
  intro page
  obtain ⟨writes, completed⟩ := Bool.and_eq_true_iff.mp displayed
  cases answer : (session.respond trigger).answer with
  | error fault =>
      rw [fire_of_fault answer] at completed
      contradiction
  | ok response =>
      obtain ⟨wired, current⟩ := intact.exhibits answer
      have reached : page = session.absorb response := after_fire_of_response answer
      rw [reached, views?_absorb, simulator_absorb]
      cases given : response.display? with
      | none =>
          rw [given, writes] at wired
          contradiction
      | some display => exact congrArg some (current display given)

/-- Any other deed changes neither the views nor the simulator. -/
theorem Intact.views?_of_not_displays [Provision] {session : Session} (intact : session.Intact)
    {deed : Deed} (other : session.displays deed = false) :
    (session.after deed).views? = session.views? ∧
      (session.after deed).simulator = session.simulator := by
  cases deed with
  | enter component cell => exact ⟨rfl, rfl⟩
  | fire trigger =>
      cases answer : (session.respond trigger).answer with
      | error fault =>
          rw [after_fire_of_fault answer]
          exact ⟨rfl, rfl⟩
      | ok response =>
          obtain ⟨wired, _⟩ := intact.exhibits answer
          have silent : trigger.writesViews = false := by
            rw [displays, fire_of_response answer] at other
            exact (Bool.and_eq_false_iff.mp other).resolve_right Bool.false_ne_true.symm
          rw [after_fire_of_response answer, views?_absorb, simulator_absorb]
          cases given : response.display? with
          | none => exact ⟨rfl, rfl⟩
          | some display =>
              rw [given, silent] at wired
              contradiction

/-- The views are those of the simulator that the page holds, whatever the status says. -/
def UpToDate (session : Session) : Prop :=
  ∃ status, session.views? = some { views session.simulator with status := status }

theorem Intact.upToDate_after [Provision] {session : Session} (intact : session.Intact)
    (upToDate : session.UpToDate) (deed : Deed) : (session.after deed).UpToDate := by
  cases writes : session.displays deed with
  | false =>
      obtain ⟨status, given⟩ := upToDate
      obtain ⟨kept, same⟩ := intact.views?_of_not_displays writes
      exact ⟨status, by rw [kept, same, given]⟩
  | true =>
      cases deed with
      | enter component cell => contradiction
      | fire trigger => exact ⟨_, intact.views?_of_displays writes⟩

theorem Intact.upToDate_afterAll [Provision] {session : Session} (intact : session.Intact)
    (upToDate : session.UpToDate) {deeds : List Deed}
    (ofUser : ∀ deed ∈ deeds, deed.isOfUser = true) : (session.afterAll deeds).UpToDate := by
  induction deeds generalizing session with
  | nil => exact upToDate
  | cons deed rest previous =>
      apply previous (intact.after (ofUser deed List.mem_cons_self))
        (intact.upToDate_after upToDate deed)
      intro later among
      exact ofUser later (List.mem_cons_of_mem deed among)

/-- Deeds that write no views leave them and the simulator as they were. -/
theorem Intact.views?_afterAll [Provision] {session : Session} (intact : session.Intact)
    {deeds : List Deed} (ofUser : ∀ deed ∈ deeds, deed.isOfUser = true)
    (others : ∀ (index : Nat) (inside : index < deeds.length),
      (session.afterAll (deeds.take index)).displays deeds[index] = false) :
    (session.afterAll deeds).views? = session.views? ∧
      (session.afterAll deeds).simulator = session.simulator := by
  induction deeds generalizing session with
  | nil => exact ⟨rfl, rfl⟩
  | cons deed rest previous =>
      obtain ⟨kept, same⟩ := intact.views?_of_not_displays (others 0 (Nat.zero_lt_succ _))
      rw [← kept, ← same]
      apply previous (intact.after (ofUser deed List.mem_cons_self))
      · intro later among
        exact ofUser later (List.mem_cons_of_mem deed among)
      · intro index inside
        exact others (index + 1) (Nat.succ_lt_succ inside)

/-- From the first event on that writes the views and does not fail, a page in the hands of a user
shows the registers, memory, outputs and history of the simulator that it holds. What its status
says was settled by the last such event: it is the last action of the simulator, or the message of
the refusal if that event refused a program. -/
theorem page_shows_the_simulator_that_it_holds [Provision]
    (before later : List Deed) (trigger : Trigger)
    (ofUser : ∀ deed ∈ before ++ .fire trigger :: later, deed.isOfUser = true)
    (displayed : (opened.afterAll before).displays (.fire trigger) = true) :
    let page := opened.afterAll (before ++ .fire trigger :: later)
    ∃ status, page.Shows status ∧
      ((∀ (index : Nat) (inside : index < later.length),
          (opened.afterAll (before ++ .fire trigger :: later.take index)).displays later[index] =
            false) →
        status =
          ((opened.afterAll before).refusal? trigger).getD page.simulator.lastAction.text) := by
  intro page
  let first := (opened.afterAll before).after (.fire trigger)
  have onward (deeds : List Deed) :
      opened.afterAll (before ++ .fire trigger :: deeds) = first.afterAll deeds :=
    List.foldl_append
  have beforeOfUser : ∀ deed ∈ before, deed.isOfUser = true := fun deed among =>
    ofUser deed (List.mem_append_left _ among)
  have laterOfUser : ∀ deed ∈ later, deed.isOfUser = true := fun deed among =>
    ofUser deed (List.mem_append_right _ (List.mem_cons_of_mem _ among))
  have start : (opened.afterAll before).Intact := intact_opened.afterAll beforeOfUser
  have intact : first.Intact := start.after rfl
  have given := start.views?_of_displays displayed
  have reached : page = first.afterAll later := onward later
  obtain ⟨status, current⟩ := intact.upToDate_afterAll ⟨_, given⟩ laterOfUser
  rw [reached]
  refine ⟨status, (intact.afterAll laterOfUser).shows current, ?_⟩
  intro others
  have silent (index : Nat) (inside : index < later.length) :
      (first.afterAll (later.take index)).displays later[index] = false := by
    rw [← onward]
    exact others index inside
  obtain ⟨kept, same⟩ := intact.views?_afterAll laterOfUser silent
  rw [kept, same, given] at current
  rw [same]
  exact (congrArg Views.status (Option.some.inj current)).symm

section

open scoped Provision

/-- A program that is refused after the sample has run, a press of the run button, and an edit that
fails: the page goes on to show the sample, with the message of the refusal. -/
theorem refused_program_leaves_its_message :
    let before : List Deed :=
      [.fire .loadSample, .fire .tick, .enter .memorySize (.int 5),
        .enter .source (.text "LOAD X\nOUT // 1\nHLT")]
    let later : List Deed :=
      [.fire .toggleRun, .enter .cellAddress (.text "one"), .fire .writeCell]
    (opened.afterAll (before ++ .fire .assemble :: later)).Shows
      "Error: Program and data need 6 cells but memory has 5" := by
  intro before later
  have ofUser : ∀ deed ∈ before ++ .fire .assemble :: later, deed.isOfUser = true := by decide
  have displayed : (opened.afterAll before).displays (.fire .assemble) = true := by decide +kernel
  have refused : (opened.afterAll before).refusal? .assemble =
      some "Error: Program and data need 6 cells but memory has 5" := by decide +kernel
  have others : ∀ (index : Nat) (inside : index < later.length),
      (opened.afterAll (before ++ .fire .assemble :: later.take index)).displays later[index] =
        false := by
    decide +kernel
  obtain ⟨status, shows, settled⟩ :=
    page_shows_the_simulator_that_it_holds before later .assemble ofUser displayed
  have message := settled others
  rw [refused, Option.getD_some] at message
  exact message ▸ shows

end

end Session

end Accumulator.Page
