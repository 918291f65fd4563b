import Accumulator.Proofs.Page.Intact

set_option autoImplicit false

/-!
Events follow the wiring. What an event responds depends on nothing but the contents of the
components that are wired to it as inputs. When it completes, the components that are wired to it as
outputs hold what it has responded, and every other component holds what it held before.
-/

namespace Accumulator.Page

/-! ### Reading -/

/-- The simulator that a component holds, if it holds one. -/
def Content.simulator? : Content → Except Fault Simulator
  | .simulator held => .ok held
  | _ => .error .wrongKind

/-- Whether what a component holds counts as a raised flag. -/
def Content.isRaised : Content → Bool
  | .cell entered => isGiven entered
  | _ => false

namespace Session

variable {session left right : Session}

/-- A component with no part of its own in the session shows the value that it was given. -/
theorem content_of_plain {component : Component}
    (vacant : session.entered.lookup component = none) (simulator : component ≠ .simulator)
    (running : component ≠ .running) (timer : component ≠ .timer)
    (views : component ∉ viewComponents) :
    session.content component = .cell (initialValue component) := by
  simp only [viewComponents, List.mem_cons, List.not_mem_nil, or_false, not_or] at views
  obtain ⟨status, registers, memory, outputs, history⟩ := views
  unfold content
  rw [vacant]
  dsimp only
  rw [if_neg simulator, if_neg running, if_neg timer, if_neg status, if_neg registers,
    if_neg memory, if_neg outputs, if_neg history]

theorem content_of_entry {component : Component} (entered : component ∈ entryComponents) :
    session.content component = .cell (session.entry component) := by
  obtain ⟨simulator, running, timer, views⟩ : component ≠ .simulator ∧ component ≠ .running ∧
      component ≠ .timer ∧ component ∉ viewComponents := by
    revert component
    decide
  cases given : session.entered.lookup component with
  | some cell => rw [content, entry, given, Option.getD_some]
  | none =>
      rw [content_of_plain given simulator running timer views, entry, given, Option.getD_none]

theorem entry_congr {component : Component} (entered : component ∈ entryComponents)
    (alike : left.content component = right.content component) :
    left.entry component = right.entry component := by
  rw [content_of_entry entered, content_of_entry entered] at alike
  exact Content.cell.inj alike

theorem currentSimulator_eq (session : Session) :
    session.currentSimulator = (session.content .simulator).simulator? := by
  unfold currentSimulator content
  cases session.entered.lookup .simulator with
  | some cell => rfl
  | none => rfl

theorem isRunning_eq (session : Session) :
    session.isRunning = (session.content .running).isRaised := by
  unfold isRunning content
  cases session.entered.lookup .running with
  | some cell => rfl
  | none => rfl

theorem answer_driving_congr {first second : Simulator → Outcome Response}
    (alike : left.content .simulator = right.content .simulator)
    (same : ∀ simulator, (first simulator).answer = (second simulator).answer) :
    (left.driving first).answer = (right.driving second).answer := by
  unfold driving
  rw [currentSimulator_eq left, currentSimulator_eq right, alike]
  cases (right.content .simulator).simulator? with
  | ok simulator => exact same simulator
  | error fault => rfl

/-- The response is a function of the inputs. -/
theorem answer_respond_congr [Provision] {wire : Wire} (wired : wire ∈ wires)
    (alike : ∀ component ∈ wire.inputs, left.content component = right.content component) :
    (left.respond wire.trigger).answer = (right.respond wire.trigger).answer := by
  have entry (component : Component) (input : component ∈ wire.inputs)
      (entered : component ∈ entryComponents) :
      left.entry component = right.entry component :=
    entry_congr entered (alike component input)
  simp only [wires, List.mem_cons, List.not_mem_nil, or_false] at wired
  rcases wired with rfl | rfl | rfl | rfl | rfl | rfl | rfl | rfl | rfl | rfl | rfl
  · change loadTemplate _ = loadTemplate _
    rw [entry .template (by decide) (by decide)]
  · unfold respond
    dsimp only
    rw [entry .memorySize (by decide) (by decide), entry .source (by decide) (by decide),
      entry .x (by decide) (by decide), entry .y (by decide) (by decide),
      entry .z (by decide) (by decide)]
    split
    · exact answer_driving_congr (alike _ (by decide)) fun _ => rfl
    · rfl
  · exact answer_driving_congr (alike _ (by decide)) fun _ => rfl
  · unfold respond
    dsimp only
    rw [isRunning_eq left, isRunning_eq right, alike .running (by decide)]
    split
    · rfl
    · exact answer_driving_congr (alike _ (by decide)) fun _ => rfl
  · exact answer_driving_congr (alike _ (by decide)) fun _ => rfl
  · change changeSpeed _ = changeSpeed _
    rw [entry .speed (by decide) (by decide)]
  · exact answer_driving_congr (alike _ (by decide)) fun _ => rfl
  · exact answer_driving_congr (alike _ (by decide)) fun _ => rfl
  · exact answer_driving_congr (alike _ (by decide)) fun _ => rfl
  · unfold respond
    dsimp only
    rw [entry .cellAddress (by decide) (by decide), entry .cellText (by decide) (by decide)]
    exact answer_driving_congr (alike _ (by decide)) fun _ => rfl
  · exact answer_driving_congr (alike _ (by decide)) fun _ => rfl

end Session

/-! ### Writing -/

/-- What a display puts into a component. -/
def Display.content? (display : Display) (component : Component) : Option Content :=
  if component = .simulator then some (.simulator display.simulator)
  else if component = .status then some (.cell (.text display.views.status))
  else if component = .registers then some (.cell (.text display.views.registers))
  else if component = .memory then some (.rows display.views.memory)
  else if component = .outputs then some (.cell (.text display.views.outputs))
  else if component = .history then some (.cell (.text display.views.history))
  else none

namespace Response

/-- What a response makes of the timer, if it writes it. A setting that is not given stays. -/
def timer? (response : Response) (timer : Timer) : Option Timer :=
  if response.active?.isNone && response.interval?.isNone then none
  else
    some
      { interval := response.interval?.getD timer.interval
        active := response.active?.getD timer.active }

/-- What a response puts into a component, if it writes it. -/
def content? (response : Response) (timer : Timer) (component : Component) : Option Content :=
  if component = .source then response.source?.map fun source => .cell (.text source)
  else if component = .running then response.running?.map fun running => .cell (.flag running)
  else if component = .timer then (response.timer? timer).map .timer
  else response.display?.bind fun display => display.content? component

/-- The components that a response writes, in the order of the wiring. -/
def components (response : Response) : List Component :=
  (if response.display?.isSome then displayComponents else []) ++
    (if response.active?.isSome || response.interval?.isSome then [.timer] else []) ++
    (if response.running?.isSome then [.running] else []) ++
    if response.source?.isSome then [.source] else []

end Response

theorem Display.content?_isSome_iff (display : Display) (component : Component) :
    (display.content? component).isSome = true ↔ component ∈ displayComponents := by
  unfold content? displayComponents viewComponents
  simp only [List.mem_cons, List.not_mem_nil, or_false]
  repeat' split
  all_goals simp_all

theorem Response.content?_isSome_iff (response : Response) (timer : Timer) (component : Component) :
    (response.content? timer component).isSome = true ↔ component ∈ response.components := by
  have written : component ∈ response.components ↔
      (response.display?.isSome = true ∧ component ∈ displayComponents) ∨
        ((response.active?.isSome || response.interval?.isSome) = true ∧ component = .timer) ∨
        (response.running?.isSome = true ∧ component = .running) ∨
        (response.source?.isSome = true ∧ component = .source) := by
    simp only [components, List.mem_append, List.mem_ite_nil_right, List.mem_singleton, or_assoc]
  rw [written, content?]
  by_cases source : component = .source
  · subst source
    rw [if_pos rfl, Option.isSome_map]
    have apart : Component.source ∉ displayComponents ∧ Component.source ≠ .timer ∧
        Component.source ≠ .running := by decide
    simp [apart]
  rw [if_neg source]
  by_cases running : component = .running
  · subst running
    rw [if_pos rfl, Option.isSome_map]
    have apart : Component.running ∉ displayComponents ∧ Component.running ≠ .timer := by decide
    simp [apart, source]
  rw [if_neg running]
  by_cases timed : component = .timer
  · subst timed
    rw [if_pos rfl, Option.isSome_map, timer?]
    have apart : Component.timer ∉ displayComponents := by decide
    cases response.active? <;> cases response.interval? <;> simp [apart, running, source]
  rw [if_neg timed]
  cases response.display? with
  | none => simp [timed, running, source]
  | some display => simp [display.content?_isSome_iff, timed, running, source]

namespace Session

variable {session left right : Session}

theorem lookup_discard (session : Session) (components : List Component) (component : Component) :
    (session.discard components).entered.lookup component =
      if component ∈ components then none else session.entered.lookup component := by
  unfold discard
  dsimp only
  induction session.entered with
  | nil => simp
  | cons first rest previous =>
      obtain ⟨target, cell⟩ := first
      by_cases dropped : target ∈ components
      · rw [List.filter_cons_of_neg (by simpa using dropped), previous]
        by_cases same : component = target
        · subst same
          rw [if_pos dropped, if_pos dropped]
        · rw [List.lookup_cons, beq_false_of_ne same]
      · rw [List.filter_cons_of_pos (by simpa using dropped)]
        by_cases same : component = target
        · subst same
          rw [List.lookup_cons_self, if_neg dropped, List.lookup_cons_self]
        · rw [List.lookup_cons, List.lookup_cons, beq_false_of_ne same]
          exact previous

theorem lookup_discard_singleton (session : Session) (target component : Component) :
    (session.discard [target]).entered.lookup component =
      if component = target then none else session.entered.lookup component := by
  simp only [lookup_discard, List.mem_singleton]

/-- What a component shows hangs on the cell that was entered into it and on its own part of the
session. -/
theorem content_congr {component : Component}
    (lookup : left.entered.lookup component = right.entered.lookup component)
    (simulator : component = .simulator → left.simulator = right.simulator)
    (running : component = .running → left.running = right.running)
    (timer : component = .timer → left.timer = right.timer)
    (views : component ∈ viewComponents → left.views? = right.views?) :
    left.content component = right.content component := by
  cases given : right.entered.lookup component with
  | some cell => rw [content, content, lookup, given]
  | none =>
      have vacant := lookup.trans given
      by_cases held : component = .simulator
      · rw [content, content, vacant, given, simulator held]
        rw [if_pos held, if_pos held]
      by_cases flagged : component = .running
      · rw [content, content, vacant, given, running flagged]
        rw [if_neg held, if_neg held, if_pos flagged, if_pos flagged]
      by_cases timed : component = .timer
      · rw [content, content, vacant, given, timer timed]
        rw [if_neg held, if_neg held, if_neg flagged, if_neg flagged, if_pos timed, if_pos timed]
      by_cases viewed : component ∈ viewComponents
      · unfold content shown
        rw [vacant, given, views viewed]
        rw [if_neg held, if_neg held, if_neg flagged, if_neg flagged, if_neg timed, if_neg timed]
      · rw [content_of_plain vacant held flagged timed viewed,
          content_of_plain given held flagged timed viewed]

theorem content_absorbDisplay (session : Session) (display? : Option Display)
    (component : Component) :
    (session.absorbDisplay display?).content component =
      (display?.bind fun display => display.content? component).getD
        (session.content component) := by
  cases display? with
  | none => rfl
  | some display =>
      have lookup := session.lookup_discard displayComponents component
      by_cases written : component ∈ displayComponents
      · rw [if_pos written] at lookup
        unfold displayComponents viewComponents at written
        simp only [List.mem_cons, List.not_mem_nil, or_false] at written
        rcases written with rfl | rfl | rfl | rfl | rfl | rfl
        all_goals
          rw [absorbDisplay, content, lookup]
          rfl
      · rw [if_neg written] at lookup
        have silent : display.content? component = none := by
          rw [← Option.not_isSome_iff_eq_none, display.content?_isSome_iff]
          exact written
        rw [Option.bind_some, silent, Option.getD_none]
        refine content_congr lookup ?_ (fun _ => rfl) (fun _ => rfl) ?_
        · intro held
          exact absurd (held ▸ List.mem_cons_self) written
        · intro viewed
          exact absurd (List.mem_cons_of_mem _ viewed) written

theorem content_absorbTimer (session : Session) (response : Response) (component : Component) :
    (session.absorbTimer response.active? response.interval?).content component =
      if component = .timer then
        ((response.timer? session.timer).map .timer).getD (session.content component)
      else session.content component := by
  unfold absorbTimer Response.timer?
  by_cases silent : (response.active?.isNone && response.interval?.isNone) = true
  · rw [if_pos silent, if_pos silent]
    split
    · rfl
    · rfl
  · rw [if_neg silent, if_neg silent]
    have lookup := session.lookup_discard_singleton .timer component
    by_cases timed : component = .timer
    · subst timed
      rw [if_pos rfl] at lookup ⊢
      rw [content, lookup]
      rfl
    · rw [if_neg timed] at lookup ⊢
      exact content_congr lookup (fun _ => rfl) (fun _ => rfl) (absurd · timed) fun _ => rfl

theorem content_absorbRunning (session : Session) (running? : Option Bool)
    (component : Component) :
    (session.absorbRunning running?).content component =
      if component = .running then
        (running?.map fun running => .cell (.flag running)).getD (session.content component)
      else session.content component := by
  cases running? with
  | none =>
      split
      · rfl
      · rfl
  | some running =>
      have lookup := session.lookup_discard_singleton .running component
      by_cases flagged : component = .running
      · subst flagged
        rw [if_pos rfl] at lookup ⊢
        rw [absorbRunning, content, lookup]
        rfl
      · rw [if_neg flagged] at lookup ⊢
        exact content_congr lookup (fun _ => rfl) (absurd · flagged) (fun _ => rfl) fun _ => rfl

/-- The source text is put in like a cell that the user enters. -/
theorem content_absorbSource (session : Session) (source? : Option String)
    (component : Component) :
    (session.absorbSource source?).content component =
      if component = .source then
        (source?.map fun source => .cell (.text source)).getD (session.content component)
      else session.content component := by
  cases source? with
  | none =>
      split
      · rfl
      · rfl
  | some source =>
      by_cases sourced : component = .source
      · subst sourced
        rfl
      · have lookup : (session.absorbSource (some source)).entered.lookup component =
            session.entered.lookup component := by
          change (((.source, .text source) :: _ : List (Component × Cell))).lookup component = _
          rw [List.lookup_cons, beq_false_of_ne sourced]
          dsimp only
          rw [lookup_discard_singleton, lookup_discard_singleton, if_neg sourced, if_neg sourced]
        rw [if_neg sourced]
        exact content_congr lookup (fun _ => rfl) (fun _ => rfl) (fun _ => rfl) fun _ => rfl

theorem content_absorb (session : Session) (response : Response) (component : Component) :
    (session.absorb response).content component =
      (response.content? session.timer component).getD (session.content component) := by
  have kept : (session.absorbDisplay response.display?).timer = session.timer := by
    cases response.display? <;> rfl
  have blank {component : Component} (other : component ∉ displayComponents) :
      (response.display?.bind fun display => display.content? component) = none := by
    cases response.display? with
    | none => rfl
    | some display =>
        rw [Option.bind_some, ← Option.not_isSome_iff_eq_none, display.content?_isSome_iff]
        exact other
  unfold absorb Response.content?
  rw [content_absorbSource, content_absorbRunning, content_absorbTimer, content_absorbDisplay, kept]
  by_cases source : component = .source
  · subst source
    rw [if_pos rfl, if_pos rfl, if_neg (by decide), if_neg (by decide), blank (by decide)]
    rfl
  rw [if_neg source, if_neg source]
  by_cases running : component = .running
  · subst running
    rw [if_pos rfl, if_pos rfl, if_neg (by decide), blank (by decide)]
    rfl
  rw [if_neg running, if_neg running]
  by_cases timed : component = .timer
  · subst timed
    rw [if_pos rfl, if_pos rfl, blank (by decide)]
    rfl
  rw [if_neg timed, if_neg timed]

/-! ### Events -/

theorem exists_of_driving {handler : Simulator → Outcome Response} {response : Response}
    (responds : (session.driving handler).answer = .ok response) :
    ∃ simulator, (handler simulator).answer = .ok response := by
  unfold driving at responds
  split at responds
  · next simulator _ => exact ⟨simulator, responds⟩
  · contradiction

theorem components_of_performing [Provision] {simulator : Simulator} {command : Command}
    {respond : Simulator → Response} {response : Response} {written : List Component}
    (responds : (performing simulator command respond).answer = .ok response)
    (named : ∀ changed, (respond changed).components = written) :
    response.components = written := by
  rw [response_of_performing responds]
  exact named _

/-- A response names just the components that are wired as outputs, in their order. -/
theorem components_of_response [Provision] {wire : Wire} (wired : wire ∈ wires)
    {response : Response} (responds : (session.respond wire.trigger).answer = .ok response) :
    response.components = wire.outputs := by
  simp only [wires, List.mem_cons, List.not_mem_nil, or_false] at wired
  rcases wired with rfl | rfl | rfl | rfl | rfl | rfl | rfl | rfl | rfl | rfl | rfl
  · obtain ⟨mnemonic, _, made⟩ := exists_of_bind responds
    rw [← Except.ok.inj made]
    rfl
  · unfold respond at responds
    dsimp only at responds
    split at responds
    · obtain ⟨simulator, assembled⟩ := exists_of_driving responds
      obtain ⟨target, text, _, _, _, ⟨_, rfl⟩ | ⟨required, available, _, rfl⟩⟩ :=
        assembleSized_cases assembled
      · rfl
      · rfl
    · contradiction
  · obtain ⟨simulator, made⟩ := exists_of_driving responds
    exact components_of_performing made fun _ => rfl
  · unfold respond at responds
    dsimp only at responds
    split at responds
    · rw [← Except.ok.inj responds]
      rfl
    · obtain ⟨simulator, made⟩ := exists_of_driving responds
      rw [← Except.ok.inj made]
      rfl
  · obtain ⟨simulator, made⟩ := exists_of_driving responds
    rw [answer_tick] at made
    rw [← Except.ok.inj made]
    rfl
  · obtain ⟨milliseconds, _, made⟩ := exists_of_bind responds
    rw [← Except.ok.inj made]
    rfl
  · obtain ⟨simulator, made⟩ := exists_of_driving responds
    exact components_of_performing made fun _ => rfl
  · obtain ⟨simulator, made⟩ := exists_of_driving responds
    exact components_of_performing made fun _ => rfl
  · obtain ⟨simulator, made⟩ := exists_of_driving responds
    exact components_of_performing made fun _ => rfl
  · obtain ⟨simulator, made⟩ := exists_of_driving responds
    unfold writeCell at made
    split at made
    · exact components_of_performing made fun _ => rfl
    · contradiction
  · obtain ⟨simulator, made⟩ := exists_of_driving responds
    rw [← Except.ok.inj made]
    rfl

/-- Every event is wired once. Its answer depends on the inputs alone; when it completes, it has
written its outputs and nothing else, and when it fails, nothing at all. -/
theorem events_follow_the_wiring [Provision] (trigger : Trigger) :
    ∃ wire ∈ wires, wire.trigger = trigger ∧
      wire? wire.target wire.event.name = some wire ∧
      (∀ other ∈ wires, other.trigger = trigger → other = wire) ∧
      (∀ left right : Session,
        (∀ component ∈ wire.inputs, left.content component = right.content component) →
          (left.respond trigger).answer = (right.respond trigger).answer) ∧
      ∀ session : Session,
        match (session.respond trigger).answer with
        | .ok response =>
          session.fire trigger = (session.absorb response, .ok ()) ∧
            ∀ component,
              (component ∈ wire.outputs ↔
                (response.content? session.timer component).isSome = true) ∧
              (session.absorb response).content component =
                (response.content? session.timer component).getD (session.content component)
        | .error fault => session.fire trigger = (session, .error fault) := by
  obtain ⟨wire, wired, rfl, found, alone⟩ : ∃ wire ∈ wires, wire.trigger = trigger ∧
      wire? wire.target wire.event.name = some wire ∧
      ∀ other ∈ wires, other.trigger = trigger → other = wire := by
    cases trigger <;> decide
  refine ⟨wire, wired, rfl, found, alone, fun _ _ => answer_respond_congr wired, ?_⟩
  intro session
  cases answer : (session.respond wire.trigger).answer with
  | ok response =>
      refine ⟨fire_of_response answer, fun component => ⟨?_, session.content_absorb response _⟩⟩
      rw [response.content?_isSome_iff, components_of_response wired answer]
  | error fault => exact fire_of_fault answer

end Session

end Accumulator.Page
