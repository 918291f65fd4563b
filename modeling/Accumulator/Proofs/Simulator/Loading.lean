import Accumulator.Proofs.Assembly.Image
import Accumulator.Simulator.Command

set_option autoImplicit false

/-!
Loading a program is all or nothing. A load that succeeds leaves nothing of what the simulator did
before, and one that fails leaves everything but the last action, on which no later command depends.
-/

namespace Accumulator

/-- An image, too few cells, or something else that assembly fails for. -/
theorem Assembly.assemble_cases [Provision] (source : String) (bindings : Bindings)
    (memorySize : Int) :
    (∃ image, assemble source bindings memorySize = .ok image) ∨
      (∃ required size,
        assemble source bindings memorySize = .error (.capacity required size)) ∨
      ∃ fault, assemble source bindings memorySize = .error fault ∧
        ∀ required size, fault ≠ .capacity required size := by
  cases answer : assemble source bindings memorySize with
  | ok image => exact .inl ⟨image, rfl⟩
  | error fault =>
      right
      by_cases scarce : ∃ required size, fault = .capacity required size
      · obtain ⟨required, size, rfl⟩ := scarce
        exact .inl ⟨required, size, rfl⟩
      · exact .inr ⟨fault, rfl, fun required size same => scarce ⟨required, size, same⟩⟩

def Simulator.relabelled (simulator : Simulator) (action : Action) : Simulator :=
  { simulator with lastAction := action }

def Outcome.relabelled {Answer : Type} (outcome : Outcome Answer) (action : Action) :
    Outcome Answer :=
  { outcome with simulator := outcome.simulator.relabelled action }

/-- What a command lets a caller see, apart from the last action. -/
structure Observation where
  answer : Except Fault (List Entry)
  notes : List Note
  state : State
  history : History
  steps : Nat

namespace Simulator

/-- What a caller sees of each command of a session. -/
def transcript [Provision] (simulator : Simulator) : List Command → List Observation
  | [] => []
  | command :: rest =>
    let outcome := simulator.perform command
    let next := outcome.simulator
    { answer := outcome.answer
      notes := outcome.notes
      state := next.state
      history := next.history
      steps := next.steps } :: next.transcript rest

/-! ### Loads by what assembly answers -/

section Load

variable [Provision] (simulator : Simulator) {source : String} {bindings : Assembly.Bindings}

theorem loadProgram_of_assembled {image : List Cell}
    (made : Assembly.assemble source bindings simulator.memorySize = .ok image) :
    simulator.loadProgram source bindings =
      { simulator := simulator.restart (State.initial image) .programLoaded
        answer := .ok ()
        notes := assemblyNotes source simulator.memorySize ++ [.loaded simulator.memorySize] } := by
  unfold loadProgram
  rw [made]

theorem loadProgram_of_scarce {required : Nat} {size : Int}
    (refused : Assembly.assemble source bindings simulator.memorySize =
      .error (.capacity required size)) :
    simulator.loadProgram source bindings =
      { simulator := simulator.relabelled (.rejected (.capacity required size))
        answer := .error (.capacity required size)
        notes := assemblyNotes source simulator.memorySize ++
          [.rejected (.capacity required size)] } := by
  unfold loadProgram
  rw [refused]
  rfl

theorem loadProgram_of_refused {fault : Fault}
    (refused : Assembly.assemble source bindings simulator.memorySize = .error fault)
    (other : ∀ required size, fault ≠ .capacity required size) :
    simulator.loadProgram source bindings =
      { simulator := simulator
        answer := .error fault
        notes := assemblyNotes source simulator.memorySize } := by
  unfold loadProgram
  rw [refused]
  cases fault with
  | capacity required size => exact absurd rfl (other required size)
  | _ => rfl

theorem memorySize_loadProgram (source : String) (bindings : Assembly.Bindings) :
    (simulator.loadProgram source bindings).simulator.memorySize = simulator.memorySize := by
  rcases Assembly.assemble_cases source bindings simulator.memorySize with
    ⟨image, made⟩ | ⟨required, size, refused⟩ | ⟨fault, refused, other⟩
  · rw [loadProgram_of_assembled simulator made]
    rfl
  · rw [loadProgram_of_scarce simulator refused]
    rfl
  · rw [loadProgram_of_refused simulator refused other]

end Load

/-! ### Nothing depends on the last action -/

section Relabelled

variable (simulator : Simulator) (action : Action)

/-- A loop that makes a step replaces the last action; one that makes none keeps it. -/
theorem advanceOnto_relabelled (done : List Transition) (budget : Nat) :
    ∃ later, advanceOnto done budget (simulator.relabelled action) =
      ((advanceOnto done budget simulator).1.relabelled later,
        (advanceOnto done budget simulator).2) := by
  cases budget with
  | zero => exact ⟨action, rfl⟩
  | succ budget =>
      unfold advanceOnto
      change ∃ later, (if simulator.state.halted then _ else _) = _
      split
      · exact ⟨action, rfl⟩
      · exact ⟨(advanceOnto (simulator.step.2 :: done) budget simulator.step.1).1.lastAction, rfl⟩

theorem finish_relabelled :
    ∃ later, (simulator.relabelled action).finish =
      (simulator.finish.1.relabelled later, simulator.finish.2) := by
  unfold finish
  change ∃ later, (if simulator.state.halted then _ else _) = _
  split
  · exact ⟨action, rfl⟩
  · change ∃ later, (if simulator.step.1.state.phase = .execute then _ else _) = _
    split
    · exact ⟨simulator.step.1.lastAction, rfl⟩
    · exact ⟨simulator.step.1.finish.1.lastAction, rfl⟩

theorem run_relabelled (limit? : Option Int) :
    ∃ later, (simulator.relabelled action).run limit? =
      (simulator.run limit?).relabelled later := by
  obtain ⟨later, same⟩ := simulator.advanceOnto_relabelled action []
    (limit?.getD simulator.stepLimit).toNat
  have limited : (simulator.relabelled action).stepLimit = simulator.stepLimit := rfl
  refine ⟨later, ?_⟩
  unfold run advance
  dsimp only
  rw [limited, same]
  change (if (advanceOnto [] _ simulator).1.state.halted then _ else _) = _
  split <;> rfl

theorem loadCells_relabelled (cells : List Cell) (label : Action) :
    ∃ later, (simulator.relabelled action).settled
        ((simulator.relabelled action).loadCells cells label) =
      (simulator.settled (simulator.loadCells cells label)).relabelled later := by
  unfold loadCells
  change ∃ later, settled _ (if overflows simulator.memorySize cells then _ else _) = _
  split
  · exact ⟨action, rfl⟩
  · exact ⟨label, rfl⟩

theorem loadProgram_relabelled [Provision] (source : String) (bindings : Assembly.Bindings) :
    ∃ later, (simulator.relabelled action).loadProgram source bindings =
      (simulator.loadProgram source bindings).relabelled later := by
  rcases Assembly.assemble_cases source bindings simulator.memorySize with
    ⟨image, made⟩ | ⟨required, size, refused⟩ | ⟨fault, refused, other⟩
  · rw [loadProgram_of_assembled simulator made,
      loadProgram_of_assembled (simulator.relabelled action) made]
    exact ⟨.programLoaded, rfl⟩
  · rw [loadProgram_of_scarce simulator refused,
      loadProgram_of_scarce (simulator.relabelled action) refused]
    exact ⟨.rejected (.capacity required size), rfl⟩
  · rw [loadProgram_of_refused simulator refused other,
      loadProgram_of_refused (simulator.relabelled action) refused other]
    exact ⟨action, rfl⟩

theorem editCell_relabelled (address : Int) (entered : Cell) :
    ∃ later, (simulator.relabelled action).settled
        ((simulator.relabelled action).editCell address entered) =
      (simulator.settled (simulator.editCell address entered)).relabelled later := by
  unfold editCell
  split
  · exact ⟨action, rfl⟩
  · exact ⟨action, rfl⟩

/-- A command answers, notes and changes the same whatever was done last. -/
theorem perform_relabelled [Provision] (command : Command) :
    ∃ later, (simulator.relabelled action).perform command =
      (simulator.perform command).relabelled later := by
  cases command with
  | loadMemory cells => exact simulator.loadCells_relabelled action cells .memoryLoaded
  | loadProgram source bindings =>
      obtain ⟨later, same⟩ := simulator.loadProgram_relabelled action source bindings
      refine ⟨later, ?_⟩
      unfold perform
      dsimp only
      rw [same]
      rfl
  | loadSample => exact simulator.loadCells_relabelled action Assembly.sample .sampleLoaded
  | clearMemory => exact ⟨.memoryCleared, rfl⟩
  | reset => exact ⟨.none, rfl⟩
  | editCell address entered => exact simulator.editCell_relabelled action address entered
  | step => exact ⟨simulator.step.1.lastAction, rfl⟩
  | stepInstruction =>
      obtain ⟨later, same⟩ := simulator.finish_relabelled action
      refine ⟨later, ?_⟩
      unfold perform stepInstruction
      dsimp only
      rw [same]
      rfl
  | run limit? => exact simulator.run_relabelled action limit?

theorem transcript_relabelled [Provision] (commands : List Command) :
    (simulator.relabelled action).transcript commands = simulator.transcript commands := by
  -- A command may leave the last action alone, so the two can go on differing in it.
  induction commands generalizing simulator action with
  | nil => rfl
  | cons command rest previous =>
      obtain ⟨later, same⟩ := simulator.perform_relabelled action command
      unfold transcript
      rw [same]
      dsimp only [Outcome.relabelled]
      rw [previous]
      rfl

end Relabelled

/-! ### Success and failure -/

section Outcome

variable [Provision] {simulator : Simulator} {source : String} {bindings : Assembly.Bindings}

theorem loadProgram_failed {fault : Fault}
    (failed : (simulator.loadProgram source bindings).answer = .error fault) :
    let loaded := (simulator.loadProgram source bindings).simulator
    let needed := (Assembly.programLines source.toList).length + 3
    loaded = simulator ∧ (∀ required size, fault ≠ .capacity required size) ∨
      fault = .capacity needed simulator.memorySize ∧
        loaded = simulator.relabelled (.rejected fault) := by
  intro loaded needed
  rcases Assembly.assemble_cases source bindings simulator.memorySize with
    ⟨image, made⟩ | ⟨required, size, refused⟩ | ⟨reason, refused, other⟩
  · rw [loadProgram_of_assembled simulator made] at failed
    contradiction
  · have outcome := loadProgram_of_scarce simulator refused
    obtain ⟨_, rfl, rfl⟩ := Assembly.capacity_of_assemble refused
    rw [outcome] at failed
    cases failed
    exact .inr ⟨rfl, congrArg Outcome.simulator outcome⟩
  · have outcome := loadProgram_of_refused simulator refused other
    rw [outcome] at failed
    cases failed
    exact .inl ⟨congrArg Outcome.simulator outcome, other⟩

theorem assembled_of_loadProgram
    (succeeded : (simulator.loadProgram source bindings).answer = .ok ()) :
    ∃ image, Assembly.assemble source bindings simulator.memorySize = .ok image := by
  rcases Assembly.assemble_cases source bindings simulator.memorySize with
    ⟨image, made⟩ | ⟨required, size, refused⟩ | ⟨fault, refused, other⟩
  · exact ⟨image, made⟩
  · rw [loadProgram_of_scarce simulator refused] at succeeded
    contradiction
  · rw [loadProgram_of_refused simulator refused other] at succeeded
    contradiction

theorem capacity_of_loadProgram {required : Nat} {size : Int}
    (refused : (simulator.loadProgram source bindings).answer = .error (.capacity required size)) :
    simulator.memorySize < (Assembly.programLines source.toList).length + 3 ∧
      required = (Assembly.programLines source.toList).length + 3 ∧ size = simulator.memorySize := by
  rcases Assembly.assemble_cases source bindings simulator.memorySize with
    ⟨image, made⟩ | ⟨needed, available, scarce⟩ | ⟨fault, failed, other⟩
  · rw [loadProgram_of_assembled simulator made] at refused
    contradiction
  · rw [loadProgram_of_scarce simulator scarce] at refused
    cases refused
    exact Assembly.capacity_of_assemble scarce
  · rw [loadProgram_of_refused simulator failed other] at refused
    cases refused
    exact absurd rfl (other required size)

theorem nonnegative_of_loadProgram
    (succeeded : (simulator.loadProgram source bindings).answer = .ok ()) :
    0 ≤ simulator.memorySize := by
  obtain ⟨image, made⟩ := assembled_of_loadProgram succeeded
  obtain ⟨enough, _, _⟩ := Assembly.imageCells_of_assemble made
  omega

theorem loadProgram_succeeded
    (succeeded : (simulator.loadProgram source bindings).answer = .ok ()) :
    ∃ fresh, create simulator.memorySize simulator.stepLimit = .ok fresh ∧
      simulator.loadProgram source bindings = fresh.loadProgram source bindings := by
  obtain ⟨image, made⟩ := assembled_of_loadProgram succeeded
  let fresh := new simulator.memorySize simulator.stepLimit
  refine ⟨fresh, ?_, ?_⟩
  · rw [create, Assembly.sizeFault?_of_assemble made]
  · rw [loadProgram_of_assembled simulator made, loadProgram_of_assembled fresh made]
    rfl

theorem eq_new_of_create {size limit : Int} {fresh : Simulator}
    (created : create size limit = .ok fresh) : fresh = new size limit := by
  unfold create at created
  split at created
  · contradiction
  · exact (Except.ok.inj created).symm

/-- A load that succeeds forgets everything but the size and the step limit. -/
theorem loadProgram_of_alike {fresh : Simulator} (size : fresh.memorySize = simulator.memorySize)
    (limit : fresh.stepLimit = simulator.stepLimit)
    (loaded : (fresh.loadProgram source bindings).answer = .ok ()) :
    simulator.loadProgram source bindings = fresh.loadProgram source bindings := by
  obtain ⟨image, made⟩ := assembled_of_loadProgram loaded
  have again : Assembly.assemble source bindings simulator.memorySize = .ok image := size ▸ made
  rw [loadProgram_of_assembled fresh made, loadProgram_of_assembled simulator again]
  simp only [restart, size, limit]

/-- A load that fails leaves everything but the last action. -/
theorem eq_of_loadProgram_failed {fault : Fault}
    (failed : (simulator.loadProgram source bindings).answer = .error fault) :
    let loaded := (simulator.loadProgram source bindings).simulator
    loaded = { simulator with lastAction := loaded.lastAction } := by
  intro loaded
  rcases loadProgram_failed failed with ⟨kept, _⟩ | ⟨_, kept⟩
  · have same : loaded = simulator := kept
    rw [same]
  · have same : loaded = simulator.relabelled (.rejected fault) := kept
    rw [same]
    rfl

end Outcome

/-- A load that fails keeps everything but the last action, which changes only for a program that
needs more cells than there are, and no later command tells the difference. A load that succeeds
has the outcome that it has for a new simulator with the same settings. -/
theorem program_load_is_all_or_nothing [Provision] (simulator : Simulator) (source : String)
    (bindings : Assembly.Bindings) :
    let outcome := simulator.loadProgram source bindings
    let loaded := outcome.simulator
    let needed := (Assembly.programLines source.toList).length + 3
    (∀ fault, outcome.answer = .error fault →
      loaded = { simulator with lastAction := loaded.lastAction } ∧
      (loaded.lastAction = simulator.lastAction ∧
          (∀ required size, fault ≠ .capacity required size) ∨
        fault = .capacity needed simulator.memorySize ∧
          loaded.lastAction.text = "Program and data need " ++ Numeral.text needed ++
            " cells but memory has " ++ Numeral.text simulator.memorySize) ∧
      ∀ commands, loaded.transcript commands = simulator.transcript commands) ∧
    (outcome.answer = .ok () →
      ∃ fresh, create simulator.memorySize simulator.stepLimit = .ok fresh ∧
        outcome = fresh.loadProgram source bindings) := by
  intro outcome loaded needed
  refine ⟨?_, loadProgram_succeeded⟩
  intro fault failed
  rcases loadProgram_failed failed with ⟨kept, other⟩ | ⟨scarce, kept⟩
  · have same : loaded = simulator := kept
    rw [same]
    exact ⟨rfl, .inl ⟨rfl, other⟩, fun _ => rfl⟩
  · have same : loaded = simulator.relabelled (.rejected fault) := kept
    rw [same]
    refine ⟨rfl, .inr ⟨scarce, ?_⟩, simulator.transcript_relabelled (.rejected fault)⟩
    rw [scarce]
    rfl

section

open scoped Provision

/-- Into a running machine, a program that is too long for its memory and one that fits. -/
theorem running_machine_keeps_or_forgets :
    let simulator := (new 5 20).session [.loadMemory [.text "OUT", .text "JMP 0"], .run (some 7)]
    let long := simulator.loadProgram "OUT\nOUT\nHLT" []
    let short := simulator.loadProgram "HLT" []
    simulator.steps = 7 ∧
      long.answer = .error (.capacity 6 5) ∧
      (∀ commands, long.simulator.transcript commands = simulator.transcript commands) ∧
      short.answer = .ok () ∧
      ∃ fresh, create 5 20 = .ok fresh ∧ short = fresh.loadProgram "HLT" [] := by
  intro simulator long short
  have steps : simulator.steps = 7 := by decide +kernel
  have failed : long.answer = .error (.capacity 6 5) := by
    have lines : (Assembly.programLines "OUT\nOUT\nHLT".toList).length = 3 := by decide +kernel
    have refused : Assembly.assemble "OUT\nOUT\nHLT" [] 5 = .error (.capacity 6 5) := by
      rw [Assembly.assemble, Assembly.imageOfLines_of_not_fits _ (by rw [lines]; decide), lines]
      rw [Fault.mentioning, if_pos (by decide +kernel)]
    exact congrArg Outcome.answer (loadProgram_of_scarce simulator refused)
  have succeeded : short.answer = .ok () := by
    have made : (Assembly.assemble "HLT" [] 5).isOk = true := by decide +kernel
    cases assembled : Assembly.assemble "HLT" [] 5 with
    | ok image => exact congrArg Outcome.answer (loadProgram_of_assembled simulator assembled)
    | error fault =>
        rw [assembled] at made
        exact absurd made Bool.false_ne_true
  have kept := program_load_is_all_or_nothing simulator "OUT\nOUT\nHLT" []
  have forgotten := program_load_is_all_or_nothing simulator "HLT" []
  exact ⟨steps, failed, (kept.1 _ failed).2.2, succeeded, forgotten.2 succeeded⟩

end

end Simulator

end Accumulator
