import Accumulator.Proofs.Page.Intact

set_option autoImplicit false

/-!
Assembling on the page is all or nothing, and it does not matter which simulator the program is
loaded into: the one that the page has, if it has the size asked for, or a new one. A program that
is assembled leaves nothing of what was done before; one that is refused leaves everything but the
last action, and an attempt that fails leaves everything.
-/

namespace Accumulator.Page

open Session (memorySize_candidate)

/-- The views do not show the last action anywhere but in the status, which a refusal replaces. -/
theorem refuse_of_alike {simulator left : Simulator}
    (alike : left = { simulator with lastAction := left.lastAction }) (fault : Fault) :
    refuse left fault =
      { display? :=
          some
            { simulator := left
              views := { views simulator with status := "Error: " ++ fault.message } } } := by
  rw [refuse, alike]
  rfl

section Attempt

variable [Provision] {simulator target : Simulator} {source x y z memorySize : Cell} {size : Int}
  {text : String}

/-! ### The simulator that is loaded into -/

theorem stepLimit_candidate (limited : simulator.stepLimit = defaultStepLimit)
    (chosen : candidate simulator size = .ok target) : target.stepLimit = defaultStepLimit := by
  by_cases same : size = simulator.memorySize
  · rw [candidate_of_same same] at chosen
    rw [← Except.ok.inj chosen, limited]
  · rw [candidate_of_other same] at chosen
    rw [Simulator.eq_new_of_create chosen]
    rfl

/-- A program that the chosen simulator takes is taken by a new one of that size alike. -/
theorem exists_create_of_candidate (limited : simulator.stepLimit = defaultStepLimit)
    (chosen : candidate simulator size = .ok target) {bindings : Assembly.Bindings}
    (loaded : (target.loadProgram text bindings).answer = .ok ()) :
    ∃ fresh, Simulator.create size defaultStepLimit = .ok fresh ∧
      target.loadProgram text bindings = fresh.loadProgram text bindings := by
  obtain ⟨fresh, created, same⟩ := Simulator.loadProgram_succeeded loaded
  rw [memorySize_candidate chosen, stepLimit_candidate limited chosen] at created
  exact ⟨fresh, created, same⟩

/-- A program that a new simulator takes is taken by the one that is chosen for its size alike. -/
theorem exists_candidate_of_create (limited : simulator.stepLimit = defaultStepLimit)
    {fresh : Simulator} (created : Simulator.create size defaultStepLimit = .ok fresh)
    {bindings : Assembly.Bindings} (loaded : (fresh.loadProgram text bindings).answer = .ok ()) :
    ∃ target, candidate simulator size = .ok target ∧
      target.loadProgram text bindings = fresh.loadProgram text bindings := by
  by_cases same : size = simulator.memorySize
  · have settings := Simulator.eq_new_of_create created
    refine ⟨simulator, candidate_of_same same, Simulator.loadProgram_of_alike ?_ ?_ loaded⟩
    · rw [settings, ← same]
      rfl
    · rw [settings, limited]
      rfl
  · exact ⟨fresh, (candidate_of_other same).trans created, rfl⟩

/-! ### Attempts by their outcome -/

theorem assembleProgram_of_size (sized : requestedSize memorySize = .ok size) :
    assembleProgram simulator source x y z memorySize =
      assembleSized simulator source x y z size := by
  rw [assembleProgram, sized]

theorem exists_size_of_answer {response : Response}
    (answered : (assembleProgram simulator source x y z memorySize).answer = .ok response) :
    ∃ size, requestedSize memorySize = .ok size ∧
      assembleProgram simulator source x y z memorySize =
        assembleSized simulator source x y z size := by
  unfold assembleProgram at answered ⊢
  split at answered
  · next size sized => exact ⟨size, sized, rfl⟩
  · contradiction

theorem answer_of_loaded (sized : requestedSize memorySize = .ok size)
    (given : textOf source = .ok text) (chosen : candidate simulator size = .ok target)
    (loaded : (target.loadProgram text [("X", x), ("Y", y), ("Z", z)]).answer = .ok ()) :
    (assembleProgram simulator source x y z memorySize).answer =
      .ok (Response.displaying
        (target.loadProgram text [("X", x), ("Y", y), ("Z", z)]).simulator) := by
  rw [assembleProgram_of_size sized, assembleSized_of_candidate chosen given]
  dsimp only [responseToLoad]
  rw [loaded]

/-- An attempt that fails does not touch the simulator. -/
theorem simulator_of_fault {fault : Fault}
    (failed : (assembleProgram simulator source x y z memorySize).answer = .error fault) :
    (assembleProgram simulator source x y z memorySize).simulator = simulator := by
  unfold assembleProgram at failed ⊢
  split at failed
  · exact assembleSized_of_fault failed
  · rfl

/-- A simulator that a program is loaded into and that refuses it keeps everything but the last
action; one that is not loaded into keeps that too. -/
theorem own_of_refused (chosen : candidate simulator size = .ok target)
    {bindings : Assembly.Bindings} {fault : Fault}
    (refused : (target.loadProgram text bindings).answer = .error fault) :
    let own := if size = simulator.memorySize then (target.loadProgram text bindings).simulator
      else simulator
    own = { simulator with lastAction := own.lastAction } := by
  by_cases same : size = simulator.memorySize
  · rw [candidate_of_same same] at chosen
    obtain rfl := Except.ok.inj chosen
    rw [if_pos same]
    exact Simulator.eq_of_loadProgram_failed refused
  · rw [if_neg same]

end Attempt

/-- On a page whose simulator has the default step limit, an attempt to assemble answers with the
simulator that a new one of the requested size becomes when the program is loaded into it, if the
new one takes it; the own simulator becomes that one too if it has the size, and is not touched
otherwise. A program that is refused for its cells leaves everything but the last action, and the
views are those from before with the message as their status. An attempt that fails leaves
everything. -/
theorem assembling_replaces_the_machine_or_keeps_it [Provision] (simulator : Simulator)
    (limited : simulator.stepLimit = defaultStepLimit) (source x y z memorySize : Cell) :
    let bindings : Assembly.Bindings := [("X", x), ("Y", y), ("Z", z)]
    let answer := (assembleProgram simulator source x y z memorySize).answer
    let left := (assembleProgram simulator source x y z memorySize).simulator
    (∀ size text fresh, requestedSize memorySize = .ok size → textOf source = .ok text →
      Simulator.create size defaultStepLimit = .ok fresh →
      (fresh.loadProgram text bindings).answer = .ok () →
        answer = .ok (Response.displaying (fresh.loadProgram text bindings).simulator)) ∧
    (∀ response, answer = .ok response →
      ∃ size text, requestedSize memorySize = .ok size ∧ textOf source = .ok text ∧
        ((∃ fresh, Simulator.create size defaultStepLimit = .ok fresh ∧
            (fresh.loadProgram text bindings).answer = .ok () ∧
            response = Response.displaying (fresh.loadProgram text bindings).simulator ∧
            left =
              if size = simulator.memorySize then (fresh.loadProgram text bindings).simulator
              else simulator) ∨
          size < (Assembly.programLines text.toList).length + 3 ∧
            left = { simulator with lastAction := left.lastAction } ∧
            response =
              { display? :=
                  some
                    { simulator := left
                      views :=
                        { views simulator with
                          status := "Error: " ++ ("Program and data need " ++
                            Numeral.text ((Assembly.programLines text.toList).length + 3) ++
                              " cells but memory has " ++ Numeral.text size) } } })) ∧
    ∀ fault, answer = .error fault → left = simulator := by
  intro bindings answer left
  refine ⟨?_, ?_, fun _ failed => simulator_of_fault failed⟩
  · intro size text fresh sized given created loaded
    obtain ⟨target, chosen, same⟩ := exists_candidate_of_create limited created loaded
    rw [← same] at loaded ⊢
    exact answer_of_loaded sized given chosen loaded
  · intro response answered
    obtain ⟨size, sized, attempt⟩ := exists_size_of_answer answered
    have responds : (assembleSized simulator source x y z size).answer = .ok response := by
      rw [← attempt]
      exact answered
    obtain ⟨target, text, chosen, given, placed, outcome⟩ := assembleSized_cases responds
    rw [← attempt] at placed
    refine ⟨size, text, sized, given, ?_⟩
    rcases outcome with ⟨loaded, shown⟩ | ⟨required, available, refused, shown⟩
    · obtain ⟨fresh, created, same⟩ := exists_create_of_candidate limited chosen loaded
      rw [same] at loaded shown placed
      exact .inl ⟨fresh, created, loaded, shown, placed⟩
    · have kept := own_of_refused chosen refused
      obtain ⟨scarce, rfl, rfl⟩ := Simulator.capacity_of_loadProgram refused
      rw [← placed] at kept shown
      rw [refuse_of_alike kept] at shown
      rw [memorySize_candidate chosen] at scarce shown
      exact .inr ⟨scarce, kept, shown⟩

section

open scoped Provision

/-- A running machine of five cells: a program that is too long for it, one for a machine of six
cells, and a size that is no number. -/
theorem running_machine_is_kept_or_replaced :
    let simulator := (Simulator.new 5 defaultStepLimit).session
      [.loadMemory [.text "OUT", .text "JMP 0"], .run (some 7)]
    let long : Cell := .text "OUT\nOUT\nHLT"
    let short : Cell := .text "HLT"
    let left := (assembleProgram simulator long .absent (.int 2) .absent (.int 5)).simulator
    let fresh := Simulator.new 6 defaultStepLimit
    simulator.steps = 7 ∧
      left = { simulator with lastAction := left.lastAction } ∧
      (assembleProgram simulator long .absent (.int 2) .absent (.int 5)).answer =
        .ok
          { display? :=
              some
                { simulator := left
                  views :=
                    { views simulator with
                      status := "Error: Program and data need 6 cells but memory has 5" } } } ∧
      (assembleProgram simulator short .absent (.int 2) .absent (.text " 0006 ")).answer =
        .ok (Response.displaying
          (fresh.loadProgram "HLT" [("X", .absent), ("Y", .int 2), ("Z", .absent)]).simulator) ∧
      (assembleProgram simulator short .absent (.int 2) .absent (.text "many")).simulator =
        simulator := by
  intro simulator long short left fresh
  have limited : simulator.stepLimit = defaultStepLimit := by decide +kernel
  have steps : simulator.steps = 7 := by decide +kernel
  have attempts := assembling_replaces_the_machine_or_keeps_it simulator limited
  obtain ⟨_, refused, _⟩ := attempts long .absent (.int 2) .absent (.int 5)
  obtain ⟨assembled, _, _⟩ := attempts short .absent (.int 2) .absent (.text " 0006 ")
  obtain ⟨_, _, failed⟩ := attempts short .absent (.int 2) .absent (.text "many")
  have lines : (Assembly.programLines "OUT\nOUT\nHLT".toList).length = 3 := by decide +kernel
  have answers :
      (assembleProgram simulator long .absent (.int 2) .absent (.int 5)).answer.isOk = true := by
    decide +kernel
  have sized : requestedSize (.text " 0006 ") = .ok 6 := by decide +kernel
  have created : Simulator.create 6 defaultStepLimit = .ok fresh := by decide +kernel
  have loads :
      (fresh.loadProgram "HLT" [("X", .absent), ("Y", .int 2), ("Z", .absent)]).answer =
        .ok () := by
    decide +kernel
  have fails :
      (assembleProgram simulator short .absent (.int 2) .absent (.text "many")).answer =
        .error .badNumeral := by
    decide +kernel
  cases answer : (assembleProgram simulator long .absent (.int 2) .absent (.int 5)).answer with
  | error fault =>
      rw [answer] at answers
      contradiction
  | ok response =>
      obtain ⟨size, text, given, source, outcome⟩ := refused response answer
      obtain rfl : 5 = size := Except.ok.inj given
      obtain rfl : "OUT\nOUT\nHLT" = text := Except.ok.inj source
      rcases outcome with ⟨five, made, loaded, _, _⟩ | ⟨_, kept, shown⟩
      · obtain ⟨image, fitted⟩ := Simulator.assembled_of_loadProgram loaded
        obtain ⟨enough, _, _⟩ := Assembly.imageCells_of_assemble fitted
        rw [lines, Simulator.eq_new_of_create made] at enough
        exact absurd enough (by decide)
      · rw [lines] at shown
        have replaced := assembled 6 "HLT" fresh sized rfl created loads
        exact ⟨steps, kept, congrArg Except.ok shown, replaced, failed _ fails⟩

end

end Accumulator.Page
