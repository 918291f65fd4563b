import Accumulator.CommandLine.Session
import Accumulator.Proofs.Assembly.ReadBack
import Accumulator.Proofs.Assembly.Refusal
import Accumulator.Proofs.CommandLine.Options
import Accumulator.Proofs.Machine.Output
import Accumulator.Proofs.Simulator.Driving
import Accumulator.Proofs.Simulator.Loading

set_option autoImplicit false

/-!
What a command line comes to. A program that is assembled is run from the initial state of its image
within the step limit, and the exit code tells whether it has halted; what is shown or noted on the
way has no part in it. A program that does not fit is reported and not run.
-/

namespace Accumulator.CommandLine

open Assembly (Bindings assemble programLines)

/-- The options lead to a program text, in a file that is there or in the arguments themselves. -/
def Options.Finds (options : Options) (find : String → Target) (text : String) : Prop :=
  options.program.isEmpty = true ∧ text = textOfInline options.inline ∨
    options.program.isEmpty = false ∧
      ∃ content, find options.program = .file content ∧ text = textOfFile content

def Options.bindings (options : Options) : Bindings :=
  [("X", .int options.x), ("Y", .int options.y), ("Z", .int options.z)]

theorem readSource_of_finds {options : Options} {find : String → Target} {text : String}
    (found : options.Finds find text) : readSource options find = .ok (.text text) := by
  unfold readSource
  rcases found with ⟨unnamed, rfl⟩ | ⟨named, content, present, rfl⟩
  · rw [if_pos unnamed]
  · rw [named, if_neg Bool.false_ne_true, present]

theorem carryOut_of_finds [Provision] {options : Options} {find : String → Target} {text : String}
    (found : options.Finds find text) {level : Level} (leveled : options.level? = some level) :
    carryOut options find = runText options text := by
  unfold carryOut
  rw [leveled, readSource_of_finds found]
  rfl

/-! ### Runs -/

/-- Where the machine is when a run has used up its limit or the machine has halted. -/
theorem state_run (simulator : Simulator) (limit? : Option Int) :
    (simulator.run limit?).simulator.state =
      simulator.state.after (limit?.getD simulator.stepLimit).toNat := by
  obtain ⟨count, spends⟩ :=
    simulator.state.exists_spends (limit?.getD simulator.stepLimit).toNat
  rw [Simulator.simulator_run, Simulator.advance_eq spends, Simulator.state_stepTimes,
    spends.after_eq]

/-- The line that reports a limit, unless the machine has halted within it. -/
def limitLines (halted : Bool) (limit : Int) : List String :=
  if halted then [] else ["Execution error: Max steps (" ++ Numeral.text limit ++ ") exceeded"]

theorem runLoaded_eq (options : Options) (opening : List String) (loading : List Note)
    (simulator : Simulator) (short : Numeral.hasDecimal simulator.stepLimit = true) :
    let halted := (simulator.state.after simulator.stepLimit.toNat).halted
    runLoaded options opening loading simulator =
      .ok { exitCode := if halted then 0 else 1
            output := opening ++ unlessQuiet options executionHeading ++
              limitLines halted simulator.stepLimit ++
              closingLines options (simulator.run none).simulator
            notes := loading ++ (simulator.run none).notes } := by
  intro halted
  have reached : (simulator.run none).simulator.state.halted = halted :=
    congrArg (fun state : State => state.halted) (state_run simulator none)
  unfold runLoaded
  dsimp only
  rw [reached]
  cases stopped : halted with
  | true =>
      rw [Simulator.answer_run_of_halted (reached.trans stopped)]
      rfl
  | false =>
      rw [Simulator.answer_run_of_running (reached.trans stopped), Option.getD_none,
        Fault.mentioning, if_pos short]
      rfl

theorem sizeFault?_eq_none_iff_inside [Provision] (size : Int) :
    sizeFault? size = none ↔ -0x8000000000000000 ≤ size ∧ size < Provision.bound := by
  have bound := Provision.bound_le
  unfold sizeFault? fitsWord
  split
  · next outside =>
      simp only [Bool.not_eq_true', Bool.and_eq_false_iff, decide_eq_false_iff_not] at outside
      exact ⟨nofun, by omega⟩
  · next word =>
      simp only [Bool.not_eq_true', Bool.and_eq_false_iff, decide_eq_false_iff_not] at word
      split
      · next large => exact ⟨nofun, by omega⟩
      · next small => exact ⟨fun _ => by omega, fun _ => rfl⟩

section CarryOut

variable [Provision] {options : Options} {find : String → Target} {text : String} {level : Level}
variable {memorySize limit : Int}

theorem create_of_provided (provided : sizeFault? memorySize = none) (limit : Int) :
    Simulator.create memorySize limit = .ok (Simulator.new memorySize limit) := by
  unfold Simulator.create
  rw [provided]

theorem carryOut_of_assembled (found : options.Finds find text)
    (leveled : options.level? = some level) (sized : options.memorySize? = some memorySize)
    (limited : options.stepLimit? = some limit) (short : Numeral.hasDecimal limit = true)
    {image : List Cell} (made : assemble text options.bindings memorySize = .ok image) :
    let start := State.initial image
    let halted := (start.after limit.toNat).halted
    let ran := ((Simulator.new memorySize limit).restart start .programLoaded).run none
    carryOut options find =
      .ok { exitCode := if halted then 0 else 1
            output := unlessQuiet options [banner options] ++
              unlessQuiet options executionHeading ++ limitLines halted limit ++
              closingLines options ran.simulator
            notes := Simulator.assemblyNotes text memorySize ++ [.loaded memorySize] ++
              ran.notes } := by
  intro start halted ran
  have loaded := Simulator.loadProgram_of_assembled (Simulator.new memorySize limit) made
  rw [carryOut_of_finds found leveled, runText, sized, limited]
  change (Simulator.create memorySize limit >>= _) = _
  rw [create_of_provided (Assembly.sizeFault?_of_assemble made)]
  dsimp only [Bind.bind, Except.bind]
  unfold Options.bindings at loaded
  rw [loaded]
  exact runLoaded_eq options _ _ _ short

/-- The line that reports how many cells are missing. -/
def scarcityLine (required : Nat) (memorySize : Int) : String :=
  "Error: Program and data need " ++ Numeral.text required ++ " cells but memory has " ++
    Numeral.text memorySize

theorem carryOut_of_unprovided (found : options.Finds find text)
    (leveled : options.level? = some level) (sized : options.memorySize? = some memorySize)
    {fault : Fault} (refused : sizeFault? memorySize = some fault) :
    carryOut options find = .error fault := by
  rw [carryOut_of_finds found leveled, runText, sized]
  change (Simulator.create memorySize _ >>= _) = _
  unfold Simulator.create
  rw [refused]
  rfl

theorem carryOut_of_scarce (found : options.Finds find text)
    (leveled : options.level? = some level) (sized : options.memorySize? = some memorySize)
    (short : Numeral.hasDecimal memorySize = true) (provided : sizeFault? memorySize = none)
    (scarce : memorySize < (programLines text.toList).length + 3) :
    let required := (programLines text.toList).length + 3
    carryOut options find =
      .ok { exitCode := 1
            output := unlessQuiet options [banner options] ++ [scarcityLine required memorySize]
            notes := [.rejected (.capacity required memorySize)] } := by
  intro required
  have refused : assemble text options.bindings memorySize =
      .error (.capacity required memorySize) :=
    (Assembly.assemble_eq_capacity_iff text _ short required memorySize).mpr ⟨scarce, rfl, rfl⟩
  have unassembled (limit : Int) :
      Simulator.assemblyNotes text (Simulator.new memorySize limit).memorySize = [] := by
    have overfull : Assembly.fits (programLines text.toList).length memorySize = false := by
      apply decide_eq_false
      change ¬((programLines text.toList).length + 3 : Nat) ≤ memorySize
      omega
    change (if Assembly.fits (programLines text.toList).length memorySize then _ else _) = _
    rw [overfull]
    rfl
  have loaded (limit : Int) :=
    Simulator.loadProgram_of_scarce (Simulator.new memorySize limit) refused
  rw [carryOut_of_finds found leveled, runText, sized]
  change (Simulator.create memorySize _ >>= _) = _
  rw [create_of_provided provided]
  dsimp only [Bind.bind, Except.bind]
  unfold Options.bindings at loaded
  rw [loaded, unassembled]
  rfl

/-- Such a program is reported for all sizes that a memory can be asked for. -/
theorem exists_report_of_scarce_iff (found : options.Finds find text)
    (leveled : options.level? = some level) (sized : options.memorySize? = some memorySize)
    (short : Numeral.hasDecimal memorySize = true)
    (scarce : memorySize < (programLines text.toList).length + 3) :
    (∃ report, carryOut options find = .ok report) ↔
      -0x8000000000000000 ≤ memorySize ∧ memorySize < Provision.bound := by
  rw [← sizeFault?_eq_none_iff_inside]
  cases refusal : sizeFault? memorySize with
  | none =>
      have reported := carryOut_of_scarce found leveled sized short refusal scarce
      exact ⟨fun _ => rfl, fun _ => ⟨_, reported⟩⟩
  | some fault =>
      refine ⟨?_, nofun⟩
      rintro ⟨report, made⟩
      rw [carryOut_of_unprovided found leveled sized refusal] at made
      cases made

end CarryOut

/-- A machine that does not start halted has halted within a limit if it has after some number of
transitions that the limit allows. -/
theorem halted_after_limit_iff {start : State} (running : start.halted = false) (limit : Int) :
    (start.after limit.toNat).halted = true ↔
      ∃ count : Nat, (count : Int) ≤ limit ∧ (start.after count).halted = true := by
  constructor
  · intro halted
    refine ⟨limit.toNat, ?_, halted⟩
    by_cases positive : 0 ≤ limit
    · omega
    · have none : limit.toNat = 0 := by omega
      rw [none] at halted
      exact absurd halted (Bool.eq_false_iff.mp running)
  · rintro ⟨count, within, halted⟩
    rw [State.after_of_halted_before (by omega) halted]
    exact halted

theorem unlessQuiet_of_quiet {options : Options} (quiet : options.quiet = true)
    (lines : List String) : unlessQuiet options lines = [] :=
  if_pos quiet

theorem closingLines_of_quiet {options : Options} (quiet : options.quiet = true)
    (untraced : options.trace = false) (simulator : Simulator) :
    closingLines options simulator = simulator.state.outputs.map Numeral.describe := by
  unfold closingLines
  rw [untraced, if_neg Bool.false_ne_true, if_pos quiet]

/-- A quiet run of a machine without outputs shows the recent ones among those that it makes. -/
theorem closingLines_of_quiet_run {options : Options} (quiet : options.quiet = true)
    (untraced : options.trace = false) {simulator : Simulator}
    (fresh : simulator.state.outputs = []) :
    closingLines options (simulator.run none).simulator =
      (lastOf outputLimit (simulator.state.emitted simulator.stepLimit.toNat)).map
        Numeral.describe := by
  have few : simulator.state.outputs.length ≤ outputLimit := by
    rw [fresh]
    exact Nat.zero_le outputLimit
  rw [closingLines_of_quiet quiet untraced, state_run, State.outputs_after few, fresh,
    List.nil_append, Option.getD_none]

/-- What an accepted command line comes to, if its size, its limit and its level have a value. A
program that is assembled is run: the exit code is zero if the machine has halted within the limit
and one if not, whatever is shown; quietly, the output is made of the last fifty of the values put
out within the limit, behind the line that reports the limit if it was hit. A program that does not
fit is reported and nothing is run, for every size that a memory can be asked for at all. -/
theorem command_line_tells_how_the_run_ended [Provision] (arguments : List String)
    (options : Options) (accepted : parseOptions arguments = .ok options) (find : String → Target)
    (text : String) (found : options.Finds find text) (level : Level)
    (leveled : options.level? = some level) (memorySize limit : Int)
    (sized : options.memorySize? = some memorySize) (limited : options.stepLimit? = some limit) :
    (∀ image, assemble text options.bindings memorySize = .ok image →
      let start := State.initial image
      ∃ report, carryOut options find = .ok report ∧
        (report.exitCode = 0 ∨ report.exitCode = 1) ∧
        (report.exitCode = 0 ↔
          ∃ count : Nat, (count : Int) ≤ limit ∧ (start.after count).halted = true) ∧
        (∀ (trace quiet : Bool) (shown : Level), ∃ other,
          carryOut { options with trace := trace, quiet := quiet, level? := some shown } find =
              .ok other ∧
            other.exitCode = report.exitCode) ∧
        (options.quiet = true → options.trace = false →
          let values := start.emitted limit.toNat
          report.output =
            (if report.exitCode = 0 then []
              else ["Execution error: Max steps (" ++ Numeral.text limit ++ ") exceeded"]) ++
              (values.drop (values.length - 50)).map Numeral.describe)) ∧
    let required := (programLines text.toList).length + 3
    (memorySize < required →
      ((∃ report, carryOut options find = .ok report) ↔
        -0x8000000000000000 ≤ memorySize ∧ memorySize < Provision.bound) ∧
      ∀ report, carryOut options find = .ok report →
        report.exitCode = 1 ∧
          report.output = unlessQuiet options [banner options] ++
            ["Error: Program and data need " ++ Numeral.text required ++
              " cells but memory has " ++ Numeral.text memorySize] ∧
          report.notes = [.rejected (.capacity required memorySize)]) := by
  have written := written_of_parseOptions accepted
  have short := written.stepLimit limit limited
  refine ⟨?_, ?_⟩
  · intro image made start
    have carried := carryOut_of_assembled found leveled sized limited short made
    have reached := @halted_after_limit_iff start rfl limit
    refine ⟨_, carried, ?_, ?_, ?_, ?_⟩
    · dsimp only
      split
      · exact .inl rfl
      · exact .inr rfl
    · rw [← reached]
      dsimp only
      split
      · next halted => exact ⟨fun _ => halted, fun _ => rfl⟩
      · next going => exact ⟨nofun, fun halted => absurd halted going⟩
    · intro trace quiet shown
      let other : Options :=
        { options with trace := trace, quiet := quiet, level? := some shown }
      have same : other.Finds find text := found
      exact ⟨_, carryOut_of_assembled same rfl sized limited short made, rfl⟩
    · intro quiet untraced values
      dsimp only
      rw [closingLines_of_quiet_run quiet untraced rfl, unlessQuiet_of_quiet quiet,
        unlessQuiet_of_quiet quiet]
      unfold limitLines
      cases (start.after limit.toNat).halted <;> rfl
  · intro required scarce
    have brief := written.memorySize memorySize sized
    have reported := exists_report_of_scarce_iff found leveled sized brief scarce
    refine ⟨reported, ?_⟩
    intro report made
    have provided := (sizeFault?_eq_none_iff_inside memorySize).mpr (reported.mp ⟨report, made⟩)
    rw [carryOut_of_scarce found leveled sized brief provided scarce] at made
    rw [← Except.ok.inj made]
    exact ⟨rfl, rfl, rfl⟩

section

open scoped Provision

/-- A limit that is hit between two outputs, under an abbreviated name, and the same run in full. -/
theorem limited_loop_is_reported :
    ∃ options, parseOptions ["-qi", "LOAD 7;OUT;JMP 1", "--max-s=8"] = .ok options ∧
      ∃ report, carryOut options (fun _ => .missing) = .ok report ∧ report.exitCode = 1 ∧
        report.output = ["Execution error: Max steps (8) exceeded", "7"] ∧
        ∃ other, carryOut { options with trace := true, quiet := false, level? := some .debug }
            (fun _ => .missing) = .ok other ∧ other.exitCode = 1 := by
  let options : Options :=
    { inline := "LOAD 7;OUT;JMP 1", quiet := true, stepLimit? := some 8 }
  let find : String → Target := fun _ => .missing
  let image : List Cell := ["LOAD 7", "OUT", "JMP 1"].map Cell.text ++
    List.replicate 3 (.int 0) ++ List.replicate 10 .empty
  have accepted : parseOptions ["-qi", "LOAD 7;OUT;JMP 1", "--max-s=8"] = .ok options :=
    eq_ok_of_toOption (by decide +kernel)
  have found : options.Finds find (textOfInline options.inline) := .inl ⟨by decide, rfl⟩
  have made : assemble (textOfInline options.inline) options.bindings 16 = .ok image :=
    eq_ok_of_toOption (by decide +kernel)
  obtain ⟨runs, _⟩ := command_line_tells_how_the_run_ended _ options accepted find _ found .warning
    rfl 16 8 rfl rfl
  obtain ⟨report, carried, codes, halts, alike, quietly⟩ := runs image made
  have running : ((State.initial image).after 8).halted = false := by decide +kernel
  have code : report.exitCode = 1 := by
    rcases codes with zero | one
    · obtain ⟨count, within, halted⟩ := halts.mp zero
      rw [State.running_before (by omega) running] at halted
      exact absurd halted Bool.false_ne_true
    · exact one
  have emitted : (State.initial image).emitted 8 = [7] := by decide +kernel
  have output := quietly rfl rfl
  dsimp only at output
  rw [code] at output
  obtain ⟨other, traced, same⟩ := alike true false .debug
  refine ⟨options, accepted, report, carried, code, ?_, other, traced, same.trans code⟩
  rw [output]
  change _ ++ (((State.initial image).emitted 8).drop _).map Numeral.describe = _
  rw [emitted]
  decide +kernel

/-- A size below all that a memory can be asked for is refused before the program is looked at, and
not as a lack of cells. -/
theorem unaskable_size_is_not_reported :
    ¬∀ (arguments : List String) (options : Options) (find : String → Target) (text : String)
      (memorySize : Int), parseOptions arguments = .ok options → options.Finds find text →
        options.memorySize? = some memorySize →
          memorySize < (programLines text.toList).length + 3 →
            ∃ report, carryOut options find = .ok report ∧ report.exitCode = 1 := by
  intro claimed
  let options : Options := { inline := "HLT", memorySize? := some (-9223372036854775809) }
  have accepted : parseOptions ["-i", "HLT", "--mem-size", "-9223372036854775809"] = .ok options :=
    eq_ok_of_toOption (by decide +kernel)
  have found : options.Finds (fun _ => .missing) (textOfInline options.inline) :=
    .inl ⟨by decide, rfl⟩
  obtain ⟨report, carried, _⟩ := claimed _ options _ _ (-9223372036854775809) accepted found rfl
    (by omega)
  have refused := carryOut_of_unprovided found rfl rfl (rfl : sizeFault? _ = some .overflow)
  rw [refused] at carried
  contradiction

end

end Accumulator.CommandLine
