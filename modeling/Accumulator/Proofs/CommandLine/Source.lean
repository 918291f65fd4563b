import Accumulator.Proofs.CommandLine.Outcome
import Accumulator.Proofs.CommandLine.Selection
import Accumulator.Proofs.Text.Line

set_option autoImplicit false

/-!
The two sources of a program. A report depends on the lines of the program, the banner and the
options that have nothing to do with the source. So a program is reported alike from a file and from
the arguments, whatever the file ends its lines with.
-/

namespace Accumulator.CommandLine

open Assembly (programLines)

/-! ### Reports under a banner -/

/-- Assembles, runs and reports a program text under the lines that are printed first. -/
def runUnder [Provision] (options : Options) (opening : List String) (text : String) :
    Except Fault Report := do
  let memorySize ← required options.memorySize?
  let simulator ← Simulator.create memorySize (options.stepLimit?.getD defaultStepLimit)
  let outcome := simulator.loadProgram text options.bindings
  match outcome.answer with
  | .ok _ => do
    let _ ← required options.stepLimit?
    runLoaded options opening outcome.notes outcome.simulator
  | .error (.capacity needed available) =>
    pure
      { exitCode := 1
        output := opening ++ ["Error: " ++ (Fault.capacity needed available).message]
        notes := outcome.notes }
  | .error fault => .error fault

theorem runText_eq [Provision] (options : Options) (text : String) :
    runText options text = runUnder options (unlessQuiet options [banner options]) text :=
  rfl

def Report.under (opening : List String) (report : Report) : Report :=
  { report with output := opening ++ report.output }

theorem runLoaded_under (options : Options) (opening : List String) (loading : List Note)
    (simulator : Simulator) :
    runLoaded options opening loading simulator =
      (·.under opening) <$> runLoaded options [] loading simulator := by
  unfold runLoaded
  dsimp only
  have printed (first second third : List String) :
      opening ++ first ++ second ++ third = opening ++ ([] ++ first ++ second ++ third) := by
    rw [List.nil_append, List.append_assoc, List.append_assoc, List.append_assoc]
  split
  · rw [printed]
    rfl
  · rw [printed]
    rfl
  · rfl

theorem runUnder_eq [Provision] (options : Options) (opening : List String) (text : String) :
    runUnder options opening text = (·.under opening) <$> runUnder options [] text := by
  unfold runUnder
  rw [map_bind]
  apply bind_congr
  intro memorySize
  rw [map_bind]
  apply bind_congr
  intro simulator
  dsimp only
  split
  · rw [map_bind]
    exact bind_congr fun _ => runLoaded_under options opening _ _
  · rfl
  · rfl

theorem loadProgram_of_same_lines [Provision] (simulator : Simulator) {first second : String}
    (same : programLines first.toList = programLines second.toList)
    (bindings : Assembly.Bindings) :
    simulator.loadProgram first bindings = simulator.loadProgram second bindings := by
  unfold Simulator.loadProgram Simulator.assemblyNotes Assembly.assemble
  rw [same]

theorem runUnder_of_same_lines [Provision] (options : Options) (opening : List String)
    {first second : String} (same : programLines first.toList = programLines second.toList) :
    runUnder options opening first = runUnder options opening second := by
  unfold runUnder
  apply bind_congr
  intro memorySize
  apply bind_congr
  intro simulator
  rw [loadProgram_of_same_lines simulator same]

theorem runUnder_withSource [Provision] (options : Options) (program inline : String)
    (opening : List String) (text : String) :
    runUnder (options.withSource program inline) opening text = runUnder options opening text :=
  rfl

/-! ### One program, two sources -/

/-- A program text as it is given in an argument: with a semicolon for every line feed. -/
def inlineForm (source : String) : String :=
  String.ofList (source.toList.map fun character => if character = '\n' then ';' else character)

theorem textOfInline_inlineForm {source : String} (plain : ';' ∉ source.toList) :
    textOfInline (inlineForm source) = source := by
  have restored : ∀ character ∈ source.toList,
      (if (if character = '\n' then ';' else character) = ';' then '\n'
        else if character = '\n' then ';' else character) = character := by
    intro character inside
    by_cases feed : character = '\n'
    · rw [if_pos feed, if_pos rfl, feed]
    · have other : character ≠ ';' := fun same => plain (same ▸ inside)
      rw [if_neg feed, if_neg other]
  calc
    textOfInline (inlineForm source) =
        String.ofList (source.toList.map fun character => character) := by
      unfold textOfInline inlineForm
      rw [String.toList_ofList, List.map_map]
      exact congrArg String.ofList (List.map_congr_left restored)
    _ = source := by rw [List.map_id', String.ofList_toList]

theorem programLines_textOfFile (source : String) :
    programLines (textOfFile source).toList = programLines source.toList := by
  unfold textOfFile programLines
  rw [String.toList_ofList, Text.lines_unifyNewlines]

theorem inlineForm_ne {source other : String} (plain : ';' ∉ source.toList)
    (apart : source ≠ textOfInline other) : inlineForm source ≠ other := by
  intro same
  rw [← same, textOfInline_inlineForm plain] at apart
  contradiction

section CarryOut

variable [Provision] (options : Options) (find : String → Target) {source : String}

/-- What is carried out, whatever the source is, once the program text is there. -/
def carriedOut (options : Options) (opening source : String) : Except Fault Report := do
  let _ ← required options.level?
  (·.under (unlessQuiet options [opening])) <$> runUnder options [] source

theorem carryOut_of_withSource {program inline text : String}
    (found : (options.withSource program inline).Finds find text)
    (same : programLines text.toList = programLines source.toList) :
    carryOut (options.withSource program inline) find =
      carriedOut options (banner (options.withSource program inline)) source := by
  unfold carryOut carriedOut
  apply bind_congr
  intro level
  rw [readSource_of_finds found]
  change runText (options.withSource program inline) text = _
  rw [runText_eq, runUnder_withSource, runUnder_of_same_lines options _ same, runUnder_eq]
  rfl

theorem carryOut_inline (plain : ';' ∉ source.toList) :
    carryOut (options.withSource "" (inlineForm source)) find =
      carriedOut options "Running inline assembly" source := by
  have found : (options.withSource "" (inlineForm source)).Finds find source :=
    .inl ⟨rfl, (textOfInline_inlineForm plain).symm⟩
  exact carryOut_of_withSource options find found rfl

theorem carryOut_program {name : String} (nonempty : name ≠ "") (held : find name = .file source) :
    carryOut (options.withSource name "") find =
      carriedOut options ("Loading program: " ++ name) source := by
  have named : name.isEmpty = false := isEmpty_of_ne nonempty
  have found : (options.withSource name "").Finds find (textOfFile source) :=
    .inr ⟨named, source, held, rfl⟩
  rw [carryOut_of_withSource options find found (programLines_textOfFile source)]
  unfold banner
  change carriedOut options (if name.isEmpty then _ else _) source = _
  rw [named]
  rfl

end CarryOut

/-- The same arguments around a program text and around a file that holds it, whatever ends its
lines: they are refused for the same reason, or they come to the same options but for the source.
Then carrying them out is the same fault, or the same report but for the line that tells the source.
Behind a separator either source is itself among the arguments that are told to be unrecognized. -/
theorem file_and_inline_programs_agree [Provision] (find : String → Target) (source name : String)
    (nonempty : source ≠ "") (plain : ';' ∉ source.toList) (whole : source ≠ "--")
    (named : name ≠ "") (unseparated : name ≠ "--") (held : find name = .file source)
    (spelled : List String)
    (spells : spelled = ["--program=" ++ name] ∨
      spelled = ["--program", name] ∧ Argument.ofText name = .plain name)
    (before after : List String)
    (sourceless : ∀ argument ∈ before ++ after,
      ∀ parameter ∈ (Argument.ofText argument).parameters,
        parameter ≠ .program ∧ parameter ≠ .inline) :
    let fromArgument := before ++ ["--inline=" ++ inlineForm source] ++ after
    let fromFile := before ++ spelled ++ after
    (∃ refusal, parseOptions fromArgument = .error refusal ∧
        parseOptions fromFile = .error refusal) ∨
      ("--" ∈ before ∧ ∃ unused,
        parseOptions fromArgument = .error (.usage (.unrecognized
          (unused ++ ["--inline=" ++ inlineForm source] ++ after))) ∧
        parseOptions fromFile = .error (.usage (.unrecognized (unused ++ spelled ++ after)))) ∨
      ∃ inlined loaded, parseOptions fromArgument = .ok inlined ∧
        parseOptions fromFile = .ok loaded ∧
        loaded = { inlined with program := name, inline := "" } ∧
        ((∃ fault, carryOut inlined find = .error fault ∧ carryOut loaded find = .error fault) ∨
          ∃ one other lines, carryOut inlined find = .ok one ∧ carryOut loaded find = .ok other ∧
            one.exitCode = other.exitCode ∧
            one.logLines inlined = other.logLines loaded ∧
            one.output =
              (if inlined.quiet then [] else ["Running inline assembly"]) ++ lines ∧
            other.output =
              (if inlined.quiet then [] else ["Loading program: " ++ name]) ++ lines) := by
  intro fromArgument fromFile
  have fit : inlineForm source ≠ separator := inlineForm_ne plain whole
  have filled : inlineForm source ≠ "" := inlineForm_ne plain nonempty
  have clear : ∀ argument ∈ before ++ after, (Argument.ofText argument).Sourceless := by
    intro argument among parameter inside
    obtain ⟨other, different⟩ := sourceless argument among parameter inside
    cases parameter with
    | program => contradiction
    | inline => contradiction
    | _ => rfl
  rcases parseOptions_around clear with ⟨common, around⟩ | ⟨early, unused, behind⟩
  case inr => exact .inr (.inl ⟨early, unused, behind _, behind _⟩)
  have parsed := around _ _ _ (selects_inline filled fit)
  have parsedFile := around _ _ _ (selects_program named unseparated spells)
  cases common with
  | error refusal => exact .inl ⟨refusal, parsed, parsedFile⟩
  | ok options =>
      refine .inr (.inr ⟨_, _, parsed, parsedFile, rfl, ?_⟩)
      rw [carryOut_inline options find plain, carryOut_program options find named held]
      unfold carriedOut
      cases required options.level? with
      | error fault => exact .inl ⟨fault, rfl, rfl⟩
      | ok level =>
          cases runUnder options [] source with
          | error fault => exact .inl ⟨fault, rfl, rfl⟩
          | ok report =>
              exact .inr ⟨_, _, report.output, rfl, rfl, rfl, rfl, rfl, rfl⟩

section

open scoped Provision

/-- A file with all three line endings, a comment and a vertical tab. -/
theorem mixed_endings_run_alike :
    let source := "LOAD 7 // seven\r\n\rOUT\x0bJMP 1\n"
    let find : String → Target := fun _ => .file source
    let before := ["-q"]
    let after := ["--max-s", "9"]
    ∃ inlined loaded one other,
      parseOptions (before ++ ["--inline=" ++ inlineForm source] ++ after) = .ok inlined ∧
        parseOptions (before ++ ["--program", "loop.asm"] ++ after) = .ok loaded ∧
        carryOut inlined find = .ok one ∧ carryOut loaded find = .ok other ∧
        one.exitCode = other.exitCode ∧ one.output = other.output ∧
        one.output = ["Execution error: Max steps (9) exceeded", "7"] := by
  intro source find before after
  have sourceless : ∀ argument ∈ before ++ after,
      ∀ parameter ∈ (Argument.ofText argument).parameters,
        parameter ≠ .program ∧ parameter ≠ .inline := by
    decide +kernel
  obtain ⟨options, accepted, quiet, report, carried, output⟩ : ∃ options,
      parseOptions (before ++ ["--inline=" ++ inlineForm source] ++ after) = .ok options ∧
        options.quiet = true ∧ ∃ report, carryOut options find = .ok report ∧
          report.output = ["Execution error: Max steps (9) exceeded", "7"] := by
    refine ⟨{ inline := inlineForm source, quiet := true, stepLimit? := some 9 },
      eq_ok_of_toOption (by decide +kernel), rfl, ?_⟩
    have printed :
        (carryOut { inline := inlineForm source, quiet := true, stepLimit? := some 9 }
          find).toOption.map Report.output =
          some ["Execution error: Max steps (9) exceeded", "7"] := by
      decide +kernel
    obtain ⟨report, reported, output⟩ := Option.map_eq_some_iff.mp printed
    exact ⟨report, eq_ok_of_toOption reported, output⟩
  rcases file_and_inline_programs_agree find source "loop.asm" (by decide) (by decide) (by decide)
      (by decide) (by decide) rfl ["--program", "loop.asm"] (.inr ⟨rfl, by decide⟩) before after
      sourceless with
    ⟨refusal, refused, _⟩ | ⟨early, _⟩ | ⟨inlined, loaded, parsed, parsedFile, _, same⟩
  · rw [accepted] at refused
    contradiction
  · exact absurd early (by decide)
  · obtain rfl := Except.ok.inj (accepted.symm.trans parsed)
    rcases same with ⟨fault, failed, _⟩ |
      ⟨one, other, lines, ran, ranFile, code, _, first, second⟩
    · rw [carried] at failed
      contradiction
    · obtain rfl := Except.ok.inj (carried.symm.trans ran)
      rw [if_pos quiet] at first second
      exact ⟨options, loaded, report, other, accepted, parsedFile, carried, ranFile, code,
        first.trans second.symm, output⟩

end

section

open scoped Provision

/-- The separator is no program text when it is attached to its parameter, but a file may hold
it. -/
theorem lone_separator_is_no_inline_program :
    ¬∀ (find : String → Target) (source name : String), source ≠ "" → ';' ∉ source.toList →
      name ≠ "" → name ≠ "--" → find name = .file source →
        ∀ before after : List String,
          (∀ argument ∈ before ++ after, ∀ parameter ∈ (Argument.ofText argument).parameters,
            parameter ≠ .program ∧ parameter ≠ .inline) →
          ∀ loaded other,
            parseOptions (before ++ ["--program=" ++ name] ++ after) = .ok loaded →
              carryOut loaded find = .ok other →
                ∃ inlined one,
                  parseOptions (before ++ ["--inline=" ++ inlineForm source] ++ after) =
                      .ok inlined ∧
                    carryOut inlined find = .ok one ∧ one.exitCode = other.exitCode := by
  intro claimed
  let find : String → Target := fun _ => .file "--"
  let loaded : Options := { program := "a.asm", quiet := true }
  have accepted : parseOptions (["-q"] ++ ["--program=a.asm"] ++ []) = .ok loaded :=
    eq_ok_of_toOption (by decide +kernel)
  have ran : (carryOut loaded find).toOption.map Report.exitCode = some 0 := by decide +kernel
  obtain ⟨other, reported, _⟩ := Option.map_eq_some_iff.mp ran
  obtain ⟨inlined, _, parsed, _⟩ := claimed find "--" "a.asm" (by decide) (by decide) (by decide)
    (by decide) rfl ["-q"] [] (by decide +kernel) loaded other accepted (eq_ok_of_toOption reported)
  have refused : (parseOptions (["-q"] ++ ["--inline=" ++ inlineForm "--"] ++ [])).toOption =
      none := by
    decide +kernel
  rw [parsed] at refused
  contradiction

end

end Accumulator.CommandLine
