import Accumulator.Proofs.CommandLine.Argument
import Accumulator.Proofs.Numeral.Limit

set_option autoImplicit false

/-!
Accepted options. What holds of the options that nothing was asked for, and is kept when a flag is
raised or a parameter is given a value, holds of all options that a command line is accepted with.
So every number among them has a numeral, since it was read from one.
-/

namespace Accumulator.CommandLine

/-- A property of options that no argument can take away. -/
structure Stable (property : Options → Prop) : Prop where
  start : property {}
  raise : ∀ {options changed : Options} {flag : Parameter}, property options →
    options.raise flag = .ok changed → property changed
  assign : ∀ {options changed : Options} {parameter : Parameter} {value : String},
    property options → options.assign parameter value = .ok changed → property changed

namespace Stable

variable {property : Options → Prop}

private theorem foldlM_raise (stable : Stable property) {flags : List Parameter}
    {options changed : Options} (folded : flags.foldlM Options.raise options = .ok changed)
    (holds : property options) : property changed := by
  induction flags generalizing options with
  | nil =>
      rw [← Except.ok.inj folded]
      exact holds
  | cons flag rest previous =>
      obtain ⟨raised, lifted, folded⟩ := exists_of_bind folded
      exact previous folded (stable.raise holds lifted)

theorem raiseAll (stable : Stable property) {flags : List Parameter} {progress raised : Progress}
    (made : progress.raiseAll flags = .ok raised) (holds : property progress.options) :
    property raised.options := by
  obtain ⟨options, folded, made⟩ := exists_of_bind made
  rw [← Except.ok.inj made]
  exact stable.foldlM_raise folded holds

theorem assigned (stable : Stable property) {parameter : Parameter} {value : String}
    {progress given : Progress} (made : progress.assign parameter value = .ok given)
    (holds : property progress.options) : property given.options := by
  obtain ⟨options, changed, made⟩ := exists_of_bind made
  rw [← Except.ok.inj made]
  exact stable.assign holds changed

theorem obeyed (stable : Stable property) {order : Order} {progress reached : Progress}
    (made : progress.obey order = .ok reached) (holds : property progress.options) :
    property reached.options := by
  cases order with
  | leave argument =>
      rw [← Except.ok.inj made]
      exact holds
  | raise flags => exact stable.raiseAll made holds
  | give flags last value =>
      obtain ⟨raised, lifted, given⟩ := exists_of_bind made
      exact stable.assigned given (stable.raiseAll lifted holds)

theorem take (stable : Stable property) {arguments : List Argument} {progress final : Progress}
    (made : progress.take arguments = .ok final) (holds : property progress.options) :
    property final.options := by
  induction arguments using suffix_induction generalizing progress with
  | nil =>
      rw [← Except.ok.inj made]
      exact holds
  | cons argument rest previous =>
      rw [Progress.take_cons] at made
      obtain ⟨⟨order, left⟩, told, made⟩ := exists_of_bind made
      obtain ⟨reached, done, made⟩ := exists_of_bind made
      exact previous left (Argument.of_order told).1 made (stable.obeyed done holds)

theorem of_parseOptions (stable : Stable property) {arguments : List String} {options : Options}
    (accepted : parseOptions arguments = .ok options) : property options := by
  unfold parseOptions at accepted
  dsimp only at accepted
  split at accepted
  · contradiction
  · obtain ⟨progress, taken, accepted⟩ := exists_of_bind accepted
    unfold Progress.conclude at accepted
    dsimp only at accepted
    split at accepted
    · contradiction
    · split at accepted
      · contradiction
      · rw [← Except.ok.inj accepted]
        exact stable.take taken stable.start

end Stable

/-- Every number among the options can be written out. -/
structure Options.Written (options : Options) : Prop where
  x : Numeral.hasDecimal options.x = true
  y : Numeral.hasDecimal options.y = true
  z : Numeral.hasDecimal options.z = true
  memorySize : ∀ size, options.memorySize? = some size → Numeral.hasDecimal size = true
  stepLimit : ∀ limit, options.stepLimit? = some limit → Numeral.hasDecimal limit = true

namespace Options.Written

variable {options changed : Options}

private theorem hasDecimal_of_integerValue {parameter : Parameter} {value : String} {number : Int}
    (read : integerValue parameter value = .ok number) : Numeral.hasDecimal number = true := by
  unfold integerValue at read
  split at read
  · next found =>
      rw [← Except.ok.inj read]
      exact Numeral.hasDecimal_of_decimalLiteral? found
  · contradiction

private theorem hasDecimal_small : Numeral.hasDecimal 0 = true ∧
    Numeral.hasDecimal defaultMemorySize = true ∧ Numeral.hasDecimal defaultStepLimit = true := by
  decide +kernel

theorem raised (written : options.Written) {flag : Parameter}
    (made : options.raise flag = .ok changed) : changed.Written := by
  cases flag with
  | trace =>
      rw [← Except.ok.inj made]
      exact { written with }
  | quiet =>
      rw [← Except.ok.inj made]
      exact { written with }
  | _ => contradiction

theorem cleared (written : options.Written) {parameter : Parameter}
    (made : options.clear parameter = .ok changed) : changed.Written := by
  obtain ⟨zero, _⟩ := hasDecimal_small
  cases parameter with
  | help => cases made
  | trace => cases made
  | quiet => cases made
  | x =>
      rw [← Except.ok.inj made]
      exact { written with x := zero }
  | y =>
      rw [← Except.ok.inj made]
      exact { written with y := zero }
  | z =>
      rw [← Except.ok.inj made]
      exact { written with z := zero }
  | memorySize =>
      rw [← Except.ok.inj made]
      exact { written with memorySize := nofun }
  | stepLimit =>
      rw [← Except.ok.inj made]
      exact { written with stepLimit := nofun }
  | _ =>
      rw [← Except.ok.inj made]
      exact { written with }

theorem given (written : options.Written) {parameter : Parameter} {value : String}
    (made : options.read parameter value = .ok changed) : changed.Written := by
  cases parameter with
  | program =>
      rw [← Except.ok.inj made]
      exact { written with }
  | inline =>
      rw [← Except.ok.inj made]
      exact { written with }
  | x =>
      obtain ⟨number, found, made⟩ := exists_of_bind made
      rw [← Except.ok.inj made]
      exact { written with x := hasDecimal_of_integerValue found }
  | y =>
      obtain ⟨number, found, made⟩ := exists_of_bind made
      rw [← Except.ok.inj made]
      exact { written with y := hasDecimal_of_integerValue found }
  | z =>
      obtain ⟨number, found, made⟩ := exists_of_bind made
      rw [← Except.ok.inj made]
      exact { written with z := hasDecimal_of_integerValue found }
  | memorySize =>
      obtain ⟨number, found, made⟩ := exists_of_bind made
      rw [← Except.ok.inj made]
      refine { written with memorySize := ?_ }
      intro size same
      rw [← Option.some.inj same]
      exact hasDecimal_of_integerValue found
  | stepLimit =>
      obtain ⟨number, found, made⟩ := exists_of_bind made
      rw [← Except.ok.inj made]
      refine { written with stepLimit := ?_ }
      intro limit same
      rw [← Option.some.inj same]
      exact hasDecimal_of_integerValue found
  | level =>
      obtain ⟨level, found, made⟩ := exists_of_bind made
      rw [← Except.ok.inj made]
      exact { written with }
  | _ => cases made

theorem stable : Stable Options.Written where
  start := by
    obtain ⟨zero, size, limit⟩ := hasDecimal_small
    refine ⟨zero, zero, zero, ?_, ?_⟩
    · intro number same
      rw [← Option.some.inj same]
      exact size
    · intro number same
      rw [← Option.some.inj same]
      exact limit
  raise written made := written.raised made
  assign := by
    intro options changed parameter value written made
    unfold Options.assign at made
    split at made
    · exact written.cleared made
    · exact written.given made

end Options.Written

theorem written_of_parseOptions {arguments : List String} {options : Options}
    (accepted : parseOptions arguments = .ok options) : options.Written :=
  Options.Written.stable.of_parseOptions accepted

end Accumulator.CommandLine
