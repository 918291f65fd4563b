import Accumulator.Proofs.Assembly.ReadBack
import Accumulator.Proofs.Fallible
import Accumulator.Proofs.Machine.Lockstep
import Accumulator.Proofs.Simulator.Invariant

set_option autoImplicit false

/-!
Variables by value and by address. A line that computes with the value of a variable may be written
so that it finds the value in the slot instead. As long as nothing is stored in that slot, both
programs run the same: their images differ in instructions only, and those have one effect.
-/

namespace Accumulator

/-- An operation with a value in it, and the one that finds it in a slot. -/
inductive Operation.Redirects (value slot : Int) : Operation → Operation → Prop
  | load : Redirects value slot (.load .immediate value) (.load .direct slot)
  | arithmetic (function : Arithmetic) :
    Redirects value slot (.arithmetic function .immediate value)
      (.arithmetic function .direct slot)

theorem State.apply_of_redirects (state : State) {value slot : Int} {first second : Operation}
    (redirects : first.Redirects value slot second) (held : (state.read slot).word = value) :
    state.apply second = state.apply first := by
  cases redirects with
  | load => simp only [apply, operandValue, held]
  | arithmetic function => simp only [apply, operandValue, held]

namespace Assembly

open Text (upper words)

/-- The mnemonics that compute with a value, each with the one that finds it in a cell. -/
def directNames : List (String × String) :=
  [("LOAD", "LOADI"), ("ADD", "ADDM"), ("SUB", "SUBM"), ("MUL", "MULM"), ("DIV", "DIVM")]

/-- A line that computes with the value of a variable, and the same line with the mnemonic that
takes an address. -/
inductive RedirectedLine (letter : Variable) : List (List Char) → List (List Char) → Prop
  | line {first second token : List Char} {others later : List (List Char)}
    (names : (String.ofList (upper first), String.ofList (upper second)) ∈ directNames)
    (lettered : letterOf? token = some letter) :
    RedirectedLine letter (first :: token :: others) (second :: token :: later)

/-- The variable occurs in a line that is changed from the first program to the second. -/
def Changes (program changed : List (List Char)) (letter : Variable) : Prop :=
  ∃ (index : Nat) (line other : List Char), program[index]? = some line ∧
    changed[index]? = some other ∧ RedirectedLine letter (words line) (words other)

/-- Two programs whose lines have the same words, but for those that are changed. -/
structure Redirected (program changed : List (List Char)) : Prop where
  length : program.length = changed.length
  lines : ∀ (index : Nat) (line other : List Char), program[index]? = some line →
    changed[index]? = some other →
      words line = words other ∨ ∃ letter, RedirectedLine letter (words line) (words other)

/-! ### One line -/

theorem names_of_mem_directNames {first second : String} (names : (first, second) ∈ directNames) :
    first ∈ OperandKind.value.mnemonics ∧ second ∈ OperandKind.address.mnemonics := by
  have table : ∀ pair ∈ directNames,
      pair.1 ∈ OperandKind.value.mnemonics ∧ pair.2 ∈ OperandKind.address.mnemonics := by
    decide
  exact table (first, second) names

theorem redirects_ofOpcode {first second : String} (names : (first, second) ∈ directNames)
    {left right : Opcode} (leftFound : Opcode.ofMnemonic? first = some left)
    (rightFound : Opcode.ofMnemonic? second = some right) (value slot : Int) :
    (Operation.ofOpcode value left).Redirects value slot (.ofOpcode slot right) := by
  have table : ∀ pair ∈ directNames,
      (Opcode.ofMnemonic? pair.1 = some (.load .immediate) ∧
        Opcode.ofMnemonic? pair.2 = some (.load .direct)) ∨
      ∃ function ∈ [Arithmetic.add, .subtract, .multiply, .divide],
        Opcode.ofMnemonic? pair.1 = some (.arithmetic function .immediate) ∧
          Opcode.ofMnemonic? pair.2 = some (.arithmetic function .direct) := by
    decide
  rcases table (first, second) names with ⟨opcode, other⟩ | ⟨function, _, opcode, other⟩
  · rw [Option.some.inj (leftFound.symm.trans opcode),
      Option.some.inj (rightFound.symm.trans other)]
    exact .load
  · rw [Option.some.inj (leftFound.symm.trans opcode),
      Option.some.inj (rightFound.symm.trans other)]
    exact .arithmetic function

section Line

variable {bindings : Bindings} {length : Nat} {memorySize : Int} {letter : Variable}
variable {first token : List Char} {rest : List (List Char)}

theorem written?_of_value (valued : String.ofList (upper first) ∈ OperandKind.value.mnemonics)
    (lettered : letterOf? token = some letter) :
    written? bindings length memorySize (first :: token :: rest) =
      some (boundValue bindings letter) := by
  have plain : String.ofList (upper first) ∉ OperandKind.address.mnemonics := by
    intro address
    exact absurd (OperandKind.eq_of_mem valued address) (by decide)
  rw [written?, if_neg plain, meantValue, lettered]

theorem written?_of_address
    (addressed : String.ofList (upper first) ∈ OperandKind.address.mnemonics)
    (lettered : letterOf? token = some letter) :
    written? bindings length memorySize (first :: token :: rest) = some (letter.slot length) := by
  rw [written?, if_pos addressed, meantAddress, lettered]
  cases letter
  case x => exact congrArg some (Int.add_zero length).symm
  case y => rfl
  case z => rfl

end Line

/-- The cells of a changed line are both instructions, and these make the same difference. -/
theorem alike_of_redirectedLine {similar : Operation → Operation → Prop} {bindings : Bindings}
    {length : Nat} {memorySize : Int} {letter : Variable} {line other : List Char}
    (redirected : RedirectedLine letter (words line) (words other))
    (short : writable bindings length memorySize (words line) = true)
    (otherShort : writable bindings length memorySize (words other) = true)
    (code : ∀ left right : Operation,
      left.Redirects (boundValue bindings letter) (letter.slot length) right → similar left right) :
    (Cell.text (writtenText bindings length memorySize (words line))).Alike similar
      (.text (writtenText bindings length memorySize (words other))) := by
  generalize parted : words line = left at *
  generalize otherParted : words other = right at *
  cases redirected with
  | @line first second token others later names lettered =>
      obtain ⟨valued, addressed⟩ := names_of_mem_directNames names
      obtain ⟨visible, nonempty⟩ := Text.visible_of_words parted
      obtain ⟨otherVisible, otherNonempty⟩ := Text.visible_of_words otherParted
      obtain ⟨opcode, found, _⟩ := Opcode.ofMnemonic?_of_mem valued
      obtain ⟨otherOpcode, otherFound, _⟩ := Opcode.ofMnemonic?_of_mem addressed
      refine Cell.alike_of_mnemonics
        (words_writtenText bindings length memorySize (token :: others) visible nonempty)
        (words_writtenText bindings length memorySize (token :: later) otherVisible otherNonempty)
        (OperandKind.upper_mem valued) (OperandKind.upper_mem addressed) ?_
      rw [operation_writtenText visible nonempty short,
        operation_writtenText otherVisible otherNonempty otherShort,
        mnemonicOfWord?, found, mnemonicOfWord?, otherFound, written?_of_value valued lettered,
        written?_of_address addressed lettered]
      exact code _ _ (redirects_ofOpcode names found otherFound _ _)

/-! ### Images -/

/-- Two operations that are the same or differ in where they find the value of a variable in a
changed line. -/
def SameButForm (bindings : Bindings) (program changed : List (List Char))
    (first second : Operation) : Prop :=
  first = second ∨ ∃ letter, Changes program changed letter ∧
    first.Redirects (boundValue bindings letter) (letter.slot program.length) second

section Program

variable {bindings : Bindings} {program changed : List (List Char)} {memorySize : Int}

/-- Behind the lines an image does not depend on what they say. -/
theorem getElem?_imageCells_behind {index : Nat} (behind : program.length ≤ index) :
    (imageCells program bindings memorySize)[index]? =
      ((Variable.all.map fun letter => .int (boundValue bindings letter)) ++
        List.replicate (memorySize.toNat - (program.length + 3)) .empty)[
          index - program.length]? := by
  unfold imageCells
  rw [List.append_assoc, List.getElem?_append_right (by rw [List.length_map]; exact behind),
    List.length_map]

theorem alike_redirected (redirected : Redirected program changed)
    (written : ∀ line ∈ program, writable bindings program.length memorySize (words line) = true)
    (otherWritten : ∀ line ∈ changed,
      writable bindings changed.length memorySize (words line) = true)
    {index : Nat} {first second : Cell}
    (held : (imageCells program bindings memorySize)[index]? = some first)
    (otherHeld : (imageCells changed bindings memorySize)[index]? = some second) :
    first.Alike (SameButForm bindings program changed) second := by
  have length := redirected.length
  rcases Nat.lt_or_ge index program.length with inside | behind
  · have otherInside : index < changed.length := length ▸ inside
    rw [getElem?_imageCells_line inside] at held
    rw [getElem?_imageCells_line otherInside] at otherHeld
    rw [← Option.some.inj held, ← Option.some.inj otherHeld, ← length]
    have line := List.getElem?_eq_getElem inside
    have other := List.getElem?_eq_getElem otherInside
    rcases redirected.lines index _ _ line other with same | ⟨letter, changes⟩
    · rw [same]
      exact ⟨rfl, .inl rfl⟩
    · refine alike_of_redirectedLine changes (written _ (List.getElem_mem inside))
        (length ▸ otherWritten _ (List.getElem_mem otherInside)) ?_
      intro left right redirects
      exact .inr ⟨letter, ⟨index, _, _, line, other, changes⟩, redirects⟩
  · rw [getElem?_imageCells_behind behind] at held
    rw [getElem?_imageCells_behind (length ▸ behind), ← length, held] at otherHeld
    rw [Option.some.inj otherHeld]
    exact ⟨rfl, .inl rfl⟩

/-- Operations that differ in form only have one effect as long as the slots of the variables in the
changed lines hold the values. -/
theorem concur_of_sameButForm {left right : State}
    (inStep : State.InStep (SameButForm bindings program changed) left right)
    (held : ∀ letter, Changes program changed letter →
      (left.read (letter.slot program.length)).word = boundValue bindings letter) :
    left.Concur right := by
  intro decoded
  refine ⟨(decode left.ir).operation, rfl, ?_⟩
  rcases inStep.latched (.inr decoded) with same | ⟨letter, changes, redirects⟩
  · rw [same]
  · apply right.apply_of_redirects redirects
    rw [← (inStep.cells _).word]
    exact held letter changes

/-- A slot in which nothing is stored holds the value of its variable. -/
theorem word_slot_after {letter : Variable} {count : Nat}
    (spared : ∀ index < count,
      ¬((State.initial (imageCells program bindings memorySize)).after index).StoresTo
        (program.length + letter.index)) :
    (((State.initial (imageCells program bindings memorySize)).after count).read
      (letter.slot program.length)).word = boundValue bindings letter := by
  have slot := @getElem?_imageCells_slot program bindings memorySize letter
  obtain ⟨inside, _⟩ := List.getElem?_eq_some_iff.mp slot
  have place : ((State.initial (imageCells program bindings memorySize)).after count).clampAddress
      (letter.slot program.length) = program.length + letter.index := by
    rw [State.clampAddress, State.size_after, State.size_initial]
    exact State.clampInto_of_lt inside
  rw [State.read, place, State.getElem?_after_of_no_store spared, State.getElem?_initial, slot]
  rfl

end Program

/-- Two programs assemble with the same bindings into memories of the same size, and in the second
one some lines that compute with the value of a variable are written with the mnemonic that takes
the address of its slot. As long as the first one stores nothing in the slot of such a variable,
the machines agree after every number of transitions. The unchecked machines go the same ways
without a fault. -/
theorem value_and_address_forms_run_the_same [Provision] (source other : String)
    (bindings : Bindings) (memorySize : Int) (image otherImage : List Cell)
    (made : assemble source bindings memorySize = .ok image)
    (otherMade : assemble other bindings memorySize = .ok otherImage)
    (redirected : Redirected (programLines source.toList) (programLines other.toList)) :
    let program := programLines source.toList
    let start := State.initial image
    let otherStart := State.initial otherImage
    (∀ count,
      (∀ index < count, ∀ letter, Changes program (programLines other.toList) letter →
        ¬(start.after index).StoresTo (program.length + letter.index)) →
          (start.after count).Agrees (otherStart.after count)) ∧
      (image.length < Numeral.decimalBound → ∀ count,
        Registry.standard.steps count (Record.ofState start) =
            (Record.ofState (start.after count), .ok (start.lines count)) ∧
          Registry.standard.steps count (Record.ofState otherStart) =
            (Record.ofState (otherStart.after count), .ok (otherStart.lines count))) := by
  intro program start otherStart
  obtain ⟨enough, written, cells⟩ := imageCells_of_assemble made
  obtain ⟨otherEnough, otherWritten, otherCells⟩ := imageCells_of_assemble otherMade
  have length : (image.length : Int) = memorySize := by
    rw [cells]
    exact length_imageCells enough
  have otherLength : (otherImage.length : Int) = memorySize := by
    rw [otherCells]
    exact length_imageCells otherEnough
  constructor
  · intro count spared
    have reflexive (operation : Operation) :
        SameButForm bindings program (programLines other.toList) operation operation := .inl rfl
    have inStep : State.InStep (SameButForm bindings program (programLines other.toList))
        start otherStart := by
      apply State.InStep.initial reflexive (by omega)
      intro index first second held otherHeld
      rw [cells] at held
      rw [otherCells] at otherHeld
      exact alike_redirected redirected written otherWritten held otherHeld
    refine (inStep.after reflexive fun index sooner reached => ?_).toAgrees
    apply concur_of_sameButForm reached
    intro letter changes
    dsimp only [start] at spared ⊢
    rw [cells] at spared ⊢
    exact word_slot_after fun earlier before =>
      spared earlier (Nat.lt_trans before sooner) letter changes
  · intro room count
    have valid : start.Valid := State.valid_initial image fun cell among =>
      isStorable_imageCells (cells ▸ among)
    have otherValid : otherStart.Valid := State.valid_initial otherImage fun cell among =>
      isStorable_imageCells (otherCells ▸ among)
    have fits : start.size < Numeral.decimalBound :=
      Nat.lt_of_le_of_lt (Nat.le_of_eq (State.size_initial image)) room
    have otherFits : otherStart.size < Numeral.decimalBound :=
      Nat.lt_of_le_of_lt (Nat.le_of_eq (State.size_initial otherImage)) (by omega)
    exact ⟨Registry.steps_ofState valid fits count,
      Registry.steps_ofState otherValid otherFits count⟩

section

open scoped Provision

/-- Quotients by a variable until nothing is left, each stored over the first line. -/
theorem quotients_by_value_and_by_address :
    let bindings : Bindings := [("y", .text "0x2")]
    let source := "add -7\ndiv y\nstore 0\njnz 1"
    let other := "add -7\ndivm y  // from its slot\nstore 0\njnz 1"
    let start := State.initial
      [.text "ADD -7", .text "DIV 2", .text "STORE 0", .text "JNZ 1",
        .int 0, .int 2, .int 0, .empty]
    let otherStart := State.initial
      [.text "ADD -7", .text "DIVM 5", .text "STORE 0", .text "JNZ 1",
        .int 0, .int 2, .int 0, .empty]
    (assemble source bindings 8).toOption = some start.memory.toList ∧
      (assemble other bindings 8).toOption = some otherStart.memory.toList ∧
      (start.after 33).Agrees (otherStart.after 33) ∧
      (start.after 33).acc = 0 ∧ (start.after 33).pc = 5 := by
  intro bindings source other start otherStart
  have read : (assemble source bindings 8).toOption = some start.memory.toList := by decide +kernel
  have otherRead : (assemble other bindings 8).toOption = some otherStart.memory.toList := by
    decide +kernel
  have reached : (start.after 33).acc = 0 ∧ (start.after 33).pc = 5 := by decide +kernel
  have program : programLines source.toList =
      ["add -7", "div y", "store 0", "jnz 1"].map String.toList := by decide +kernel
  have otherProgram : programLines other.toList =
      ["add -7", "divm y", "store 0", "jnz 1"].map String.toList := by decide +kernel
  have changed : RedirectedLine .y (words "div y".toList) (words "divm y".toList) := by
    have line : words "div y".toList = ["div".toList, "y".toList] := by decide +kernel
    have otherLine : words "divm y".toList = ["divm".toList, "y".toList] := by decide +kernel
    rw [line, otherLine]
    exact .line (by decide +kernel) rfl
  have redirected : Redirected (programLines source.toList) (programLines other.toList) := by
    rw [program, otherProgram]
    refine ⟨rfl, ?_⟩
    intro index line otherLine held otherHeld
    rcases index with _ | _ | _ | _ | index
    case succ.zero =>
      right
      rw [← Option.some.inj held, ← Option.some.inj otherHeld]
      exact ⟨.y, changed⟩
    case succ.succ.succ.succ => contradiction
    all_goals
      left
      rw [← Option.some.inj held, ← Option.some.inj otherHeld]
  have stored : ∀ index < 33, (start.after index).phase = .decode →
      (decode (start.after index).ir).operation.opcode = .store →
        (decode (start.after index).ir).operation = .store 0 := by
    decide +kernel
  have spared : ∀ index < 33, ∀ letter : Variable,
      ¬(start.after index).StoresTo (4 + letter.index) := by
    rintro index sooner letter ⟨address, executes, hit⟩
    have first := stored index sooner executes.decoded
      (by rw [executes.latched]; rfl)
    rw [executes.latched] at first
    cases first
    have zero : (start.after index).clampAddress 0 = 0 := by
      unfold State.clampAddress State.clampInto clamp
      omega
    omega
  obtain ⟨agrees, _⟩ := value_and_address_forms_run_the_same source other bindings 8 _ _
    (eq_ok_of_toOption read) (eq_ok_of_toOption otherRead) redirected
  refine ⟨read, otherRead, ?_, reached⟩
  apply agrees
  intro index sooner letter _
  rw [program]
  exact spared index sooner letter

end

end Assembly

end Accumulator
