import Accumulator.Proofs.Assembly.ReadBack
import Accumulator.Proofs.Machine.Lockstep
import Accumulator.Proofs.Simulator.Driving
import Accumulator.Proofs.Simulator.Loading

set_option autoImplicit false

/-!
Typing a program into an empty memory, one line into one cell, against assembling it. The two
memories hold different texts, numbers in the place of blanks, and addresses that are clamped in
one of them only, but cell by cell they are read and executed to the same effect.
-/

namespace Accumulator

open Text (upper words)

namespace Operation

/-- Settled, two instructions of one name are the same if their operands are, or if these are
addresses of the same cell. -/
theorem settle_ofOpcode {size : Nat} {first second : Int} {opcode : Opcode}
    (same : first = second ∨
      opcode.usesAddress = true ∧ State.clampInto size first = State.clampInto size second) :
    (ofOpcode first opcode).settle size = (ofOpcode second opcode).settle size := by
  rcases same with rfl | ⟨address, clamped⟩
  · rfl
  · rcases opcode with _ | _ | _ | (_ | _) | _ | ⟨_, _ | _⟩ | _ | _ | _
    case load.direct | store | arithmetic.direct | jump =>
      simp only [ofOpcode, settle, clamped]
    all_goals contradiction

end Operation

namespace Assembly

theorem Variable.exists_index {offset : Nat} (small : offset < 3) :
    ∃ letter : Variable, letter.index = offset := by
  have table : ∀ offset < 3, ∃ letter ∈ all, letter.index = offset := by decide
  obtain ⟨letter, _, same⟩ := table offset small
  exact ⟨letter, same⟩

/-- Without a variable, the number that is written behind the mnemonic of a line is the one that the
line has there, or an address of the same cell. -/
theorem written?_of_no_letter (bindings : Bindings) (length : Nat) {memorySize : Int}
    (positive : 0 < memorySize) {first : List Char} {rest : List (List Char)}
    (plain : ∀ token ∈ rest.head?, letterOf? token = none) :
    (written? bindings length memorySize (first :: rest)).getD 0 = operandOfWords rest ∨
      String.ofList (upper first) ∈ OperandKind.address.mnemonics ∧
        State.clampInto memorySize.toNat
            ((written? bindings length memorySize (first :: rest)).getD 0) =
          State.clampInto memorySize.toNat (operandOfWords rest) := by
  cases rest with
  | nil => exact .inl rfl
  | cons token others =>
      have other : letterOf? token = none := plain token rfl
      by_cases address : String.ofList (upper first) ∈ OperandKind.address.mnemonics
      · right
        refine ⟨address, ?_⟩
        rw [written?, if_pos address, Option.getD_some, meantAddress, other, operandOfWords]
        cases wordOfToken? token with
        | none => rfl
        | some number =>
            change State.clampInto memorySize.toNat (max 0 (min number (memorySize - 1))) =
              State.clampInto memorySize.toNat number
            unfold State.clampInto clamp
            omega
      · left
        rw [written?, if_neg address, Option.getD_some, meantValue, other, operandOfWords]

end Assembly

namespace Simulator

/-- Types lines into cells one after another, from an address on. -/
def typing (address : Nat) : List (List Char) → List Command
  | [] => []
  | line :: rest => .editCell address (.text (String.ofList line)) :: typing (address + 1) rest

def typedCell (line : List Char) : Cell :=
  cellOfText (String.ofList line)

theorem perform_typing [Provision] (simulator : Simulator) {address : Nat}
    {program : List (List Char)} {edit : Command} (among : edit ∈ typing address program) :
    (simulator.perform edit).answer = .ok [] := by
  induction program generalizing address with
  | nil => contradiction
  | cons line rest previous =>
      rcases List.mem_cons.mp among with rfl | later
      · rfl
      · exact previous later

/-- Lines typed behind the cells already done replace as many of the cells that follow. -/
theorem state_typing [Provision] (simulator : Simulator) (program : List (List Char))
    {done others : List Cell} (held : simulator.state.memory = (done ++ others).toArray)
    (room : program.length ≤ others.length) :
    (simulator.session (typing done.length program)).state =
      { simulator.state with
        memory := (done ++ program.map typedCell ++ others.drop program.length).toArray } := by
  induction program generalizing simulator done others with
  | nil =>
      rw [List.map_nil, List.append_nil, List.length_nil, List.drop_zero, ← held]
      rfl
  | cons line rest previous =>
      cases others with
      | nil => exact absurd room (Nat.not_succ_le_zero _)
      | cons replaced later =>
          let edited := (simulator.perform
            (.editCell done.length (.text (String.ofList line)))).simulator
          have size : simulator.state.size = done.length + (later.length + 1) := by
            rw [State.size, held, List.size_toArray, List.length_append, List.length_cons]
          have place : simulator.state.clampAddress done.length = done.length :=
            State.clampInto_of_lt (by omega)
          have memory : edited.state.memory =
              (done ++ [typedCell line] ++ later).toArray := by
            change simulator.state.memory.setIfInBounds _ (typedCell line) = _
            rw [place, held, List.setIfInBounds_toArray, List.set_append_right _ _ (Nat.le_refl _),
              Nat.sub_self, List.set_cons_zero, List.append_assoc]
            rfl
          have length : done.length + 1 = (done ++ [typedCell line]).length := by
            rw [List.length_append, List.length_singleton]
          change (edited.session (typing (done.length + 1) rest)).state = _
          rw [length, previous edited memory (Nat.le_of_succ_le_succ room), List.map_cons,
            List.length_cons, List.drop_succ_cons, List.append_assoc done [typedCell line]]
          rfl

/-! ### Cell by cell -/

/-- Executed in a memory of the given size, the two operations have the same effect. -/
def SettledAlike (size : Nat) (first second : Operation) : Prop :=
  first.settle size = second.settle size

theorem settledAlike_refl (size : Nat) (operation : Operation) :
    SettledAlike size operation operation :=
  rfl

theorem typedCell_of_mnemonic {line first : List Char} {rest : List (List Char)}
    (parted : words line = first :: rest) {kind : OperandKind}
    (listed : String.ofList (upper first) ∈ kind.mnemonics) :
    typedCell line = .text (String.ofList line) := by
  rw [typedCell, cellOfText, String.toList_ofList, Text.isEmpty_trim_of_words parted,
    if_neg Bool.false_ne_true, wordOfToken?_of_mnemonic parted listed]

theorem alike_line (bindings : Assembly.Bindings) (length : Nat) {memorySize : Int}
    (positive : 0 < memorySize) {line first : List Char} {rest : List (List Char)}
    (parted : words line = first :: rest) {kind : OperandKind}
    (listed : String.ofList (upper first) ∈ kind.mnemonics)
    (plain : ∀ token ∈ rest.head?, Assembly.letterOf? token = none)
    (short : Assembly.writable bindings length memorySize (words line) = true) :
    (Cell.text (Assembly.writtenText bindings length memorySize (words line))).Alike
      (SettledAlike memorySize.toNat) (typedCell line) := by
  obtain ⟨visible, nonempty⟩ := Text.visible_of_words parted
  obtain ⟨opcode, found, same⟩ := Opcode.ofMnemonic?_of_mem listed
  have typedWords : words (String.ofList line).toList = first :: rest := by
    rw [String.toList_ofList]
    exact parted
  rw [parted] at short ⊢
  rw [typedCell_of_mnemonic parted listed]
  refine Cell.alike_of_mnemonics
    (Assembly.words_writtenText bindings length memorySize rest visible nonempty) typedWords
    (OperandKind.upper_mem listed) listed ?_
  rw [Assembly.operation_writtenText visible nonempty short, operation_of_words typedWords,
    mnemonicOfWord?, found]
  apply Operation.settle_ofOpcode
  rcases Assembly.written?_of_no_letter bindings length positive plain with
    equal | ⟨address, clamped⟩
  · exact .inl equal
  · refine .inr ⟨?_, clamped⟩
    rw [Opcode.usesAddress_iff, same]
    exact OperandKind.eq_of_mem listed address

/-- The number zero and a blank are both read as zero and passed over. -/
theorem alike_zero_empty (size : Nat) : (Cell.int 0).Alike (SettledAlike size) .empty where
  word := by decide +kernel
  code := by
    have blank : decode (State.latch .empty) = decodeText "NOP".toList := by decide +kernel
    have passed : (decodeText "NOP".toList).operation = .nop := by decide +kernel
    change Operation.settle size (.data (.int 0)) = Operation.settle size _
    rw [blank, passed]
    rfl

/-- The memory that typing leaves of an empty one. -/
def typedCells (program : List (List Char)) (memorySize : Int) : List Cell :=
  program.map typedCell ++ List.replicate (memorySize.toNat - program.length) .empty

section Program

variable {program : List (List Char)} {memorySize : Int}

theorem state_typing_new [Provision] (stepLimit : Int)
    (room : (program.length : Int) ≤ memorySize) :
    ((new memorySize stepLimit).session (typing 0 program)).state =
      State.initial (typedCells program memorySize) := by
  have length : program.length ≤ (emptyMemory memorySize).length := by
    rw [emptyMemory, List.length_replicate]
    omega
  have held : (new memorySize stepLimit).state.memory =
      ([] ++ emptyMemory memorySize).toArray := rfl
  have typed := state_typing _ program held length
  rw [emptyMemory, List.drop_replicate, List.nil_append] at typed
  exact typed

theorem length_typedCells (room : (program.length : Int) ≤ memorySize) :
    ((typedCells program memorySize).length : Int) = memorySize := by
  rw [typedCells, List.length_append, List.length_map, List.length_replicate]
  omega

theorem getElem?_typedCells_line {index : Nat} (inside : index < program.length) :
    (typedCells program memorySize)[index]? = some (typedCell program[index]) := by
  rw [typedCells, List.getElem?_append_left (by rw [List.length_map]; exact inside),
    List.getElem?_map, List.getElem?_eq_getElem inside, Option.map_some]

theorem eq_empty_of_behind {index : Nat} {cell : Cell} (behind : program.length ≤ index)
    (held : (typedCells program memorySize)[index]? = some cell) : cell = .empty := by
  rw [typedCells, List.getElem?_append_right (by rw [List.length_map]; exact behind),
    List.getElem?_replicate] at held
  split at held
  · exact (Option.some.inj held).symm
  · contradiction

/-- Behind the lines, an image without bindings has the effect of blanks. -/
theorem alike_behind (enough : (program.length : Int) + 3 ≤ memorySize) {index : Nat}
    {first : Cell} (behind : program.length ≤ index)
    (assembled : (Assembly.imageCells program [] memorySize)[index]? = some first) :
    first.Alike (SettledAlike memorySize.toNat) .empty := by
  obtain ⟨offset, rfl⟩ := Nat.exists_eq_add_of_le behind
  rcases Nat.lt_or_ge offset 3 with slot | rest
  · obtain ⟨letter, rfl⟩ := Assembly.Variable.exists_index slot
    rw [Assembly.getElem?_imageCells_slot] at assembled
    rw [← Option.some.inj assembled]
    exact alike_zero_empty memorySize.toNat
  · obtain ⟨inside, _⟩ := List.getElem?_eq_some_iff.mp assembled
    have length := @Assembly.length_imageCells program [] memorySize enough
    rw [Assembly.getElem?_imageCells_rest (by omega) (by omega)] at assembled
    rw [← Option.some.inj assembled]
    exact ⟨rfl, settledAlike_refl _ _⟩

/-- Each cell of the image has the same effect as the one that is typed in its place. -/
theorem alike_imageCells (enough : (program.length : Int) + 3 ≤ memorySize)
    (written : ∀ line ∈ program,
      Assembly.writable [] program.length memorySize (words line) = true)
    (parted : ∀ line ∈ program, words line ≠ [])
    (named : ∀ line ∈ program, ∀ first ∈ (words line)[0]?,
      ∃ kind : OperandKind, String.ofList (upper first) ∈ kind.mnemonics)
    (plain : ∀ line ∈ program, ∀ token ∈ (words line)[1]?, Assembly.letterOf? token = none)
    {index : Nat} {first second : Cell}
    (assembled : (Assembly.imageCells program [] memorySize)[index]? = some first)
    (typed : (typedCells program memorySize)[index]? = some second) :
    first.Alike (SettledAlike memorySize.toNat) second := by
  rcases Nat.lt_or_ge index program.length with inside | behind
  · have among : program[index] ∈ program := List.getElem_mem inside
    obtain ⟨opening, rest, shape⟩ := List.exists_cons_of_ne_nil (parted _ among)
    obtain ⟨kind, listed⟩ := named _ among opening (by rw [shape]; rfl)
    have others : ∀ token ∈ rest.head?, Assembly.letterOf? token = none := by
      intro token second
      apply plain _ among
      rw [shape, List.getElem?_cons_succ, ← List.head?_eq_getElem?]
      exact second
    rw [Assembly.getElem?_imageCells_line inside] at assembled
    rw [getElem?_typedCells_line inside] at typed
    rw [← Option.some.inj assembled, ← Option.some.inj typed]
    exact alike_line [] program.length (by omega) shape listed others (written _ among)
  · rw [eq_empty_of_behind behind typed]
    exact alike_behind enough behind assembled

end Program

theorem perform_loadProgram_of_assembled [Provision] (simulator : Simulator) {source : String}
    {bindings : Assembly.Bindings} {image : List Cell}
    (made : Assembly.assemble source bindings simulator.memorySize = .ok image) :
    (simulator.perform (.loadProgram source bindings)).answer = .ok [] ∧
      (simulator.perform (.loadProgram source bindings)).simulator.state =
        State.initial image := by
  unfold perform
  dsimp only
  rw [loadProgram_of_assembled simulator made]
  exact ⟨rfl, rfl⟩

/-- Operations that are settled alike change a machine of that size alike. -/
theorem concur_of_settledAlike {left right : State}
    (inStep : State.InStep (SettledAlike left.size) left right) : left.Concur right := by
  intro decoded
  have alike := inStep.latched (.inr decoded)
  refine ⟨(decode left.ir).operation.settle left.size, (left.apply_settle _).symm, ?_⟩
  rw [alike, inStep.size, right.apply_settle]

/-- A program that assembles, in which every line starts with a mnemonic and none has a variable as
its second word, runs the same when its lines are typed one after another into the cells of an
empty memory. -/
theorem typed_program_runs_like_the_assembled_one [Provision] (source : String)
    (memorySize stepLimit otherLimit : Int) (image : List Cell)
    (made : Assembly.assemble source [] memorySize = .ok image)
    (named : ∀ line ∈ Assembly.programLines source.toList, ∀ first ∈ (words line)[0]?,
      ∃ kind : OperandKind, String.ofList (upper first) ∈ kind.mnemonics)
    (plain : ∀ line ∈ Assembly.programLines source.toList, ∀ token ∈ (words line)[1]?,
      Assembly.letterOf? token = none) :
    let load := (new memorySize stepLimit).perform (.loadProgram source [])
    let edits := typing 0 (Assembly.programLines source.toList)
    let typed := (new memorySize otherLimit).session edits
    load.answer = .ok [] ∧
      (∀ edit ∈ edits, ∀ simulator : Simulator, (simulator.perform edit).answer = .ok []) ∧
      ∀ count, (stepTimes count load.simulator).1.state.Agrees (stepTimes count typed).1.state := by
  intro load edits typed
  obtain ⟨enough, written, cells⟩ := Assembly.imageCells_of_assemble made
  have loaded : load.answer = .ok [] ∧ load.simulator.state = State.initial image :=
    (new memorySize stepLimit).perform_loadProgram_of_assembled made
  have room : ((Assembly.programLines source.toList).length : Int) ≤ memorySize := by omega
  have entered : typed.state =
      State.initial (typedCells (Assembly.programLines source.toList) memorySize) :=
    state_typing_new otherLimit room
  have size : image.length = memorySize.toNat := by
    have length := @Assembly.length_imageCells _ [] memorySize enough
    rw [cells]
    omega
  have start : State.InStep (SettledAlike memorySize.toNat) load.simulator.state typed.state := by
    rw [loaded.2, entered]
    apply State.InStep.initial (settledAlike_refl _)
    · have length := length_typedCells room
      omega
    · intro index first second assembled present
      rw [cells] at assembled
      exact alike_imageCells enough written (fun _ => Assembly.words_programLine_ne_nil) named plain
        assembled present
  refine ⟨loaded.1, fun edit among simulator => perform_typing simulator among, ?_⟩
  intro count
  rw [state_stepTimes, state_stepTimes]
  refine (start.after (settledAlike_refl _) fun index _ reached => ?_).toAgrees
  have sized : (load.simulator.state.after index).size = memorySize.toNat := by
    rw [State.size_after, loaded.2, State.size_initial, size]
  exact concur_of_settledAlike (sized.symm ▸ reached)

section

open scoped Provision

/-- A program that overwrites its first line, loads another one as a number, stores past the end and
runs on through the cells behind it. -/
theorem typed_lines_run_on_through_blanks :
    let source := "load 7  // seven\nSTORE 0x0\nloadi 1\nstore 99\nOut 3"
    let loaded := ((new 10 100).perform (.loadProgram source [])).simulator
    let typed := (new 10 20).session (typing 0 (Assembly.programLines source.toList))
    (Assembly.assemble source [] 10).isOk = true ∧
      loaded.state.memory[5]? = some (.int 0) ∧ typed.state.memory[5]? = some .empty ∧
      (stepTimes 20 loaded).1.state.Agrees (stepTimes 20 typed).1.state ∧
      (stepTimes 20 typed).1.state.pc = 6 ∧ (stepTimes 20 typed).1.state.outputs = [0] := by
  intro source loaded typed
  have assembled : (Assembly.assemble source [] 10).isOk = true := by decide +kernel
  have listed : ∀ line ∈ Assembly.programLines source.toList, ∀ first ∈ (words line)[0]?,
      String.ofList (upper first) ∈ OperandKind.nothing.mnemonics ∨
        String.ofList (upper first) ∈ OperandKind.value.mnemonics ∨
        String.ofList (upper first) ∈ OperandKind.address.mnemonics := by decide +kernel
  have named : ∀ line ∈ Assembly.programLines source.toList, ∀ first ∈ (words line)[0]?,
      ∃ kind : OperandKind, String.ofList (upper first) ∈ kind.mnemonics := by
    intro line among first start
    rcases listed line among first start with nothing | value | address
    · exact ⟨.nothing, nothing⟩
    · exact ⟨.value, value⟩
    · exact ⟨.address, address⟩
  have plain : ∀ line ∈ Assembly.programLines source.toList, ∀ token ∈ (words line)[1]?,
      Assembly.letterOf? token = none := by decide +kernel
  have zero : loaded.state.memory[5]? = some (.int 0) := by decide +kernel
  have blank : typed.state.memory[5]? = some .empty := by decide +kernel
  have reached : (stepTimes 20 typed).1.state.pc = 6 ∧
      (stepTimes 20 typed).1.state.outputs = [0] := by decide +kernel
  -- With the two names unfolded, nothing below is compared by running the simulators.
  dsimp only [loaded, typed] at zero blank reached ⊢
  cases made : Assembly.assemble source [] 10 with
  | error fault =>
      rw [made] at assembled
      exact absurd assembled Bool.false_ne_true
  | ok image =>
      obtain ⟨_, _, agrees⟩ :=
        typed_program_runs_like_the_assembled_one source 10 100 20 image made named plain
      exact ⟨rfl, zero, blank, agrees 20, reached.1, reached.2⟩

end

end Simulator

end Accumulator
