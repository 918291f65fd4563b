import Accumulator.Proofs.Assembly.Image
import Accumulator.Proofs.Numeral.RoundTrip
import Accumulator.Machine.State

set_option autoImplicit false

/-!
An assembled program reads back. What the assembler writes into the cell of a line is split by
decoding at the one blank between the mnemonic and the numeral, the mnemonic is in upper case
already, and the numeral denotes the number that was written, so decoding answers what the line
says.
-/

namespace Accumulator.Assembly

open Text (Visible upper words)

/-- What the words behind a mnemonic of the given kind mean; zero if there are none. -/
def meantOperand (bindings : Bindings) (length : Nat) (memorySize : Int) :
    OperandKind → List (List Char) → Int
  | _, [] => 0
  | .address, token :: _ => meantAddress length memorySize token
  | _, token :: _ => meantValue bindings token

section Line

variable (bindings : Bindings) (length : Nat) (memorySize : Int)
variable {first : List Char} (rest : List (List Char))

theorem words_writtenText (visible : Visible first) (nonempty : first ≠ []) :
    words (writtenText bindings length memorySize (first :: rest)).toList =
      upper first ::
        ((written? bindings length memorySize (first :: rest)).map Numeral.decimal).toList := by
  have name : Visible (upper first) := visible.upper
  have named : upper first ≠ [] := Text.upper_ne_nil nonempty
  unfold writtenText
  cases written? bindings length memorySize (first :: rest) with
  | none =>
      dsimp only
      rw [String.toList_ofList]
      exact Text.words_of_visible name named
  | some number =>
      dsimp only
      simp only [String.toList_append, String.toList_ofList, Numeral.text, List.append_assoc]
      exact Text.words_pair name named (Numeral.visible_decimal number)
        (Numeral.decimal_ne_nil number)

private theorem operandOfWords_written {number? : Option Int}
    (short : number?.all Numeral.hasDecimal = true) :
    operandOfWords (number?.map Numeral.decimal).toList = number?.getD 0 := by
  cases number? with
  | none => rfl
  | some number =>
      rw [Option.all_some] at short
      rw [Option.map_some, Option.toList_some, operandOfWords, wordOfToken?_decimal short]

/-- What is written behind a mnemonic is what the words behind it mean. -/
private theorem operand?_written {kind : OperandKind}
    (listed : String.ofList (upper first) ∈ kind.mnemonics) :
    kind.operand? ((written? bindings length memorySize (first :: rest)).getD 0) =
      kind.operand? (meantOperand bindings length memorySize kind rest) := by
  cases rest with
  | nil => rfl
  | cons token others =>
      cases kind with
      | nothing => rfl
      | value =>
          -- A mnemonic that takes a value is none of those that take an address.
          have plain : String.ofList (upper first) ∉ OperandKind.address.mnemonics := by
            intro address
            exact absurd (OperandKind.eq_of_mem listed address) (by decide)
          rw [written?, if_neg plain]
          rfl
      | address =>
          rw [written?, if_pos listed]
          rfl

variable {bindings length memorySize rest}

/-- Decoding answers the mnemonic of the line with the number that is written behind it. -/
theorem operation_writtenText (visible : Visible first) (nonempty : first ≠ [])
    (short : writable bindings length memorySize (first :: rest) = true) :
    (decode (.text (writtenText bindings length memorySize (first :: rest)))).operation =
      match mnemonicOfWord? first with
      | some opcode =>
        .ofOpcode ((written? bindings length memorySize (first :: rest)).getD 0) opcode
      | none => .invalid := by
  have parted := words_writtenText bindings length memorySize rest visible nonempty
  have same : mnemonicOfWord? (upper first) = mnemonicOfWord? first := by
    rw [mnemonicOfWord?, Text.upper_upper, mnemonicOfWord?]
  have decoded := operation_of_words parted
  rw [operandOfWords_written short, same] at decoded
  exact decoded

theorem toCall_writtenText_of_mnemonic (visible : Visible first) (nonempty : first ≠ [])
    (short : writable bindings length memorySize (first :: rest) = true) {kind : OperandKind}
    (listed : String.ofList (upper first) ∈ kind.mnemonics) :
    let call := (decode (.text (writtenText bindings length memorySize (first :: rest)))).toCall
    call.name = String.ofList (upper first) ∧
      call.operand = kind.operand? (meantOperand bindings length memorySize kind rest) := by
  have parted := words_writtenText bindings length memorySize rest visible nonempty
  have again : String.ofList (upper (upper first)) ∈ kind.mnemonics := by
    rw [Text.upper_upper]
    exact listed
  obtain ⟨name, operand⟩ := toCall_of_mnemonic parted again
  rw [Text.upper_upper] at name
  rw [operandOfWords_written short,
    operand?_written bindings length memorySize rest listed] at operand
  exact ⟨name, operand⟩

theorem toCall_writtenText_of_other (visible : Visible first) (nonempty : first ≠ [])
    (unlisted : ∀ kind : OperandKind, String.ofList (upper first) ∉ kind.mnemonics) :
    let call := (decode (.text (writtenText bindings length memorySize (first :: rest)))).toCall
    call.name = "INVALID" ∧ call.operand = none := by
  have parted := words_writtenText bindings length memorySize rest visible nonempty
  apply toCall_of_other parted
  intro kind
  rw [Text.upper_upper]
  exact unlisted kind

end Line

theorem meantOperand_inside (bindings : Bindings) {length : Nat} {memorySize : Int}
    (enough : (length : Int) + 3 ≤ memorySize) (rest : List (List Char)) :
    0 ≤ meantOperand bindings length memorySize .address rest ∧
      meantOperand bindings length memorySize .address rest < memorySize := by
  cases rest with
  | nil =>
      change 0 ≤ (0 : Int) ∧ (0 : Int) < memorySize
      omega
  | cons token others => exact meantAddress_inside enough token

theorem clampAddress_of_inside {state : State} {address : Int} (above : 0 ≤ address)
    (below : address < state.size) : (state.clampAddress address : Int) = address := by
  unfold State.clampAddress State.clampInto clamp
  omega

theorem assemble_eq_capacity_iff [Provision] (source : String) (bindings : Bindings)
    {memorySize : Int} (short : Numeral.hasDecimal memorySize = true) (required : Nat)
    (size : Int) :
    assemble source bindings memorySize = .error (.capacity required size) ↔
      memorySize < (programLines source.toList).length + 3 ∧
        required = (programLines source.toList).length + 3 ∧ size = memorySize := by
  refine ⟨capacity_of_assemble, ?_⟩
  rintro ⟨scarce, rfl, rfl⟩
  rw [assemble, imageOfLines_of_not_fits _ scarce, Fault.mentioning, if_pos short]

/-- A program is refused for want of cells exactly when it and the three variables do not fit. An
image has one cell for each line, which decodes to what the line says with every address inside
the memory, then the values of the variables, then empty cells. -/
theorem assembled_program_reads_back [Provision] (source : String) (bindings : Bindings)
    (memorySize : Int) (short : Numeral.hasDecimal memorySize = true) :
    let program := programLines source.toList
    (∀ required size, assemble source bindings memorySize = .error (.capacity required size) ↔
      memorySize < program.length + 3 ∧ required = program.length + 3 ∧ size = memorySize) ∧
    ∀ image, assemble source bindings memorySize = .ok image →
      (image.length : Int) = memorySize ∧
      (∀ (index : Nat) (inside : index < program.length),
        ∃ cell first rest, image[index]? = some cell ∧ words program[index] = first :: rest ∧
          let name := String.ofList (upper first)
          let call := (decode cell).toCall
          let meant := meantOperand bindings program.length memorySize
          (∀ kind : OperandKind, name ∈ kind.mnemonics →
            call.name = name ∧ call.operand = kind.operand? (meant kind rest)) ∧
          ((∀ kind : OperandKind, name ∉ kind.mnemonics) →
            call.name = "INVALID" ∧ call.operand = none) ∧
          0 ≤ meant .address rest ∧ meant .address rest < memorySize ∧
          ∀ state : State, state.size = image.length →
            (state.clampAddress (meant .address rest) : Int) = meant .address rest) ∧
      (∀ letter : Variable,
        image[program.length + letter.index]? = some (.int (boundValue bindings letter))) ∧
      ∀ index : Nat, program.length + 3 ≤ index → index < image.length →
        image[index]? = some .empty := by
  intro program
  refine ⟨assemble_eq_capacity_iff source bindings short, ?_⟩
  intro image made
  obtain ⟨enough, written, cells⟩ := imageCells_of_assemble made
  have size : (image.length : Int) = memorySize := by
    rw [cells]
    exact length_imageCells enough
  refine ⟨size, ?_, ?_, ?_⟩
  · intro index inside
    have among : program[index] ∈ program := List.getElem_mem inside
    obtain ⟨first, rest, parted⟩ :=
      List.exists_cons_of_ne_nil (words_programLine_ne_nil among)
    have member : first ∈ words program[index] := by
      rw [parted]
      exact List.mem_cons_self
    have visible : Visible first := Text.visible_of_mem_words member
    have nonempty : first ≠ [] := Text.word_ne_nil member
    have fitting := written program[index] among
    rw [parted] at fitting
    obtain ⟨above, below⟩ := meantOperand_inside bindings enough rest
    refine ⟨.text (writtenText bindings program.length memorySize (first :: rest)), first, rest,
      ?_, parted, ?_, ?_, above, below, ?_⟩
    · rw [cells, ← parted]
      exact getElem?_imageCells_line inside
    · intro kind listed
      exact toCall_writtenText_of_mnemonic visible nonempty fitting listed
    · exact toCall_writtenText_of_other visible nonempty
    · intro state same
      have room : (state.size : Int) = memorySize := by
        rw [same]
        exact size
      exact clampAddress_of_inside above (by rw [room]; exact below)
  · intro letter
    rw [cells]
    exact getElem?_imageCells_slot letter
  · intro index behind inside
    rw [cells]
    exact getElem?_imageCells_rest behind (by omega)

section

open scoped Provision

/-- A program with a comment, a word that is no mnemonic, an address past the end and two bindings
of one variable. -/
theorem four_lines_read_back :
    let source := "load x  // 16\nSTORE y\n\nfoo 3\njmp 99"
    let bindings : Bindings := [("X", .int 4), ("x", .text "0x10")]
    Numeral.hasDecimal 8 = true ∧
      ∃ image, assemble source bindings 8 = .ok image ∧
        (∃ cell, image[1]? = some cell ∧ (decode cell).toCall.name = "STORE" ∧
          (decode cell).toCall.operand = some (.int 5)) ∧
        image[4]? = some (.int 16) ∧ image[7]? = some .empty := by
  intro source bindings
  have short : Numeral.hasDecimal 8 = true := by decide +kernel
  have program : programLines source.toList =
      ["load x", "STORE y", "foo 3", "jmp 99"].map String.toList := by decide +kernel
  have split : words (["load x", "STORE y", "foo 3", "jmp 99"].map String.toList)[1] =
      ["STORE".toList, "y".toList] := by decide +kernel
  have assembled : (assemble source bindings 8).isOk = true := by decide +kernel
  obtain ⟨_, reads⟩ := assembled_program_reads_back source bindings 8 short
  rw [program] at reads
  cases made : assemble source bindings 8 with
  | error fault =>
      rw [made] at assembled
      exact absurd assembled Bool.false_ne_true
  | ok image =>
      obtain ⟨size, lines, slots, behind⟩ := reads image made
      obtain ⟨cell, first, rest, stored, parted, known, _⟩ := lines 1 (by decide)
      obtain ⟨rfl, rfl⟩ := List.cons.inj (split.symm.trans parted)
      obtain ⟨name, operand⟩ := known .address (by decide +kernel)
      refine ⟨short, image, rfl, ⟨cell, stored, name.trans (by decide +kernel), operand⟩, ?_, ?_⟩
      · exact slots .x
      · exact behind 7 (by decide) (by omega)

end

end Accumulator.Assembly
