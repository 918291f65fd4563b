import Accumulator.Proofs.Instruction.Mnemonic
import Accumulator.Proofs.Numeral.RoundTrip

set_option autoImplicit false

/-!
Rendered instructions. The text that shows an instruction has its name for the first word and its
operand for the rest. So the text of an instruction that programs are written in decodes to the same
operation again, as long as its operand has a numeral. The two other names are no mnemonics: the
text that shows a number met as code, or text that is no instruction, decodes to no instruction.
-/

namespace Accumulator

open Text (Visible words)

namespace Opcode

theorem mnemonicOfWord?_name (opcode : Opcode) :
    mnemonicOfWord? opcode.name.toList = if opcode ∈ mnemonics then some opcode else none := by
  have table : ∀ opcode ∈ all,
      mnemonicOfWord? opcode.name.toList = if opcode ∈ mnemonics then some opcode else none := by
    decide +kernel
  exact table opcode (mem_all opcode)

theorem data_not_mem_mnemonics : Opcode.data ∉ mnemonics := by
  decide

theorem data_or_invalid_of_not_mem {opcode : Opcode} (unlisted : opcode ∉ mnemonics) :
    opcode = .data ∨ opcode = .invalid := by
  rcases List.mem_append.mp opcode.mem_all with listed | other
  · exact absurd listed unlisted
  · simpa using other

theorem visible_name (opcode : Opcode) :
    Visible opcode.name.toList ∧ opcode.name.toList ≠ [] := by
  have table : ∀ opcode ∈ all, Visible opcode.name.toList ∧ opcode.name.toList ≠ [] := by decide
  exact table opcode (mem_all opcode)

theorem mem_mnemonics_iff (opcode : Opcode) :
    opcode ∈ mnemonics ↔ ∃ kind : OperandKind, opcode.name ∈ kind.mnemonics := by
  constructor
  · intro listed
    have table : ∀ opcode ∈ mnemonics, opcode.name ∈ opcode.operandKind.mnemonics := by decide
    exact ⟨opcode.operandKind, table opcode listed⟩
  · rintro ⟨kind, named⟩
    obtain ⟨found, present, _⟩ := ofMnemonic?_of_mem named
    rw [name_injective (name_of_ofMnemonic? present).symm]
    exact List.mem_of_find?_eq_some present

end Opcode

namespace Operation

/-- The operand of an instruction that programs are written in is an integer. -/
theorem exists_int_of_operand? {operation : Operation}
    (listed : operation.opcode ∈ Opcode.mnemonics) {number : Number}
    (given : operation.operand? = some number) : ∃ value, number = .int value := by
  cases operation with
  | data word => exact absurd listed Opcode.data_not_mem_mnemonics
  | _ => cases given <;> exact ⟨_, rfl⟩

/-- An operation is made of its opcode and its operand, if it has one. -/
theorem ofOpcode_of_operand? {operation : Operation}
    (listed : operation.opcode ∈ Opcode.mnemonics) {value : Int}
    (given : ∀ number, operation.operand? = some number → number = .int value) :
    ofOpcode value operation.opcode = operation := by
  have operand {number : Int} (held : operation.operand? = some (.int number)) : value = number :=
    (Number.int.inj (given _ held)).symm
  cases operation with
  | data word => exact absurd listed Opcode.data_not_mem_mnemonics
  | load mode number => exact congrArg (Operation.load mode) (operand rfl)
  | store address => exact congrArg Operation.store (operand rfl)
  | arithmetic function mode number =>
      exact congrArg (Operation.arithmetic function mode) (operand rfl)
  | jump condition address => exact congrArg (Operation.jump condition) (operand rfl)
  | _ => rfl

end Operation

theorem operandOfWords_display {value : Int} (short : Numeral.hasDecimal value = true) :
    operandOfWords (words (Number.int value).display.toList) = value := by
  have shown : (Number.int value).display.toList = Numeral.decimal value := by
    rw [Number.display, Numeral.describe_of_short short, Numeral.toList_text]
  rw [shown, Text.words_of_visible (Numeral.visible_decimal value) (Numeral.decimal_ne_nil value),
    operandOfWords, wordOfToken?_decimal short]
  rfl

namespace Instruction

/-- The words of a rendered instruction: the name, and then those of the operand if it has one. -/
theorem exists_words_display (instruction : Instruction) :
    ∃ rest, words instruction.display.toList =
        instruction.operation.opcode.name.toList :: rest ∧
      ∀ number, instruction.operation.operand? = some number →
        rest = words number.display.toList := by
  obtain ⟨visible, nonempty⟩ := instruction.operation.opcode.visible_name
  have alone := Text.words_of_visible visible nonempty
  have followed (behind : List Char) :
      words (instruction.operation.opcode.name.toList ++ ' ' :: behind) =
        instruction.operation.opcode.name.toList :: words behind := by
    rw [Text.words_append_blank (by decide), alone]
    rfl
  unfold display Call.display toCall
  dsimp only
  by_cases invalid : instruction.operation.opcode.name = Opcode.invalid.name
  · -- The source stands behind a blank as well, so what it holds is part of no first word.
    rw [if_pos invalid]
    refine ⟨words ('(' :: (instruction.source.toList ++ [')'])), ?_, ?_⟩
    · rw [← followed]
      simp [String.toList_append]
    · intro number given
      have same := Opcode.name_injective invalid
      cases operation : instruction.operation <;> rw [operation] at same given <;> contradiction
  · rw [if_neg invalid]
    cases operand : instruction.operation.operand? with
    | none => exact ⟨[], alone, nofun⟩
    | some number =>
        refine ⟨words number.display.toList, ?_, ?_⟩
        · rw [← followed]
          simp [String.toList_append]
        · intro other same
          rw [Option.some.inj same]

/-- Decoding undoes rendering for the instructions that programs are written in. -/
theorem operation_decode_display {instruction : Instruction}
    (listed : instruction.operation.opcode ∈ Opcode.mnemonics)
    (short : ∀ value : Int, instruction.operation.operand? = some (.int value) →
      Numeral.hasDecimal value = true) :
    (decode (.text instruction.display)).operation = instruction.operation := by
  obtain ⟨rest, parted, behind⟩ := instruction.exists_words_display
  have decoded := operation_of_words parted
  rw [Opcode.mnemonicOfWord?_name, if_pos listed] at decoded
  rw [decoded]
  apply Operation.ofOpcode_of_operand? listed
  intro number given
  obtain ⟨value, rfl⟩ := Operation.exists_int_of_operand? listed given
  rw [behind _ given, operandOfWords_display (short value given)]

theorem display_of_operation {first second : Instruction}
    (same : second.operation = first.operation)
    (listed : first.operation.opcode ∈ Opcode.mnemonics) : second.display = first.display := by
  have valid : first.operation.opcode.name ≠ Opcode.invalid.name := by
    intro invalid
    rw [Opcode.name_injective invalid] at listed
    exact absurd listed (by decide)
  unfold display Call.display toCall
  dsimp only
  rw [same, if_neg valid, if_neg valid]

/-- The text that shows anything else decodes to no instruction. -/
theorem operation_decode_display_of_other {instruction : Instruction}
    (unlisted : instruction.operation.opcode ∉ Opcode.mnemonics) :
    (decode (.text instruction.display)).operation = .invalid := by
  obtain ⟨rest, parted, _⟩ := instruction.exists_words_display
  have decoded := operation_of_words parted
  rw [Opcode.mnemonicOfWord?_name, if_neg unlisted] at decoded
  exact decoded

end Instruction

/-! ### Numbers met as code -/

theorem opcode_decodeText_ne_data (content : List Char) :
    (decodeText content).operation.opcode ≠ .data := by
  change (operationOfWords (words content)).opcode ≠ .data
  cases words content with
  | nil => exact Opcode.noConfusion
  | cons word rest =>
      dsimp only [operationOfWords]
      cases found : mnemonicOfWord? word with
      | none => exact Opcode.noConfusion
      | some opcode =>
          have listed : opcode ∈ Opcode.mnemonics := by
            rw [mnemonicOfWord?, Opcode.ofMnemonic?] at found
            exact List.mem_of_find?_eq_some found
          dsimp only
          rw [Operation.opcode_ofOpcode]
          rintro rfl
          exact Opcode.data_not_mem_mnemonics listed

theorem opcode_decode_eq_data_iff (cell : Cell) :
    (decode cell).operation.opcode = .data ↔ cell.isNumber = true := by
  cases cell with
  | absent => exact iff_of_false nofun nofun
  | text content => exact iff_of_false (opcode_decodeText_ne_data content.toList) nofun
  | number word => exact iff_of_true rfl rfl
  | flag value => exact iff_of_false (opcode_decodeText_ne_data (flagName value).toList) nofun

/-- A cell that decodes to a mnemonic is rendered as a text that decodes to the same mnemonic with
the same operand, and is rendered alike, if the operand is within the digit limit. Only numbers are
data; no text ever is. A cell that decodes to no mnemonic is data or no instruction, and its
rendering is no instruction. -/
theorem rendered_instruction_decodes_back (cell : Cell) :
    let call := (decode cell).toCall
    let again := (decode (.text call.display)).toCall
    (∀ kind : OperandKind, call.name ∈ kind.mnemonics →
      (∀ value : Int, call.operand = some (.int value) →
        (Nat.toDigits 10 value.natAbs).length ≤ Numeral.digitLimit) →
      again.name = call.name ∧ again.operand = call.operand ∧ again.display = call.display) ∧
    (call.name = "DATA" ↔ cell.isNumber = true) ∧
    ((∀ kind : OperandKind, call.name ∉ kind.mnemonics) →
      (call.name = "DATA" ∨ call.name = "INVALID") ∧
        again.name = "INVALID" ∧ again.operand = none) := by
  intro call again
  have listed_iff := (decode cell).operation.opcode.mem_mnemonics_iff
  refine ⟨?_, ?_, ?_⟩
  · intro kind named short
    have same : (decode (.text call.display)).operation = (decode cell).operation := by
      apply Instruction.operation_decode_display (listed_iff.mpr ⟨kind, named⟩)
      intro value given
      exact (Numeral.hasDecimal_iff value).mpr (short value given)
    exact ⟨congrArg (·.opcode.name) same, congrArg Operation.operand? same,
      Instruction.display_of_operation same (listed_iff.mpr ⟨kind, named⟩)⟩
  · rw [← opcode_decode_eq_data_iff]
    exact ⟨fun named => Opcode.name_injective named, congrArg Opcode.name⟩
  · intro unnamed
    have unlisted : (decode cell).operation.opcode ∉ Opcode.mnemonics := by
      rw [listed_iff]
      rintro ⟨kind, named⟩
      exact unnamed kind named
    have rejected : (decode (.text call.display)).operation = .invalid :=
      Instruction.operation_decode_display_of_other unlisted
    refine ⟨?_, congrArg (·.opcode.name) rejected, congrArg Operation.operand? rejected⟩
    rcases Opcode.data_or_invalid_of_not_mem unlisted with data | invalid
    · exact .inl (congrArg Opcode.name data)
    · exact .inr (congrArg Opcode.name invalid)

/-- An address in hexadecimal after odd blanks, with a word behind it, and the undefined number. -/
theorem odd_spelling_is_rendered_plainly :
    let call := (decode (.text "\u2003divM\x0b-0x1F junk")).toCall
    call.name ∈ OperandKind.address.mnemonics ∧
      (∀ value : Int, call.operand = some (.int value) →
        (Nat.toDigits 10 value.natAbs).length ≤ Numeral.digitLimit) ∧
      call.display = "DIVM -31" ∧
      (decode (.text "DIVM -31")).toCall.operand = some (.int (-31)) ∧
      (decode (.text "DATA nan")).toCall.name = "INVALID" := by
  intro call
  have named : call.name ∈ OperandKind.address.mnemonics := by decide +kernel
  have operand : call.operand = some (.int (-31)) := by decide +kernel
  have shown : call.display = "DIVM -31" := by decide +kernel
  have short (value : Int) (given : call.operand = some (.int value)) :
      (Nat.toDigits 10 value.natAbs).length ≤ Numeral.digitLimit := by
    rw [operand] at given
    rw [← Number.int.inj (Option.some.inj given)]
    decide +kernel
  obtain ⟨_, kept, _⟩ :=
    (rendered_instruction_decodes_back (.text "\u2003divM\x0b-0x1F junk")).1 .address named short
  have unnamed (kind : OperandKind) : (decode (.real .nan)).toCall.name ∉ kind.mnemonics := by
    cases kind <;> decide
  have undefined : (decode (.real .nan)).toCall.display = "DATA nan" := by decide +kernel
  obtain ⟨_, rejected, _⟩ := (rendered_instruction_decodes_back (.real .nan)).2.2 unnamed
  rw [shown] at kept
  rw [undefined] at rejected
  exact ⟨named, short, shown, kept.trans operand, rejected⟩

end Accumulator
