import Accumulator.Instruction.Decode
import Accumulator.Proofs.Numeral.Opening

set_option autoImplicit false

/-!
Mnemonics by the operand that they take. The lists are written out as programs spell them, so what
decoding answers for a first word can be said without the table of opcodes.
-/

namespace Accumulator

/-- What follows a mnemonic: nothing that counts, a number to compute with, or an address. -/
inductive OperandKind
  | nothing
  | value
  | address
  deriving DecidableEq, Repr

def OperandKind.mnemonics : OperandKind → List String
  | .nothing => ["HLT", "NOP", "OUT"]
  | .value => ["LOAD", "ADD", "SUB", "MUL", "DIV"]
  | .address => ["LOADI", "STORE", "ADDM", "SUBM", "MULM", "DIVM", "JMP", "JZ", "JNZ"]

namespace Opcode

def operandKind : Opcode → OperandKind
  | .load .immediate => .value
  | .load .direct => .address
  | .store => .address
  | .arithmetic _ .immediate => .value
  | .arithmetic _ .direct => .address
  | .jump _ => .address
  | _ => .nothing

theorem usesAddress_iff (opcode : Opcode) :
    opcode.usesAddress = true ↔ opcode.operandKind = .address := by
  rcases opcode with _ | _ | _ | (_ | _) | _ | ⟨_, _ | _⟩ | _ | _ | _ <;>
    simp [usesAddress, operandKind]

theorem name_of_ofMnemonic? {name : String} {opcode : Opcode}
    (found : ofMnemonic? name = some opcode) : opcode.name = name := by
  have accepted : (opcode.name == name) = true :=
    @List.find?_some Opcode (fun candidate => candidate.name == name) opcode mnemonics found
  exact eq_of_beq accepted

theorem ofMnemonic?_of_mem {kind : OperandKind} {name : String} (listed : name ∈ kind.mnemonics) :
    ∃ opcode, ofMnemonic? name = some opcode ∧ opcode.operandKind = kind := by
  have table : ∀ name ∈ kind.mnemonics, (ofMnemonic? name).map operandKind = some kind := by
    cases kind <;> decide
  exact Option.map_eq_some_iff.mp (table name listed)

theorem name_mem_mnemonics {name : String} {opcode : Opcode}
    (found : ofMnemonic? name = some opcode) : name ∈ opcode.operandKind.mnemonics := by
  have table : ∀ candidate ∈ mnemonics, candidate.name ∈ candidate.operandKind.mnemonics := by
    decide
  have among : opcode ∈ mnemonics := List.mem_of_find?_eq_some found
  rw [← name_of_ofMnemonic? found]
  exact table opcode among

theorem ofMnemonic?_of_not_mem {name : String}
    (unlisted : ∀ kind : OperandKind, name ∉ kind.mnemonics) : ofMnemonic? name = none := by
  cases found : ofMnemonic? name with
  | none => rfl
  | some opcode => exact absurd (name_mem_mnemonics found) (unlisted opcode.operandKind)

end Opcode

theorem OperandKind.eq_of_mem {left right : OperandKind} {name : String}
    (first : name ∈ left.mnemonics) (second : name ∈ right.mnemonics) : left = right := by
  obtain ⟨opcode, found, kind⟩ := Opcode.ofMnemonic?_of_mem first
  obtain ⟨other, again, otherKind⟩ := Opcode.ofMnemonic?_of_mem second
  rw [found] at again
  rw [← kind, ← otherKind, Option.some.inj again]

/-- A mnemonic in upper case is a mnemonic of the same kind. -/
theorem OperandKind.upper_mem {kind : OperandKind} {word : List Char}
    (listed : String.ofList (Text.upper word) ∈ kind.mnemonics) :
    String.ofList (Text.upper (Text.upper word)) ∈ kind.mnemonics := by
  rw [Text.upper_upper]
  exact listed

/-- The operand of an instruction with a mnemonic of the given kind. -/
def OperandKind.operand? (operand : Int) : OperandKind → Option Number
  | .nothing => none
  | .value => some (.int operand)
  | .address => some (.int operand)

theorem Operation.operand?_ofOpcode {name : String} {opcode : Opcode}
    (found : Opcode.ofMnemonic? name = some opcode) (operand : Int) :
    (ofOpcode operand opcode).operand? = opcode.operandKind.operand? operand := by
  have listed : opcode ∈ Opcode.mnemonics := List.mem_of_find?_eq_some found
  rcases opcode with _ | _ | _ | (_ | _) | _ | ⟨_, _ | _⟩ | _ | _ | _
  case data => exact absurd listed (by decide)
  all_goals rfl

theorem namesAddressOpcode_iff (word : List Char) :
    namesAddressOpcode word = true ↔
      String.ofList (Text.upper word) ∈ OperandKind.address.mnemonics := by
  unfold namesAddressOpcode mnemonicOfWord?
  cases found : Opcode.ofMnemonic? (String.ofList (Text.upper word)) with
  | none =>
      refine ⟨fun impossible => absurd impossible (by decide), fun listed => ?_⟩
      obtain ⟨opcode, present, _⟩ := Opcode.ofMnemonic?_of_mem listed
      rw [found] at present
      contradiction
  | some opcode =>
      rw [Opcode.usesAddress_iff]
      constructor
      · intro address
        rw [← address]
        exact Opcode.name_mem_mnemonics found
      · intro listed
        obtain ⟨other, present, address⟩ := Opcode.ofMnemonic?_of_mem listed
        rw [found] at present
        rw [Option.some.inj present]
        exact address

/-! ### Decoding by the words of a text -/

theorem operation_of_words {content : String} {first : List Char}
    {rest : List (List Char)} (parted : Text.words content.toList = first :: rest) :
    (decode (.text content)).operation =
      match mnemonicOfWord? first with
      | some opcode => Operation.ofOpcode (operandOfWords rest) opcode
      | none => .invalid := by
  change operationOfWords (Text.words content.toList) = _
  rw [parted]
  rfl

/-- A text that starts with a mnemonic is the instruction of that name. -/
theorem toCall_of_mnemonic {content : String} {first : List Char} {rest : List (List Char)}
    (parted : Text.words content.toList = first :: rest) {kind : OperandKind}
    (listed : String.ofList (Text.upper first) ∈ kind.mnemonics) :
    (decode (.text content)).toCall.name = String.ofList (Text.upper first) ∧
      (decode (.text content)).toCall.operand = kind.operand? (operandOfWords rest) := by
  obtain ⟨opcode, found, same⟩ := Opcode.ofMnemonic?_of_mem listed
  have operation := operation_of_words parted
  rw [mnemonicOfWord?, found] at operation
  constructor
  · rw [Instruction.toCall, operation, Operation.opcode_ofOpcode]
    exact Opcode.name_of_ofMnemonic? found
  · rw [Instruction.toCall, operation, ← same]
    exact Operation.operand?_ofOpcode found (operandOfWords rest)

/-- A text that starts with any other word is no instruction. -/
theorem toCall_of_other {content : String} {first : List Char} {rest : List (List Char)}
    (parted : Text.words content.toList = first :: rest)
    (unlisted : ∀ kind : OperandKind, String.ofList (Text.upper first) ∉ kind.mnemonics) :
    (decode (.text content)).toCall.name = "INVALID" ∧
      (decode (.text content)).toCall.operand = none := by
  have operation := operation_of_words parted
  rw [mnemonicOfWord?, Opcode.ofMnemonic?_of_not_mem unlisted] at operation
  rw [Instruction.toCall, operation]
  exact ⟨rfl, rfl⟩

/-- A text that starts with a mnemonic denotes no number. -/
theorem wordOfToken?_of_mnemonic {text first : List Char} {rest : List (List Char)}
    (parted : Text.words text = first :: rest) {kind : OperandKind}
    (listed : String.ofList (Text.upper first) ∈ kind.mnemonics) : wordOfToken? text = none := by
  have capital : ∀ name ∈ kind.mnemonics,
      name.toList.head?.any Numeral.opensLiteral = false := by
    cases kind <;> decide
  have apart : ∀ mnemonic ∈ kind.mnemonics, ∀ name ∈ Numeral.names,
      ¬mnemonic.toList <+: Text.upper name.toList := by
    cases kind <;> decide
  have spelling : (String.ofList (Text.upper first)).toList = Text.upper first :=
    String.toList_ofList
  refine Numeral.wordOfToken?_eq_none parted ?_ ?_
  · intro letter start
    apply Bool.eq_false_iff.mpr
    intro opens
    obtain ⟨others, shape⟩ := List.head?_eq_some_iff.mp start
    have kept : Text.upper first = letter :: Text.upper others := by
      rw [shape, Text.upper, List.flatMap_cons, Numeral.upperCharacter_of_opensLiteral opens]
      rfl
    have closed := capital _ listed
    rw [spelling, kept, List.head?_cons, Option.any_some, opens] at closed
    contradiction
  · intro name member
    rw [← spelling]
    exact apart _ listed name member

end Accumulator
