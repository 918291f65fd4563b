import Accumulator.Instruction.Basic
import Accumulator.Text.UpperCase

set_option autoImplicit false

/-!
Decoding gives every cell exactly one instruction. The first word of a text, in upper case, is the
mnemonic and the second word the operand, which is zero when it is missing or no number; further
words are ignored. A number is data, and no content at all is no operation.
-/

namespace Accumulator

def operandOfWords : List (List Char) → Int
  | [] => 0
  | token :: _ => (wordOfToken? token).getD 0

def mnemonicOfWord? (word : List Char) : Option Opcode :=
  Opcode.ofMnemonic? (String.ofList (Text.upper word))

def operationOfWords : List (List Char) → Operation
  | [] => .nop
  | word :: rest =>
    match mnemonicOfWord? word with
    | some opcode => Operation.ofOpcode (operandOfWords rest) opcode
    | none => .invalid

def decodeText (content : List Char) : Instruction :=
  { operation := operationOfWords (Text.words content)
    source := String.ofList (Text.trim content) }

def decode : Cell → Instruction
  | .absent => { operation := .nop }
  | .number word => { operation := .data word }
  | .text content => decodeText content.toList
  | .flag value => decodeText (flagName value).toList

/-- Whether a word, in either case, names an opcode whose operand is an address. -/
def namesAddressOpcode (word : List Char) : Bool :=
  match mnemonicOfWord? word with
  | some opcode => opcode.usesAddress
  | none => false

/-- Moves a value into a range, to the nearer end; an empty range answers its low end. -/
def clamp (value low high : Int) : Int :=
  max low (min high value)

def targetAddress? (cell : Cell) (memorySize : Int) : Option Int :=
  (decode cell).operation.address?.map fun address => clamp address 0 (memorySize - 1)

end Accumulator
