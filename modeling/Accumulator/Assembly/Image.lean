import Accumulator.Assembly.Source
import Accumulator.Assembly.Variable
import Accumulator.Fault
import Accumulator.Machine.State

set_option autoImplicit false

/-!
Memory images. A program line becomes one cell: its mnemonic in upper case and the numeral of its
operand if it has a second word. A variable stands for the address of its slot where the mnemonic
takes an address and for its value elsewhere; addresses are clamped into the memory. The slots
follow the program and hold the values, and the rest of the memory is empty.
-/

namespace Accumulator.Assembly

def requiredCells (length : Nat) : Nat :=
  length + Variable.all.length

/-- The operand of an opcode that takes an address. -/
def addressOperand (length : Nat) (memorySize : Int) (token : List Char) : Int :=
  match Variable.ofWord? token with
  | some letter => letter.slot length
  | none =>
    match wordOfToken? token with
    | some address => clamp address 0 (memorySize - 1)
    | none => 0

/-- The operand of every other word that stands as a mnemonic. -/
def valueOperand (valuation : Valuation) (token : List Char) : Int :=
  match Variable.ofWord? token with
  | some letter => valuation.get letter
  | none => (wordOfToken? token).getD 0

def cellText (length : Nat) (valuation : Valuation) (memorySize : Int) :
    List (List Char) → Except Fault String
  | [] => .ok ""
  | [word] => .ok (String.ofList (Text.upper word))
  | word :: token :: _ =>
    let name := Text.upper word
    let operand :=
      if namesAddressOpcode name then addressOperand length memorySize token
      else valueOperand valuation token
    match Numeral.decimal? operand with
    | some numeral => .ok (String.ofList name ++ " " ++ numeral)
    | none => .error .tooManyDigits

def programCells (valuation : Valuation) (memorySize : Int) (program : List (List Char)) :
    Except Fault (List Cell) :=
  let length := program.length
  program.mapM fun line =>
    (cellText length valuation memorySize (Text.words line)).map Cell.text

def fits (length : Nat) (memorySize : Int) : Bool :=
  requiredCells length ≤ memorySize

def imageOfLines [Provision] (program : List (List Char)) (valuation : Valuation)
    (memorySize : Int) :
    Except Fault (List Cell) :=
  if fits program.length memorySize then do
    let memory ← emptyMemory? memorySize
    let code ← programCells valuation memorySize program
    let slots := Variable.all.map fun letter => Cell.int (valuation.get letter)
    pure (code ++ slots ++ memory.drop (requiredCells program.length))
  else
    .error (Fault.mentioning memorySize (.capacity (requiredCells program.length) memorySize))

def assemble [Provision] (source : String) (bindings : Bindings) (memorySize : Int) :
    Except Fault (List Cell) :=
  imageOfLines (programLines source.toList) bindings.valuation memorySize

end Accumulator.Assembly
