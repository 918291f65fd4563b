import Accumulator.Assembly.Image
import Accumulator.Proofs.Assembly.Letter
import Accumulator.Proofs.Instruction.Mnemonic

set_option autoImplicit false

/-!
The image of a program in closed form. The assembler stops at the first line that it cannot write,
but which lines those are does not depend on the others, so an image is either the cells of all the
lines, the values of the variables and empty cells, or nothing.
-/

namespace Accumulator.Assembly

open Text (upper words)

def meantAddress (length : Nat) (memorySize : Int) (token : List Char) : Int :=
  match letterOf? token with
  | some .x => length
  | some .y => length + 1
  | some .z => length + 2
  | none =>
    match wordOfToken? token with
    | some number => max 0 (min number (memorySize - 1))
    | none => 0

def meantValue (bindings : Bindings) (token : List Char) : Int :=
  match letterOf? token with
  | some letter => boundValue bindings letter
  | none => (wordOfToken? token).getD 0

/-- The number that is written behind the first word of a line with more than one word. -/
def written? (bindings : Bindings) (length : Nat) (memorySize : Int) :
    List (List Char) → Option Int
  | first :: token :: _ =>
    if String.ofList (upper first) ∈ OperandKind.address.mnemonics then
      some (meantAddress length memorySize token)
    else some (meantValue bindings token)
  | _ => none

def writtenText (bindings : Bindings) (length : Nat) (memorySize : Int)
    (line : List (List Char)) : String :=
  match line, written? bindings length memorySize line with
  | [], _ => ""
  | first :: _, none => String.ofList (upper first)
  | first :: _, some number => String.ofList (upper first) ++ " " ++ Numeral.text number

/-- Whether a line can be written: the number in it, if there is one, has a numeral. -/
def writable (bindings : Bindings) (length : Nat) (memorySize : Int)
    (line : List (List Char)) : Bool :=
  (written? bindings length memorySize line).all Numeral.hasDecimal

/-- Addresses stay inside the memory: slots because the program fits, numbers because they are
clamped. -/
theorem meantAddress_inside {length : Nat} {memorySize : Int}
    (enough : (length : Int) + 3 ≤ memorySize) (token : List Char) :
    0 ≤ meantAddress length memorySize token ∧
      meantAddress length memorySize token < memorySize := by
  unfold meantAddress
  split
  case h_4 => split <;> omega
  all_goals omega

theorem addressOperand_eq (length : Nat) (memorySize : Int) (token : List Char) :
    addressOperand length memorySize token = meantAddress length memorySize token := by
  unfold addressOperand meantAddress
  rw [ofWord?_eq_letterOf?]
  cases letterOf? token with
  | none =>
      cases wordOfToken? token with
      | none => rfl
      | some number =>
          change max 0 (min (memorySize - 1) number) = max 0 (min number (memorySize - 1))
          rw [Int.min_comm]
  | some letter =>
      cases letter
      case x => exact Int.add_zero length
      case y => rfl
      case z => rfl

theorem valueOperand_eq (bindings : Bindings) (token : List Char) :
    valueOperand bindings.valuation token = meantValue bindings token := by
  unfold valueOperand meantValue
  rw [ofWord?_eq_letterOf?]
  cases letterOf? token with
  | none => rfl
  | some letter => exact get_valuation bindings letter

theorem namesAddressOpcode_upper (word : List Char) :
    namesAddressOpcode (upper word) = true ↔
      String.ofList (upper word) ∈ OperandKind.address.mnemonics := by
  rw [namesAddressOpcode_iff, Text.upper_upper]

theorem cellText_eq (bindings : Bindings) (length : Nat) (memorySize : Int)
    (line : List (List Char)) :
    cellText length bindings.valuation memorySize line =
      if writable bindings length memorySize line then
        .ok (writtenText bindings length memorySize line)
      else .error .tooManyDigits := by
  rcases line with _ | ⟨first, _ | ⟨token, rest⟩⟩
  · rfl
  · rfl
  · have operand :
        written? bindings length memorySize (first :: token :: rest) =
          some (if namesAddressOpcode (upper first) then addressOperand length memorySize token
            else valueOperand bindings.valuation token) := by
      rw [written?, addressOperand_eq, valueOperand_eq]
      by_cases address : String.ofList (upper first) ∈ OperandKind.address.mnemonics
      · rw [if_pos address, if_pos ((namesAddressOpcode_upper first).mpr address)]
      · rw [if_neg address,
          if_neg fun named => address ((namesAddressOpcode_upper first).mp named)]
    unfold cellText writable writtenText
    rw [operand, Option.all_some]
    dsimp only
    -- Which operand it is makes no difference to whether it can be written.
    generalize (if namesAddressOpcode (upper first) then addressOperand length memorySize token
      else valueOperand bindings.valuation token) = number
    by_cases short : Numeral.hasDecimal number = true
    · rw [Numeral.decimal?_eq_some short, if_pos short]
    · rw [(Numeral.decimal?_eq_none_iff number).mpr (Bool.eq_false_iff.mpr short), if_neg short]

/-- Steps that fail for one reason only, each by its own input. -/
private theorem mapM_guarded {Input Output : Type} (fault : Fault) (admits : Input → Bool)
    (make : Input → Output) (inputs : List Input) :
    (inputs.mapM fun input => if admits input then .ok (make input) else .error fault) =
      if inputs.all admits then Except.ok (inputs.map make) else .error fault := by
  induction inputs with
  | nil => rfl
  | cons first rest previous =>
      rw [List.mapM_cons, previous, List.all_cons]
      by_cases admitted : admits first = true
      · rw [if_pos admitted, admitted, Bool.true_and]
        by_cases others : rest.all admits = true
        · rw [if_pos others, if_pos others]
          rfl
        · rw [if_neg others, if_neg others]
          rfl
      · rw [if_neg admitted, Bool.eq_false_iff.mpr admitted, Bool.false_and]
        rfl

theorem programCells_eq (bindings : Bindings) (memorySize : Int) (program : List (List Char)) :
    programCells bindings.valuation memorySize program =
      if program.all fun line => writable bindings program.length memorySize (words line) then
        .ok (program.map fun line =>
          .text (writtenText bindings program.length memorySize (words line)))
      else .error .tooManyDigits := by
  rw [← mapM_guarded]
  unfold programCells
  dsimp only
  congr 1
  funext line
  rw [cellText_eq]
  split <;> rfl

def imageCells (program : List (List Char)) (bindings : Bindings) (memorySize : Int) :
    List Cell :=
  (program.map fun line =>
      .text (writtenText bindings program.length memorySize (words line))) ++
    (Variable.all.map fun letter => .int (boundValue bindings letter)) ++
    List.replicate (memorySize.toNat - (program.length + 3)) .empty

theorem sizeFault?_cases [Provision] {size : Int} {fault : Fault}
    (refused : sizeFault? size = some fault) :
    fault = .overflow ∨ fault = .noRoom := by
  unfold sizeFault? at refused
  split at refused
  · exact .inl (Option.some.inj refused).symm
  · split at refused
    · exact .inr (Option.some.inj refused).symm
    · contradiction

section Cells

variable {program : List (List Char)} {bindings : Bindings} {memorySize : Int}

theorem length_imageCells (enough : (program.length : Int) + 3 ≤ memorySize) :
    ((imageCells program bindings memorySize).length : Int) = memorySize := by
  unfold imageCells
  rw [List.length_append, List.length_append, List.length_map, List.length_map,
    List.length_replicate]
  change ((program.length + 3 + (memorySize.toNat - (program.length + 3)) : Nat) : Int) = memorySize
  omega

theorem getElem?_imageCells_line {index : Nat} (inside : index < program.length) :
    (imageCells program bindings memorySize)[index]? =
      some (.text (writtenText bindings program.length memorySize (words program[index]))) := by
  unfold imageCells
  rw [List.append_assoc, List.getElem?_append_left (by rw [List.length_map]; exact inside),
    List.getElem?_map, List.getElem?_eq_getElem inside, Option.map_some]

theorem getElem?_imageCells_slot (letter : Variable) :
    (imageCells program bindings memorySize)[program.length + letter.index]? =
      some (.int (boundValue bindings letter)) := by
  unfold imageCells
  rw [List.append_assoc, List.getElem?_append_right (by rw [List.length_map]; omega),
    List.length_map, Nat.add_sub_cancel_left]
  cases letter <;> rfl

theorem getElem?_imageCells_rest {index : Nat} (behind : program.length + 3 ≤ index)
    (inside : (index : Int) < memorySize) :
    (imageCells program bindings memorySize)[index]? = some .empty := by
  have occupied : ((program.map fun line => Cell.text
      (writtenText bindings program.length memorySize (words line))) ++
      (Variable.all.map fun letter => Cell.int (boundValue bindings letter))).length =
        program.length + 3 := by
    rw [List.length_append, List.length_map, List.length_map]
    rfl
  unfold imageCells
  rw [List.getElem?_append_right (by rw [occupied]; exact behind), occupied,
    List.getElem?_replicate, if_pos (by omega)]

theorem isStorable_imageCells {cell : Cell}
    (among : cell ∈ imageCells program bindings memorySize) : cell.isStorable = true := by
  unfold imageCells at among
  rcases List.mem_append.mp among with occupied | empty
  · rcases List.mem_append.mp occupied with line | slot
    · obtain ⟨_, _, rfl⟩ := List.mem_map.mp line
      rfl
    · obtain ⟨_, _, rfl⟩ := List.mem_map.mp slot
      rfl
  · rw [(List.mem_replicate.mp empty).2]
    rfl

end Cells

theorem imageOfLines_of_fits [Provision] {program : List (List Char)} (bindings : Bindings)
    {memorySize : Int} (enough : (program.length : Int) + 3 ≤ memorySize) :
    imageOfLines program bindings.valuation memorySize =
      match sizeFault? memorySize with
      | some fault => .error fault
      | none =>
        if program.all fun line => writable bindings program.length memorySize (words line) then
          .ok (imageCells program bindings memorySize)
        else .error .tooManyDigits := by
  have fitting : fits program.length memorySize = true := decide_eq_true enough
  unfold imageOfLines emptyMemory?
  rw [if_pos fitting, programCells_eq]
  cases sizeFault? memorySize with
  | some fault => rfl
  | none =>
      dsimp only
      split
      · have remaining : (emptyMemory memorySize).drop (requiredCells program.length) =
            List.replicate (memorySize.toNat - (program.length + 3)) .empty :=
          List.drop_replicate
        simp only [get_valuation]
        change Except.ok (_ ++ _ ++ (emptyMemory memorySize).drop (requiredCells program.length)) =
          Except.ok (imageCells program bindings memorySize)
        rw [remaining]
        rfl
      · rfl

theorem imageOfLines_of_not_fits [Provision] {program : List (List Char)} (valuation : Valuation)
    {memorySize : Int} (scarce : memorySize < (program.length : Int) + 3) :
    imageOfLines program valuation memorySize =
      .error (Fault.mentioning memorySize (.capacity (program.length + 3) memorySize)) := by
  have overfull : fits program.length memorySize = false := by
    apply decide_eq_false
    change ¬((program.length + 3 : Nat) : Int) ≤ memorySize
    omega
  unfold imageOfLines
  rw [overfull]
  rfl

theorem imageCells_of_assemble [Provision] {source : String} {bindings : Bindings}
    {memorySize : Int} {image : List Cell}
    (made : assemble source bindings memorySize = .ok image) :
    let program := programLines source.toList
    (program.length : Int) + 3 ≤ memorySize ∧
      (∀ line ∈ program, writable bindings program.length memorySize (words line) = true) ∧
      image = imageCells program bindings memorySize := by
  intro program
  unfold assemble at made
  by_cases enough : (program.length : Int) + 3 ≤ memorySize
  · rw [imageOfLines_of_fits bindings enough] at made
    cases fault : sizeFault? memorySize with
    | some reason =>
        rw [fault] at made
        contradiction
    | none =>
        rw [fault] at made
        dsimp only at made
        split at made
        · next written => exact ⟨enough, List.all_eq_true.mp written, (Except.ok.inj made).symm⟩
        · contradiction
  · rw [imageOfLines_of_not_fits _ (Int.not_le.mp enough)] at made
    contradiction

theorem length_of_assemble [Provision] {source : String} {bindings : Bindings} {memorySize : Int}
    {image : List Cell} (made : assemble source bindings memorySize = .ok image) :
    (image.length : Int) = memorySize := by
  obtain ⟨enough, _, cells⟩ := imageCells_of_assemble made
  rw [cells]
  exact length_imageCells enough

theorem sizeFault?_of_assemble [Provision] {source : String} {bindings : Bindings}
    {memorySize : Int} {image : List Cell}
    (made : assemble source bindings memorySize = .ok image) :
    sizeFault? memorySize = none := by
  obtain ⟨enough, _, _⟩ := imageCells_of_assemble made
  rw [assemble, imageOfLines_of_fits bindings enough] at made
  cases fault : sizeFault? memorySize with
  | none => rfl
  | some reason =>
      rw [fault] at made
      contradiction

/-- Only a program that does not fit is refused for its cells. -/
theorem capacity_of_assemble [Provision] {source : String} {bindings : Bindings}
    {memorySize size : Int} {required : Nat}
    (refused : assemble source bindings memorySize = .error (.capacity required size)) :
    memorySize < (programLines source.toList).length + 3 ∧
      required = (programLines source.toList).length + 3 ∧ size = memorySize := by
  unfold assemble at refused
  by_cases enough : ((programLines source.toList).length : Int) + 3 ≤ memorySize
  · rw [imageOfLines_of_fits bindings enough] at refused
    cases fault : sizeFault? memorySize with
    | some reason =>
        rw [fault] at refused
        rcases sizeFault?_cases fault with rfl | rfl <;> cases refused
    | none =>
        rw [fault] at refused
        dsimp only at refused
        split at refused <;> cases refused
  · have scarce := Int.not_le.mp enough
    rw [imageOfLines_of_not_fits _ scarce, Fault.mentioning] at refused
    split at refused
    · cases refused
      exact ⟨scarce, rfl, rfl⟩
    · cases refused

end Accumulator.Assembly
