import Accumulator.Proofs.Assembly.Frame
import Accumulator.Proofs.Assembly.ReadBack
import Accumulator.Proofs.Assembly.Refusal
import Accumulator.Proofs.Machine.Lockstep

set_option autoImplicit false

/-!
Programs as they are read. The words of a line give an opcode and an argument, whatever the size of
the memory and the values of the variables; these only say which number the argument stands for. The
operations that come out are the ones in the image, so a program runs as its listing says.
-/

namespace Accumulator.Assembly

open Text (upper words)

/-- What is behind a mnemonic. A number that is missing is zero. -/
inductive Argument
  | named (letter : Variable)
  | number (value : Int)
  deriving DecidableEq, Repr

structure Line where
  opcode : Opcode
  argument : Argument := .number 0
  deriving DecidableEq, Repr

def Argument.ofWords : List (List Char) → Argument
  | [] => .number 0
  | token :: _ =>
    match letterOf? token with
    | some letter => .named letter
    | none => .number ((wordOfToken? token).getD 0)

def Line.ofWords : List (List Char) → Line
  | [] => { opcode := .nop }
  | first :: rest =>
    { opcode := (mnemonicOfWord? first).getD .invalid
      argument := .ofWords rest }

def listing (source : String) : List Line :=
  (programLines source.toList).map fun line => .ofWords (words line)

section Operand

variable (bindings : Bindings) (length : Nat) (memorySize : Int)

/-- The number that an argument stands for, behind an opcode that takes an address or another. -/
def Argument.operand (address : Bool) : Argument → Int
  | .named letter => if address then letter.slot length else boundValue bindings letter
  | .number value => if address then clamp value 0 (memorySize - 1) else value

def Line.operand (line : Line) : Int :=
  line.argument.operand bindings length memorySize line.opcode.usesAddress

def Line.operation (line : Line) : Operation :=
  .ofOpcode (line.operand bindings length memorySize) line.opcode

end Operand

/-- The operations of a program in the memory that it is assembled for. -/
def operations (source : String) (bindings : Bindings) (memorySize : Int) : List Operation :=
  (listing source).map (Line.operation bindings (listing source).length memorySize)

theorem length_listing (source : String) :
    (listing source).length = (programLines source.toList).length :=
  List.length_map _

theorem length_operations (source : String) (bindings : Bindings) (memorySize : Int) :
    (operations source bindings memorySize).length = (programLines source.toList).length := by
  rw [operations, List.length_map, length_listing]

theorem clamp_zero (high : Int) : clamp 0 0 high = 0 := by
  unfold clamp
  omega

theorem Argument.operand_of_missing (bindings : Bindings) (length : Nat) (memorySize : Int)
    (address : Bool) : (Argument.number 0).operand bindings length memorySize address = 0 := by
  cases address with
  | false => rfl
  | true => exact clamp_zero (memorySize - 1)

/-- The number that is written behind a mnemonic is the one that the line says. -/
theorem written?_eq (bindings : Bindings) (length : Nat) (memorySize : Int) (first : List Char)
    (rest : List (List Char)) :
    (written? bindings length memorySize (first :: rest)).getD 0 =
      (Line.ofWords (first :: rest)).operand bindings length memorySize := by
  have named : (Line.ofWords (first :: rest)).opcode.usesAddress = true ↔
      String.ofList (upper first) ∈ OperandKind.address.mnemonics := by
    rw [← namesAddressOpcode_iff, namesAddressOpcode]
    change ((mnemonicOfWord? first).getD .invalid).usesAddress = true ↔ _
    cases mnemonicOfWord? first <;> rfl
  unfold Line.operand
  cases rest with
  | nil => exact (Argument.operand_of_missing bindings length memorySize _).symm
  | cons token others =>
      change _ = (Argument.ofWords (token :: others)).operand _ _ _ _
      unfold written? Argument.ofWords
      dsimp only
      by_cases address : String.ofList (upper first) ∈ OperandKind.address.mnemonics
      · rw [if_pos address, Option.getD_some, ← addressOperand_eq, named.mpr address,
          addressOperand, ofWord?_eq_letterOf?]
        cases letterOf? token with
        | some letter => rfl
        | none =>
            cases wordOfToken? token with
            | some value => rfl
            | none => exact (clamp_zero (memorySize - 1)).symm
      · rw [if_neg address, Option.getD_some, Bool.eq_false_iff.mpr (mt named.mp address),
          meantValue]
        cases letterOf? token <;> rfl

theorem hasDecimal_zero : Numeral.hasDecimal 0 = true := by
  decide +kernel

theorem writable_eq (bindings : Bindings) (length : Nat) (memorySize : Int) (first : List Char)
    (rest : List (List Char)) :
    writable bindings length memorySize (first :: rest) =
      Numeral.hasDecimal
        ((Line.ofWords (first :: rest)).operand bindings length memorySize) := by
  rw [← written?_eq, writable]
  cases written? bindings length memorySize (first :: rest) with
  | some number => rw [Option.all_some, Option.getD_some]
  | none => rw [Option.all_none, Option.getD_none, hasDecimal_zero]

/-- A line is written as a text that decodes to what it says. -/
theorem operation_of_line {bindings : Bindings} {length : Nat} {memorySize : Int}
    {first : List Char} {rest : List (List Char)} (visible : Text.Visible first)
    (nonempty : first ≠ [])
    (short : writable bindings length memorySize (first :: rest) = true) :
    (decode (.text (writtenText bindings length memorySize (first :: rest)))).operation =
      (Line.ofWords (first :: rest)).operation bindings length memorySize := by
  rw [operation_writtenText visible nonempty short, written?_eq, Line.operation]
  change _ = Operation.ofOpcode _ ((mnemonicOfWord? first).getD .invalid)
  cases mnemonicOfWord? first <;> rfl

section Image

variable {source : String} {bindings : Bindings} {memorySize : Int} {image : List Cell}

/-- An image holds the operations of its program. -/
theorem holds_of_assemble [Provision] (made : assemble source bindings memorySize = .ok image) :
    Holds image (operations source bindings memorySize) := by
  obtain ⟨enough, written, cells⟩ := imageCells_of_assemble made
  have size : (image.length : Int) = memorySize := length_of_assemble made
  constructor
  · rw [length_operations]
    omega
  · intro index operation present
    unfold operations listing at present
    rw [List.map_map, List.getElem?_map] at present
    obtain ⟨line, listed, same⟩ := Option.map_eq_some_iff.mp present
    obtain ⟨inside, found⟩ := List.getElem?_eq_some_iff.mp listed
    have among : line ∈ programLines source.toList := found ▸ List.getElem_mem inside
    obtain ⟨first, rest, parted⟩ :=
      List.exists_cons_of_ne_nil (words_programLine_ne_nil among)
    obtain ⟨visible, nonempty⟩ := Text.visible_of_words parted
    have short := written line among
    rw [parted] at short
    let program := programLines source.toList
    refine ⟨.text (writtenText bindings program.length memorySize (first :: rest)), ?_, ?_⟩
    · rw [cells, ← parted, ← found]
      exact getElem?_imageCells_line inside
    · rw [State.latch_of_words
        (words_writtenText bindings _ memorySize rest visible nonempty),
        operation_of_line visible nonempty short, ← same, ← parted, ← length_listing]
      rfl

/-- A machine that starts on an image has the values of the variables in its slots. -/
theorem describes_initial [Provision] (made : assemble source bindings memorySize = .ok image) :
    (Frame.start bindings.valuation).Describes image
      (operations source bindings memorySize).length (State.initial image) where
  pc := rfl
  acc := rfl
  outputs := rfl
  size := State.size_initial image
  slots letter := by
    obtain ⟨_, _, cells⟩ := imageCells_of_assemble made
    rw [State.getElem?_initial, cells, length_operations, getElem?_imageCells_slot]
    exact congrArg (some ∘ Cell.int) (get_valuation bindings letter).symm
  others index _ := State.getElem?_initial image index
  running := rfl
  boundary := .inl rfl

theorem starts_of_assemble [Provision] (made : assemble source bindings memorySize = .ok image)
    {program : List Operation} (listed : operations source bindings memorySize = program) :
    Holds image program ∧
      (Frame.start bindings.valuation).Describes image program.length (State.initial image) := by
  subst listed
  exact ⟨holds_of_assemble made, describes_initial made⟩

/-- A program that fits is assembled exactly when the memory can be provided and the numbers that
its lines ask for can be written. -/
theorem exists_image_iff [Provision] (bindings : Bindings)
    (enough : ((programLines source.toList).length : Int) + 3 ≤ memorySize) :
    (∃ image, assemble source bindings memorySize = .ok image) ↔
      memorySize < Provision.bound ∧ ∀ line ∈ listing source,
        Numeral.hasDecimal (line.operand bindings (listing source).length memorySize) = true := by
  have nonnegative : 0 ≤ memorySize := by omega
  have lines : ((programLines source.toList).all fun line =>
      writable bindings (programLines source.toList).length memorySize (words line)) =
        (listing source).all fun line =>
          Numeral.hasDecimal (line.operand bindings (listing source).length memorySize) := by
    rw [listing, List.all_map, List.length_map]
    apply Bool.eq_iff_iff.mpr
    rw [List.all_eq_true, List.all_eq_true]
    refine forall_congr' fun line => forall_congr' fun among => ?_
    obtain ⟨first, rest, parted⟩ :=
      List.exists_cons_of_ne_nil (words_programLine_ne_nil among)
    rw [parted, writable_eq, Function.comp_apply, parted]
  rw [← List.all_eq_true, ← sizeFault?_eq_none_iff nonnegative, assemble,
    imageOfLines_of_fits bindings enough, lines]
  cases sizeFault? memorySize with
  | some fault => simp
  | none =>
      dsimp only
      split
      · next short => exact ⟨fun _ => ⟨rfl, short⟩, fun _ => ⟨_, rfl⟩⟩
      · next long => simp [long]

/-- Whether the number that a line asks for can be written whatever the variables are worth. -/
def Line.isPlain (line : Line) : Bool :=
  line.opcode.usesAddress ||
    match line.argument with
    | .named _ => false
    | .number value => Numeral.hasDecimal value

theorem Line.operand_inside (bindings : Bindings) {length : Nat}
    (enough : (length : Int) + 3 ≤ memorySize) {line : Line}
    (address : line.opcode.usesAddress = true) :
    0 ≤ line.operand bindings length memorySize ∧
      line.operand bindings length memorySize < memorySize := by
  unfold Line.operand
  rw [address]
  cases line.argument with
  | named letter =>
      change 0 ≤ letter.slot length ∧ letter.slot length < memorySize
      cases letter <;> simp only [Variable.slot, Variable.index] <;> omega
  | number value =>
      change 0 ≤ clamp value 0 (memorySize - 1) ∧ clamp value 0 (memorySize - 1) < memorySize
      unfold clamp
      omega

/-- A program that fits and asks for no long value is assembled whenever the memory can be
provided. -/
theorem exists_image_iff_of_short [Provision] (bindings : Bindings)
    (enough : ((listing source).length : Int) + 3 ≤ memorySize)
    (short : ∀ line ∈ listing source, line.opcode.usesAddress = false →
      Numeral.hasDecimal (line.operand bindings (listing source).length memorySize) = true) :
    (∃ image, assemble source bindings memorySize = .ok image) ↔
      memorySize < Provision.bound := by
  rw [exists_image_iff bindings (length_listing source ▸ enough)]
  refine ⟨And.left, fun small => ⟨small, ?_⟩⟩
  intro line among
  cases address : line.opcode.usesAddress with
  | false => exact short line among address
  | true =>
      obtain ⟨above, below⟩ := line.operand_inside bindings enough address
      have room := bound_le_decimalBound
      exact decide_eq_true (by omega)

/-- So is a program of plain lines, whatever the variables are worth. -/
theorem exists_image_iff_of_plain [Provision] (bindings : Bindings)
    (enough : ((listing source).length : Int) + 3 ≤ memorySize)
    (plain : ∀ line ∈ listing source, line.isPlain = true) :
    (∃ image, assemble source bindings memorySize = .ok image) ↔
      memorySize < Provision.bound := by
  apply exists_image_iff_of_short bindings enough
  intro line among value
  have closed := plain line among
  unfold Line.isPlain at closed
  rw [value, Bool.false_or] at closed
  unfold Line.operand
  rw [value]
  cases written : line.argument with
  | named letter =>
      rw [written] at closed
      contradiction
  | number value =>
      rw [written] at closed
      exact closed

/-- The unchecked machine runs every image like the typed one, without a fault. -/
theorem steps_initial_of_assemble [Provision]
    (made : assemble source bindings memorySize = .ok image) (count : Nat) :
    Registry.standard.steps count (Record.ofState (State.initial image)) =
      (Record.ofState ((State.initial image).after count),
        .ok ((State.initial image).lines count)) := by
  obtain ⟨enough, _, cells⟩ := imageCells_of_assemble made
  have nonnegative : 0 ≤ memorySize := by omega
  have small := (sizeFault?_eq_none_iff nonnegative).mp (sizeFault?_of_assemble made)
  have size : (image.length : Int) = memorySize := length_of_assemble made
  have room : (State.initial image).size < Numeral.decimalBound := by
    have bound := bound_le_decimalBound
    rw [State.size_initial]
    omega
  have valid : (State.initial image).Valid := by
    apply State.valid_initial
    intro cell among
    rw [cells] at among
    exact isStorable_imageCells among
  exact Registry.steps_ofState valid room count

end Image

end Accumulator.Assembly
