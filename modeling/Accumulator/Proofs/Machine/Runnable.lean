import Accumulator.Proofs.Instruction.Mnemonic
import Accumulator.Proofs.Machine.Unchecked

set_option autoImplicit false

/-!
Records that run. The check of a record promises nothing about what its outputs are or how its
cycles are counted, and nothing has to be: if the program counter is an integer and the instruction
register holds a cell, no transition reports a fault, and the record that it leads to is again of
this kind. The state that a record may be the record of plays no part here.
-/

namespace Accumulator

/-! ### Counting on -/

namespace Number

private theorem magnitudeFraction_pos {significand : Nat} (positive : 0 < significand)
    (exponent : Int) : 0 < (Binary64.magnitudeFraction significand exponent).1 := by
  unfold Binary64.magnitudeFraction Binary64.scaleDown
  split
  · exact positive
  · exact Nat.mul_pos positive (Nat.pow_pos (by decide))

private theorem isNonnegative_finite (significand : Nat) (exponent : Int) :
    (real (.finite false significand exponent)).isNonnegative = true := by
  simp only [isNonnegative, isZero, isAbove, Binary64.isZero, Binary64.isAbove, Bool.or_eq_true,
    beq_iff_eq, decide_eq_true_eq, Int.zero_mul]
  rcases Nat.eq_zero_or_pos significand with zero | positive
  · exact .inl zero
  · exact .inr (Int.natCast_pos.mpr (magnitudeFraction_pos positive exponent))

private theorem isNonnegative_ofFraction (numerator denominator : Nat) :
    (real (Binary64.ofFraction false numerator denominator)).isNonnegative = true := by
  unfold Binary64.ofFraction
  split
  · rfl
  · dsimp only
    generalize (if Binary64.roundQuotient _ _ = _ then _ else _ : Nat × Int) = rounded
    split
    · rfl
    · exact isNonnegative_finite rounded.1 rounded.2

private theorem isNonnegative_ofScaled {total : Int} (positive : 0 < total) (negativeZero : Bool)
    (exponent : Int) : (real (Binary64.ofScaled negativeZero total exponent)).isNonnegative := by
  have sign : (if total = 0 then negativeZero else decide (total < 0)) = false := by
    rw [if_neg (by omega), decide_eq_false (by omega)]
  unfold Binary64.ofScaled
  rw [sign]
  exact isNonnegative_ofFraction _ _

/-- A real number that is not negative has a positive sign unless it is zero. -/
private theorem applySign_of_isNonnegative {negative : Bool} {significand : Nat} {exponent : Int}
    (nonnegative : (real (.finite negative significand exponent)).isNonnegative = true)
    (factor : Nat) :
    Numeral.applySign negative (significand * factor) = (significand * factor : Nat) := by
  cases negative with
  | false => rfl
  | true =>
      rcases Nat.eq_zero_or_pos significand with zero | positive
      · rw [zero, Nat.zero_mul]
        rfl
      · have below : 0 < (Binary64.magnitudeFraction significand exponent).1 :=
          magnitudeFraction_pos positive exponent
        simp only [isNonnegative, isZero, isAbove, Binary64.isZero, Binary64.isAbove,
          Numeral.applySign, if_true, Bool.or_eq_true, beq_iff_eq, decide_eq_true_eq,
          Int.zero_mul] at nonnegative
        omega

theorem isNonnegative_successor {number : Number} (nonnegative : number.isNonnegative = true) :
    number.successor.isNonnegative = true := by
  cases number with
  | int value =>
      simp only [successor, isNonnegative, isZero, isAbove, Bool.or_eq_true, beq_iff_eq,
        decide_eq_true_eq] at nonnegative ⊢
      omega
  | real value =>
      cases value with
      | nan => contradiction
      | infinite negative =>
          cases negative with
          | false => rfl
          | true => contradiction
      | finite negative significand exponent =>
          have one : Binary64.ofFraction false 1 1 = .finite false 0x10000000000000 (-52) := by
            decide +kernel
          unfold successor
          rw [one]
          apply isNonnegative_ofScaled
          dsimp only
          rw [applySign_of_isNonnegative nonnegative]
          have factor : 0 < Nat.pow 2 (-52 - min exponent (-52)).toNat :=
            Nat.pow_pos (by decide)
          change 0 < (_ : Int) + ((0x10000000000000 * Nat.pow 2 _ : Nat) : Int)
          omega

end Number

namespace Record

/-- A record that passes the check, whose program counter is an integer and whose instruction
register holds a cell. -/
structure Runnable (record : Record) : Prop where
  counter : ∃ pc : Nat, record.pc = .int pc ∧ pc < max record.size 1
  latched : ∃ cell, record.ir = .cell cell
  integer : ∃ value : Int, record.acc = .cell (.int value)
  kept : record.outputs.length ≤ outputLimit
  storable : ∀ item ∈ record.memory, item.isStorable = true
  known : ∃ phase, record.phase = .known phase
  counted : record.cycles.isNonnegative = true

private theorem pcInRange_iff {record : Record} {pc : Int} (counter : record.pc = .int pc) :
    record.pcInRange = true ↔ 0 ≤ pc ∧ pc < (max record.size 1 : Nat) := by
  have bounds : ((Number.int pc).isNonnegative && (Number.int pc).isBelow record.size) = true ↔
      0 ≤ pc ∧ pc < record.size := by
    simp only [Number.isNonnegative, Number.isZero, Number.isAbove, Number.isBelow,
      Bool.and_eq_true, Bool.or_eq_true, beq_iff_eq, decide_eq_true_eq]
    omega
  unfold pcInRange
  rw [counter]
  split
  · next empty =>
      have none : record.size = 0 := List.length_eq_zero_iff.mpr (List.isEmpty_iff.mp empty)
      change ((pc == 0) = true) ↔ _
      rw [beq_iff_eq, none]
      omega
  · next occupied =>
      have some : record.size ≠ 0 := by
        intro none
        exact occupied (List.isEmpty_iff.mpr (List.length_eq_zero_iff.mp none))
      rw [bounds]
      omega

theorem accIsInteger_iff (record : Record) :
    record.accIsInteger = true ↔ ∃ value : Int, record.acc = .cell (.int value) := by
  unfold accIsInteger
  split
  · next value held => exact ⟨fun _ => ⟨value, held⟩, fun _ => rfl⟩
  · next other =>
      constructor
      · intro integer
        contradiction
      · rintro ⟨value, held⟩
        exact absurd held (other value)

theorem isValid_iff (record : Record) :
    record.isValid = true ↔ record.pcInRange = true ∧ record.accIsInteger = true ∧
      record.outputs.length ≤ outputLimit ∧ (∀ item ∈ record.memory, item.isStorable = true) ∧
      record.phaseIsKnown = true ∧ record.cycles.isNonnegative = true := by
  simp only [isValid, Bool.and_eq_true, decide_eq_true_eq, List.all_eq_true, and_assoc]

theorem runnable_iff (record : Record) :
    record.Runnable ↔ record.isValid = true ∧ (∃ pc : Int, record.pc = .int pc) ∧
      ∃ cell, record.ir = .cell cell := by
  rw [isValid_iff]
  constructor
  · intro runnable
    obtain ⟨pc, counter, inside⟩ := runnable.counter
    obtain ⟨value, integer⟩ := runnable.integer
    obtain ⟨phase, known⟩ := runnable.known
    refine ⟨⟨(pcInRange_iff counter).mpr ⟨Int.natCast_nonneg pc, by omega⟩, ?_, runnable.kept,
      runnable.storable, ?_, runnable.counted⟩, ⟨pc, counter⟩, runnable.latched⟩
    · exact (record.accIsInteger_iff).mpr ⟨value, integer⟩
    · rw [phaseIsKnown, known]
  · rintro ⟨⟨inRange, integer, kept, storable, known, counted⟩, ⟨pc, counter⟩, latched⟩
    obtain ⟨above, below⟩ := (pcInRange_iff counter).mp inRange
    refine ⟨⟨pc.toNat, ?_, by omega⟩, latched, (record.accIsInteger_iff).mp integer, kept,
      storable, ?_, counted⟩
    · rw [counter, Int.toNat_of_nonneg above]
    · unfold phaseIsKnown at known
      split at known
      · next phase held => exact ⟨phase, held⟩
      · contradiction

/-! ### The changes that a transition is made of -/

/-- Every item that is read is a cell, also where there is none. -/
theorem exists_itemAt {record : Record}
    (storable : ∀ item ∈ record.memory, item.isStorable = true) (position : Nat) :
    ∃ cell, record.itemAt position = .cell cell := by
  unfold itemAt
  cases found : record.memory[position]? with
  | none => exact ⟨.empty, rfl⟩
  | some item =>
      have holds := storable item (List.mem_of_getElem? found)
      cases item with
      | cell content => exact ⟨content, rfl⟩
      | sequence content => contradiction

namespace Runnable

variable {record : Record}

theorem jumpTo (runnable : record.Runnable) (address : Int) :
    (record.jumpTo (.int address)).Runnable :=
  { runnable with
    counter := ⟨State.clampInto record.size address, rfl, State.clampInto_lt_max _ address⟩ }

theorem advance (runnable : record.Runnable) : record.advance.Runnable := by
  obtain ⟨pc, counter, _⟩ := runnable.counter
  unfold Record.advance
  rw [counter]
  exact runnable.jumpTo (pc + 1)

theorem accept (runnable : record.Runnable) (value : Int) :
    (record.accept (.cell (.int value))).Runnable :=
  advance { runnable with integer := ⟨value, rfl⟩ }

theorem emit (runnable : record.Runnable) (value : Item) : (record.emit value).Runnable :=
  { runnable with kept := length_lastOf_le outputLimit (record.outputs ++ [value]) }

theorem writeAt (runnable : record.Runnable) (position : Nat) {item : Item}
    (storable : item.isStorable = true) : (record.writeAt position item).Runnable where
  counter := by
    change ∃ pc : Nat, record.pc = .int pc ∧ pc < max (record.memory.set position item).length 1
    rw [List.length_set]
    exact runnable.counter
  latched := runnable.latched
  integer := runnable.integer
  kept := runnable.kept
  storable := by
    intro other present
    rcases List.mem_or_eq_of_mem_set present with before | written
    · exact runnable.storable other before
    · rw [written]
      exact storable
  known := runnable.known
  counted := runnable.counted

theorem halt (runnable : record.Runnable) : { record with halted := true }.Runnable :=
  { runnable with }

theorem latch (runnable : record.Runnable) (cell : Cell) :
    { record with ir := .cell cell }.Runnable :=
  { runnable with latched := ⟨cell, rfl⟩ }

theorem enter (runnable : record.Runnable) (phase : Phase) :
    { record with phase := .known phase }.Runnable :=
  { runnable with known := ⟨phase, rfl⟩ }

theorem completeCycle (runnable : record.Runnable) : record.completeCycle.Runnable :=
  { runnable with counted := Number.isNonnegative_successor runnable.counted }

/-! ### Operations -/

/-- A change without a fault that keeps the size of the memory and mentions only addresses in it. -/
def Allows (record : Record) (outcome : Except Fault (Record × Event)) : Prop :=
  ∃ changed event, outcome = .ok (changed, event) ∧ changed.Runnable ∧
    changed.size = record.size ∧
    ∀ address ∈ event.addresses, ∃ position : Nat, address = .int position ∧
      position < max record.size 1

theorem perform [Provision] (runnable : record.Runnable) (instruction : Instruction) :
    Allows record (Record.perform instruction.operation.opcode record instruction.toCall) := by
  obtain ⟨operation, source⟩ := instruction
  obtain ⟨acc, integer⟩ := runnable.integer
  have inside (address : Int) : ∃ position : Nat,
      Number.int (State.clampInto record.size address) = .int position ∧
        position < max record.size 1 :=
    ⟨_, rfl, State.clampInto_lt_max _ address⟩
  cases operation with
  | nop => exact ⟨_, _, rfl, runnable.advance, rfl, nofun⟩
  | halt => exact ⟨_, _, rfl, runnable.halt, rfl, nofun⟩
  | output =>
      unfold Record.perform
      dsimp only [Operation.opcode]
      rw [integer]
      exact ⟨_, _, rfl, (runnable.emit _).advance, rfl, nofun⟩
  | load mode operand =>
      cases mode with
      | immediate => exact ⟨_, _, rfl, runnable.accept operand, rfl, nofun⟩
      | direct =>
          refine ⟨_, _, rfl, runnable.accept _, rfl, ?_⟩
          intro address among
          rw [List.mem_singleton.mp among]
          exact inside operand
  | store address =>
      unfold Record.perform
      dsimp only [Operation.opcode]
      rw [integer]
      refine ⟨_, _, rfl, (runnable.writeAt _ rfl).advance, List.length_set, ?_⟩
      intro address among
      rw [List.mem_singleton.mp among]
      exact inside _
  | arithmetic function mode operand =>
      cases mode with
      | immediate =>
          exact ⟨_, _, perform_arithmetic_immediate integer rfl function, runnable.accept _, rfl,
            nofun⟩
      | direct =>
          refine ⟨_, _, perform_arithmetic_direct integer rfl rfl function, runnable.accept _, rfl,
            ?_⟩
          intro address among
          rw [List.mem_singleton.mp among]
          exact inside operand
  | jump condition address =>
      unfold Record.perform
      dsimp only [Operation.opcode]
      split
      · refine ⟨_, _, rfl, runnable.jumpTo address, rfl, ?_⟩
        intro target among
        rw [List.mem_singleton.mp among]
        exact inside address
      · exact ⟨_, _, rfl, runnable.advance, rfl, nofun⟩
  | data word => exact ⟨_, .passedData (.number word), rfl, runnable.advance, rfl, nofun⟩
  | invalid => exact ⟨_, _, rfl, runnable.halt, rfl, nofun⟩

end Runnable

end Record

namespace Registry

open Record (Runnable)

variable {record : Record}

/-- Every decoded cell is a call that the table knows and that is executed without a fault. -/
theorem execute_of_runnable [Provision] (runnable : record.Runnable)
    (room : record.size < Numeral.decimalBound) (cell : Cell) :
    ∃ changed line, standard.execute record (decode cell).toCall = .ok (changed, line) ∧
      changed.Runnable ∧ changed.size = record.size := by
  obtain ⟨changed, event, performed, again, size, inside⟩ := runnable.perform (decode cell)
  have written : event.checkedLine = .ok event.line := by
    apply Event.checkedLine_eq
    intro address among
    obtain ⟨position, rfl, below⟩ := inside address among
    exact State.hasDecimal_of_lt room below
  exact ⟨changed.completeCycle, event.line, execute_of_perform rfl performed written,
    again.completeCycle, size⟩

private theorem fetch_of_runnable (runnable : record.Runnable)
    (room : record.size < Numeral.decimalBound) :
    ∃ changed line, fetch record = .ok (changed, line) ∧ changed.Runnable ∧
      changed.size = record.size := by
  obtain ⟨pc, counter, inside⟩ := runnable.counter
  obtain ⟨content, held⟩ := Record.exists_itemAt runnable.storable (State.clampInto record.size pc)
  have found : record.read record.pc = .ok (.cell content) := by
    rw [counter, Record.read, Record.index_int, Except.map, held]
  have short : Record.written record.pc = .ok record.pc := by
    rw [counter]
    exact if_pos (State.hasDecimal_of_lt room inside)
  refine ⟨_, (Event.fetched record.pc (State.latch content)).line, ?_,
    (runnable.latch (State.latch content)).enter .fetch, rfl⟩
  unfold fetch
  rw [found, short]
  rfl

/-- One transition: no fault, and again a record that runs. -/
theorem step_of_runnable [Provision] (runnable : record.Runnable)
    (room : record.size < Numeral.decimalBound) :
    ∃ changed line, standard.step record = .ok (changed, line) ∧ changed.Runnable ∧
      changed.size = record.size := by
  obtain ⟨phase, known⟩ := runnable.known
  obtain ⟨cell, latched⟩ := runnable.latched
  have decodable : record.ir.decodable = .ok cell := by
    rw [latched]
    rfl
  unfold step
  split
  · exact ⟨record, _, rfl, runnable, rfl⟩
  · rw [known]
    cases phase with
    | idle => exact fetch_of_runnable runnable room
    | execute => exact fetch_of_runnable runnable room
    | fetch =>
        refine ⟨_, (Event.decoded (decode cell).toCall).line, ?_, runnable.enter .decode, rfl⟩
        dsimp only
        unfold decodeOnly
        rw [decodable]
        rfl
    | decode =>
        obtain ⟨changed, line, executed, again, size⟩ := execute_of_runnable runnable room cell
        refine ⟨_, line, ?_, again.enter .execute, size⟩
        dsimp only
        unfold complete
        rw [decodable]
        change (standard.execute record (decode cell).toCall >>= _) = _
        rw [executed]
        rfl

theorem steps_of_runnable [Provision] (runnable : record.Runnable)
    (room : record.size < Numeral.decimalBound) (count : Nat) :
    ∃ final lines, standard.steps count record = (final, .ok lines) ∧ lines.length = count ∧
      final.Runnable ∧ final.size = record.size := by
  induction count generalizing record with
  | zero => exact ⟨record, [], rfl, rfl, runnable, rfl⟩
  | succ count previous =>
      obtain ⟨changed, line, stepped, again, size⟩ := step_of_runnable runnable room
      obtain ⟨final, lines, run, length, kept, same⟩ := previous again (by rw [size]; exact room)
      refine ⟨final, line :: lines, ?_, congrArg (· + 1) length, kept, same.trans size⟩
      rw [steps, stepped]
      dsimp only
      rw [run]
      rfl

end Registry

/-- A decoded instruction has an integer for an operand wherever its opcode takes one. -/
theorem Instruction.operand_of_takes (instruction : Instruction)
    (takes : instruction.operation.opcode.operandKind ≠ .nothing) :
    ∃ operand : Int, instruction.toCall.operand = some (.int operand) := by
  obtain ⟨operation, source⟩ := instruction
  cases operation with
  | load mode operand => exact ⟨operand, rfl⟩
  | store address => exact ⟨address, rfl⟩
  | arithmetic function mode operand => exact ⟨operand, rfl⟩
  | jump condition address => exact ⟨address, rfl⟩
  | _ => exact absurd rfl takes

/-- The step of the machine never fails on a record that passes the check. If the program counter is
an integer and the instruction register holds a cell, every number of transitions leads to a record
that passes it too and has a line for each transition. What such a record has latched is decoded to
an opcode of the table with an integer for the operand it takes, every address meets a cell, unless
there is none, and the accumulator takes part in all arithmetic, a quotient by zero included. -/
theorem valid_record_never_fails [Provision] (record : Record) (valid : record.isValid = true)
    (pc : Int) (counter : record.pc = .int pc) (cell : Cell) (latched : record.ir = .cell cell)
    (room : record.memory.length < Numeral.decimalBound) (count : Nat) :
    ∃ final lines, Registry.standard.steps count record = (final, .ok lines) ∧
      lines.length = count ∧ final.isValid = true ∧
      final.memory.length = record.memory.length ∧
      ∃ (held : Cell) (acc : Int), final.ir = .cell held ∧ final.acc = .cell (.int acc) ∧
        let instruction := decode held
        Registry.standard.find? instruction.toCall.name =
            some instruction.operation.opcode.primitive ∧
          (instruction.operation.opcode.operandKind ≠ .nothing →
            ∃ operand : Int, instruction.toCall.operand = some (.int operand)) ∧
          (∀ address : Int, ∃ position, final.index (.int address) = .ok position ∧
            (position < final.memory.length ∨ final.memory = [])) ∧
          (∀ (function : Arithmetic) (operand : Int), final.acc.apply function (.int operand) =
            .ok (.cell (.int (function.apply acc operand)))) ∧
          final.acc.apply .divide (.int 0) = .ok (.cell (.int 0)) := by
  have runnable : record.Runnable :=
    (record.runnable_iff).mpr ⟨valid, ⟨pc, counter⟩, ⟨cell, latched⟩⟩
  obtain ⟨final, lines, run, length, again, size⟩ :=
    Registry.steps_of_runnable runnable room count
  obtain ⟨held, register⟩ := again.latched
  obtain ⟨acc, integer⟩ := again.integer
  refine ⟨final, lines, run, length, ((final.runnable_iff).mp again).1, size, held, acc, register,
    integer, Registry.find?_standard _, (decode held).operand_of_takes, ?_, ?_, ?_⟩
  · intro address
    refine ⟨_, rfl, ?_⟩
    cases cells : final.memory with
    | nil => exact .inr rfl
    | cons first rest =>
        left
        have some : 0 < final.size := by
          rw [Record.size, cells]
          exact Nat.succ_pos _
        rw [← cells]
        exact State.clampInto_lt some address
  · rw [integer]
    exact fun function operand => Item.apply_int function acc operand
  · rw [integer]
    rfl

section

open scoped Provision

/-- An undefined number in the instruction register, an accumulator without a numeral, a text among
the outputs and a division by zero to come. -/
theorem odd_record_runs_on :
    let record : Record :=
      { memory := [.cell (.text "DIV 0"), .cell .absent, .cell (.real .nan)]
        pc := .int 2
        ir := .cell (.real .nan)
        acc := .cell (.int Numeral.decimalBound)
        phase := .known .decode
        halted := false
        outputs := [.cell (.text "?")]
        cycles := .real (.infinite false) }
    record.isValid = true ∧ record.pc = .int 2 ∧ record.ir = .cell (.real .nan) ∧
      record.memory.length < Numeral.decimalBound ∧
      ∃ final lines, Registry.standard.steps 7 record = (final, .ok lines) ∧
        lines.length = 7 ∧ final.isValid = true := by
  intro record
  have valid : record.isValid = true := rfl
  have room : record.memory.length < Numeral.decimalBound := by decide +kernel
  obtain ⟨final, lines, run, length, again, _⟩ :=
    valid_record_never_fails record valid 2 rfl (.real .nan) rfl room 7
  exact ⟨valid, rfl, rfl, room, final, lines, run, length, again⟩

end

end Accumulator
