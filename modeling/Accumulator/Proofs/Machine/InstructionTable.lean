import Accumulator.Proofs.Machine.Validity

set_option autoImplicit false

/-!
The instruction table, stated on its own. A row gives, for a mnemonic and its operand, the whole
state that one instruction leaves. Addresses go to the nearest cell of the memory, quotients are
written by sign and magnitude, and no row mentions the functions that execute instructions.
-/

namespace Accumulator

/-- The quotient toward zero, zero if there is none. -/
def truncatedQuotient (dividend divisor : Int) : Int :=
  if divisor = 0 then 0
  else dividend.sign * divisor.sign * (dividend.natAbs / divisor.natAbs : Nat)

/-- Two signs differ just if their product is negative. A zero dividend has no sign, and then the
magnitude is zero too. -/
theorem Arithmetic.quotient_eq_truncatedQuotient (dividend divisor : Int) :
    quotient dividend divisor = truncatedQuotient dividend divisor := by
  unfold quotient truncatedQuotient
  by_cases zero : divisor = 0
  · rw [if_pos zero, if_pos zero]
  · rw [if_neg zero, if_neg zero]
    dsimp only
    rcases Int.lt_trichotomy dividend 0 with below | rfl | above
    · rcases Int.lt_or_gt_of_ne zero with negative | positive
      · rw [Int.sign_eq_neg_one_of_neg below, Int.sign_eq_neg_one_of_neg negative]
        simp [below, negative]
      · rw [Int.sign_eq_neg_one_of_neg below, Int.sign_eq_one_of_pos positive]
        simp [below, Int.not_lt.mpr (Int.le_of_lt positive)]
    · simp
    · rcases Int.lt_or_gt_of_ne zero with negative | positive
      · rw [Int.sign_eq_one_of_pos above, Int.sign_eq_neg_one_of_neg negative]
        simp [negative, Int.not_lt.mpr (Int.le_of_lt above)]
      · rw [Int.sign_eq_one_of_pos above, Int.sign_eq_one_of_pos positive]
        simp [Int.not_lt.mpr (Int.le_of_lt above), Int.not_lt.mpr (Int.le_of_lt positive)]

theorem Condition.holds_zero_iff (accumulator : Int) :
    Condition.zero.holds accumulator = true ↔ accumulator = 0 :=
  beq_iff_eq

theorem Condition.holds_nonzero_iff (accumulator : Int) :
    Condition.nonzero.holds accumulator = true ↔ accumulator ≠ 0 :=
  bne_iff_ne

namespace State

def nearest (state : State) (address : Int) : Nat :=
  min address.toNat (state.memory.size - 1)

/-- The cell after the program counter, or the last one. -/
def following (state : State) : Nat :=
  min (state.pc + 1) (state.memory.size - 1)

def wordAt (state : State) (address : Int) : Int :=
  match state.memory[state.nearest address]? with
  | some cell => cell.word
  | none => 0

theorem clampAddress_eq_nearest (state : State) (address : Int) :
    state.clampAddress address = state.nearest address := by
  unfold clampAddress clampInto clamp nearest size
  omega

theorem operandValue_direct (state : State) (address : Int) :
    state.operandValue .direct address = state.wordAt address := by
  unfold operandValue wordAt read
  rw [clampAddress_eq_nearest]
  cases state.memory[state.nearest address]? <;> rfl

theorem advance_eq (state : State) : state.advance = { state with pc := state.following } := by
  have same : state.clampAddress (state.pc + 1) = state.following :=
    clampAddress_eq_nearest state (state.pc + 1)
  unfold advance jumpTo
  rw [same]

theorem jumpTo_eq (state : State) (address : Int) :
    state.jumpTo address = { state with pc := state.nearest address } := by
  unfold jumpTo
  rw [clampAddress_eq_nearest]

/-- One row of the table: the instruction of that name with that operand turns one state into the
other. -/
inductive Row (state : State) : String → Option Number → State → Prop
  | nop : Row state "NOP" none { state with pc := state.following }
  | data (word : Number) : Row state "DATA" (some word) { state with pc := state.following }
  | load (value : Int) :
      Row state "LOAD" (some (.int value)) { state with acc := value, pc := state.following }
  | loadFrom (address : Int) :
      Row state "LOADI" (some (.int address))
        { state with acc := state.wordAt address, pc := state.following }
  | store (address : Int) :
      Row state "STORE" (some (.int address))
        { state with
          memory := state.memory.setIfInBounds (state.nearest address) (.int state.acc)
          pc := state.following }
  | add (value : Int) :
      Row state "ADD" (some (.int value))
        { state with acc := state.acc + value, pc := state.following }
  | subtract (value : Int) :
      Row state "SUB" (some (.int value))
        { state with acc := state.acc - value, pc := state.following }
  | multiply (value : Int) :
      Row state "MUL" (some (.int value))
        { state with acc := state.acc * value, pc := state.following }
  | divide (value : Int) :
      Row state "DIV" (some (.int value))
        { state with acc := truncatedQuotient state.acc value, pc := state.following }
  | addFrom (address : Int) :
      Row state "ADDM" (some (.int address))
        { state with acc := state.acc + state.wordAt address, pc := state.following }
  | subtractFrom (address : Int) :
      Row state "SUBM" (some (.int address))
        { state with acc := state.acc - state.wordAt address, pc := state.following }
  | multiplyFrom (address : Int) :
      Row state "MULM" (some (.int address))
        { state with acc := state.acc * state.wordAt address, pc := state.following }
  | divideFrom (address : Int) :
      Row state "DIVM" (some (.int address))
        { state with
          acc := truncatedQuotient state.acc (state.wordAt address)
          pc := state.following }
  | jump (address : Int) :
      Row state "JMP" (some (.int address)) { state with pc := state.nearest address }
  | jumpIfZero (address : Int) (zero : state.acc = 0) :
      Row state "JZ" (some (.int address)) { state with pc := state.nearest address }
  | passUnlessZero (address : Int) (nonzero : state.acc ≠ 0) :
      Row state "JZ" (some (.int address)) { state with pc := state.following }
  | jumpUnlessZero (address : Int) (nonzero : state.acc ≠ 0) :
      Row state "JNZ" (some (.int address)) { state with pc := state.nearest address }
  | passIfZero (address : Int) (zero : state.acc = 0) :
      Row state "JNZ" (some (.int address)) { state with pc := state.following }
  | output :
      Row state "OUT" none
        { state with
          outputs :=
            (state.outputs ++ [state.acc]).drop ((state.outputs ++ [state.acc]).length - 50)
          pc := state.following }
  | halt : Row state "HLT" none { state with halted := true }
  | invalid : Row state "INVALID" none { state with halted := true }

/-! ### Operations follow the table -/

private theorem row_load (state : State) (mode : Mode) (operand : Int) :
    Row state (Operation.load mode operand).opcode.name (some (.int operand))
      (state.apply (.load mode operand)) := by
  cases mode with
  | immediate =>
      rw [apply, advance_eq]
      exact .load operand
  | direct =>
      rw [apply, operandValue_direct, advance_eq]
      exact .loadFrom operand

private theorem row_arithmetic
    (state : State) (function : Arithmetic) (mode : Mode) (operand : Int) :
    Row state (Operation.arithmetic function mode operand).opcode.name (some (.int operand))
      (state.apply (.arithmetic function mode operand)) := by
  cases mode with
  | immediate =>
      rw [apply, advance_eq]
      cases function with
      | add => exact .add operand
      | subtract => exact .subtract operand
      | multiply => exact .multiply operand
      | divide =>
          rw [Arithmetic.apply, Arithmetic.quotient_eq_truncatedQuotient]
          exact .divide operand
  | direct =>
      rw [apply, operandValue_direct, advance_eq]
      cases function with
      | add => exact .addFrom operand
      | subtract => exact .subtractFrom operand
      | multiply => exact .multiplyFrom operand
      | divide =>
          rw [Arithmetic.apply, Arithmetic.quotient_eq_truncatedQuotient]
          exact .divideFrom operand

private theorem row_jump (state : State) (condition : Condition) (address : Int) :
    Row state (Operation.jump condition address).opcode.name (some (.int address))
      (state.apply (.jump condition address)) := by
  change Row state condition.name _
    (if condition.holds state.acc then state.jumpTo address else state.advance)
  rw [jumpTo_eq, advance_eq]
  rcases Decidable.em (state.acc = 0) with zero | nonzero
  · cases condition with
    | always => exact .jump address
    | zero =>
        rw [if_pos ((Condition.holds_zero_iff state.acc).mpr zero)]
        exact .jumpIfZero address zero
    | nonzero =>
        rw [if_neg (fun taken => (Condition.holds_nonzero_iff state.acc).mp taken zero)]
        exact .passIfZero address zero
  · cases condition with
    | always => exact .jump address
    | zero =>
        rw [if_neg (fun taken => nonzero ((Condition.holds_zero_iff state.acc).mp taken))]
        exact .passUnlessZero address nonzero
    | nonzero =>
        rw [if_pos ((Condition.holds_nonzero_iff state.acc).mpr nonzero)]
        exact .jumpUnlessZero address nonzero

theorem row_apply (state : State) (operation : Operation) :
    Row state operation.opcode.name operation.operand? (state.apply operation) := by
  cases operation with
  | nop =>
      rw [apply, advance_eq]
      exact .nop
  | halt => exact .halt
  | output =>
      rw [apply, advance_eq]
      exact .output
  | load mode operand => exact row_load state mode operand
  | store address =>
      rw [apply, advance_eq]
      have kept : (state.write address (.int state.acc)).following = state.following := by
        simp [following, write]
      rw [kept, write, clampAddress_eq_nearest]
      exact .store address
  | arithmetic function mode operand => exact row_arithmetic state function mode operand
  | jump condition address => exact row_jump state condition address
  | data word =>
      rw [apply, advance_eq]
      exact .data word
  | invalid => exact .invalid

/-- The phase and the count of cycles take no part in what an operation does. -/
theorem apply_counted (state : State) (operation : Operation) (phase : Phase) (cycles : Nat) :
    { state.apply operation with phase := phase, cycles := cycles } =
      { state with phase := phase, cycles := cycles }.apply operation := by
  cases operation with
  | load mode operand => cases mode <;> rfl
  | arithmetic function mode operand => cases mode <;> rfl
  | jump condition address =>
      unfold apply
      dsimp only
      split <;> rfl
  | _ => rfl

theorem cycles_apply (state : State) (operation : Operation) :
    (state.apply operation).cycles = state.cycles := by
  cases operation with
  | jump condition address =>
      change (if condition.holds state.acc then state.jumpTo address else state.advance).cycles = _
      split <;> rfl
  | _ => rfl

end State

end Accumulator
