set_option autoImplicit false

/-!
Opcodes: the seventeen mnemonics that programs are written in, and two more that only decoding
produces, for a number met as code and for text that is no instruction.
-/

namespace Accumulator

/-- Where an instruction finds its operand: in itself, or in the cell that it addresses. -/
inductive Mode
  | immediate
  | direct
  deriving DecidableEq, Repr

inductive Arithmetic
  | add
  | subtract
  | multiply
  | divide
  deriving DecidableEq, Repr

/-- What the accumulator has to satisfy for a jump to be taken. -/
inductive Condition
  | always
  | zero
  | nonzero
  deriving DecidableEq, Repr

inductive Opcode
  | nop
  | halt
  | output
  | load (mode : Mode)
  | store
  | arithmetic (function : Arithmetic) (mode : Mode)
  | jump (condition : Condition)
  | data
  | invalid
  deriving DecidableEq, Repr

namespace Arithmetic

/-- The quotient cut toward zero: that of the magnitudes, negative if just one of the operands is
below zero. A quotient by zero is zero. -/
def quotient (dividend divisor : Int) : Int :=
  if divisor = 0 then 0
  else
    let magnitude : Int := (dividend.natAbs / divisor.natAbs : Nat)
    if decide (dividend < 0) = decide (divisor < 0) then magnitude else -magnitude

def apply : Arithmetic → Int → Int → Int
  | .add, left, right => left + right
  | .subtract, left, right => left - right
  | .multiply, left, right => left * right
  | .divide, left, right => quotient left right

def name : Arithmetic → String
  | .add => "ADD"
  | .subtract => "SUB"
  | .multiply => "MUL"
  | .divide => "DIV"

theorem quotient_zero (dividend : Int) : quotient dividend 0 = 0 :=
  rfl

/-- Every operand is a magnitude with a sign, and truncated division takes the signs out alike. -/
theorem quotient_eq_tdiv (dividend divisor : Int) :
    quotient dividend divisor = dividend.tdiv divisor := by
  by_cases zero : divisor = 0
  · rw [zero, quotient_zero, Int.tdiv_zero]
  · rw [quotient, if_neg zero]
    obtain ⟨left, rfl | rfl⟩ := Int.eq_nat_or_neg dividend <;>
      obtain ⟨right, rfl | rfl⟩ := Int.eq_nat_or_neg divisor
    all_goals
      have divisorSign : ¬(right : Int) < 0 ∧ 0 < right := by omega
      rcases Nat.eq_zero_or_pos left with rfl | positive
      · simp
      · have dividendSign : ¬(left : Int) < 0 := by omega
        simp [Int.tdiv_neg, Int.neg_tdiv, dividendSign, divisorSign, positive]

end Arithmetic

def Condition.holds : Condition → Int → Bool
  | .always, _ => true
  | .zero, accumulator => accumulator == 0
  | .nonzero, accumulator => accumulator != 0

def Condition.name : Condition → String
  | .always => "JMP"
  | .zero => "JZ"
  | .nonzero => "JNZ"

namespace Opcode

def name : Opcode → String
  | .nop => "NOP"
  | .halt => "HLT"
  | .output => "OUT"
  | .load .immediate => "LOAD"
  | .load .direct => "LOADI"
  | .store => "STORE"
  | .arithmetic function .immediate => function.name
  | .arithmetic function .direct => function.name ++ "M"
  | .jump condition => condition.name
  | .data => "DATA"
  | .invalid => "INVALID"

def mnemonics : List Opcode :=
  [.load .immediate, .load .direct, .store,
    .arithmetic .add .immediate, .arithmetic .subtract .immediate,
    .arithmetic .multiply .immediate, .arithmetic .divide .immediate,
    .arithmetic .add .direct, .arithmetic .subtract .direct,
    .arithmetic .multiply .direct, .arithmetic .divide .direct,
    .jump .always, .jump .zero, .jump .nonzero, .output, .nop, .halt]

def all : List Opcode :=
  mnemonics ++ [.data, .invalid]

def ofMnemonic? (name : String) : Option Opcode :=
  mnemonics.find? (·.name == name)

/-- The operand of these opcodes is the address of a cell. -/
def usesAddress : Opcode → Bool
  | .load .direct => true
  | .store => true
  | .arithmetic _ .direct => true
  | .jump _ => true
  | _ => false

def isBranch : Opcode → Bool
  | .jump _ => true
  | _ => false

theorem mem_all (opcode : Opcode) : opcode ∈ all := by
  rcases opcode with _ | _ | _ | mode | _ | ⟨function, mode⟩ | condition | _ | _ <;>
    (try cases mode) <;> (try cases function) <;> (try cases condition) <;> decide

theorem name_injective {left right : Opcode} (same : left.name = right.name) : left = right := by
  have checked : ∀ first ∈ all, ∀ second ∈ all, first.name = second.name → first = second := by
    decide
  exact checked left (mem_all left) right (mem_all right) same

end Opcode

end Accumulator
