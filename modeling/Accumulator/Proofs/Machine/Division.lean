import Accumulator.Proofs.Machine.Runnable

set_option autoImplicit false

/-!
Division. The quotient of two integers is the only one that leaves less than the divisor, with the
sign of the dividend; the quotient by zero is zero. The instruction that holds its divisor and the
one that finds it in a cell put this quotient into the accumulator and leave the same machine, and
no divisor stops it.
-/

namespace Accumulator

/-! ### Quotients -/

/-- What the quotient leaves of the dividend is smaller than the divisor. It has the sign of the
dividend, unless nothing is left. -/
structure IsTruncatedQuotient (dividend divisor quotient : Int) : Prop where
  remainder_lt : (dividend - quotient * divisor).natAbs < divisor.natAbs
  remainder_sign : dividend - quotient * divisor = 0 ∨
    (dividend - quotient * divisor).sign = dividend.sign

namespace IsTruncatedQuotient

variable {dividend divisor quotient : Int}

theorem remainder_nonneg (isQuotient : IsTruncatedQuotient dividend divisor quotient)
    (nonnegative : 0 ≤ dividend) : 0 ≤ dividend - quotient * divisor := by
  rcases isQuotient.remainder_sign with none | same
  · exact Int.le_of_eq none.symm
  · rw [← Int.sign_nonneg_iff, same, Int.sign_nonneg_iff]
    exact nonnegative

theorem remainder_nonpos (isQuotient : IsTruncatedQuotient dividend divisor quotient)
    (nonpositive : dividend ≤ 0) : dividend - quotient * divisor ≤ 0 := by
  rcases isQuotient.remainder_sign with none | same
  · exact Int.le_of_eq none
  · rw [← Int.sign_nonpos_iff, same, Int.sign_nonpos_iff]
    exact nonpositive

theorem divisor_ne_zero (isQuotient : IsTruncatedQuotient dividend divisor quotient) :
    divisor ≠ 0 := by
  have smaller := isQuotient.remainder_lt
  omega

end IsTruncatedQuotient

namespace Arithmetic

theorem isTruncatedQuotient_quotient (dividend : Int) {divisor : Int} (nonzero : divisor ≠ 0) :
    IsTruncatedQuotient dividend divisor (quotient dividend divisor) := by
  have remainder : dividend - quotient dividend divisor * divisor = dividend.tmod divisor := by
    rw [quotient_eq_tdiv, Int.tmod_def, Int.mul_comm]
  constructor
  · rw [remainder, Int.natAbs_tmod]
    exact Nat.mod_lt _ (Int.natAbs_pos.mpr nonzero)
  · rw [remainder]
    by_cases divides : divisor ∣ dividend
    · exact .inl (Int.tmod_eq_zero_of_dvd divides)
    · right
      rw [Int.sign_tmod, if_neg divides]

/-- There is no other quotient. The remainder lies on the side of the dividend, so that the sign
of the dividend decides which bounds it has. -/
theorem eq_quotient_of_isTruncatedQuotient {dividend divisor other : Int}
    (isQuotient : IsTruncatedQuotient dividend divisor other) :
    other = quotient dividend divisor := by
  rw [quotient_eq_tdiv]
  have nonzero := isQuotient.divisor_ne_zero
  have smaller := isQuotient.remainder_lt
  have whole : dividend - other * divisor + divisor * other = dividend := by
    rw [Int.mul_comm divisor]
    omega
  rcases Int.le_total 0 dividend with nonnegative | nonpositive
  · have above := isQuotient.remainder_nonneg nonnegative
    exact ((Int.tdiv_tmod_unique nonnegative nonzero).mpr ⟨whole, above, by omega⟩).1.symm
  · have below := isQuotient.remainder_nonpos nonpositive
    exact ((Int.tdiv_tmod_unique' nonpositive nonzero).mpr ⟨whole, by omega, below⟩).1.symm

theorem isTruncatedQuotient_iff {divisor : Int} (nonzero : divisor ≠ 0) (dividend other : Int) :
    IsTruncatedQuotient dividend divisor other ↔ other = quotient dividend divisor := by
  constructor
  · exact eq_quotient_of_isTruncatedQuotient
  · rintro rfl
    exact isTruncatedQuotient_quotient dividend nonzero

theorem quotient_neg_left (dividend divisor : Int) :
    quotient (-dividend) divisor = -quotient dividend divisor := by
  rw [quotient_eq_tdiv, quotient_eq_tdiv, Int.neg_tdiv]

theorem quotient_neg_right (dividend divisor : Int) :
    quotient dividend (-divisor) = -quotient dividend divisor := by
  rw [quotient_eq_tdiv, quotient_eq_tdiv, Int.tdiv_neg]

theorem quotient_mul_cancel (factor : Int) {divisor : Int} (nonzero : divisor ≠ 0) :
    quotient (factor * divisor) divisor = factor := by
  rw [quotient_eq_tdiv, Int.mul_tdiv_cancel factor nonzero]

end Arithmetic

/-! ### Executing arithmetic -/

namespace Registry

open Record (perform_arithmetic_immediate perform_arithmetic_direct)

variable {record : Record} {acc : Int} {call : Call}

theorem execute_arithmetic_immediate [Provision] (function : Arithmetic)
    (integer : record.acc = .cell (.int acc))
    (named : call.name = (Opcode.arithmetic function .immediate).name) {operand : Int}
    (given : call.operand = some (.int operand)) :
    ∃ line, standard.execute record call =
      .ok ((record.accept (.cell (.int (function.apply acc operand)))).completeCycle, line) :=
  ⟨_, execute_of_perform named (perform_arithmetic_immediate integer given function) rfl⟩

theorem execute_arithmetic_direct [Provision] (function : Arithmetic)
    (integer : record.acc = .cell (.int acc))
    (room : record.size < Numeral.decimalBound)
    (named : call.name = (Opcode.arithmetic function .direct).name) {address : Int}
    (given : call.operand = some (.int address)) {cell : Cell}
    (held : record.itemAt (State.clampInto record.size address) = .cell cell) :
    ∃ line, standard.execute record call =
      .ok ((record.accept (.cell (.int (function.apply acc cell.word)))).completeCycle, line) := by
  have performed := perform_arithmetic_direct integer given held function
  refine ⟨_, execute_of_perform named performed (Event.checkedLine_eq ?_)⟩
  intro mentioned among
  rw [List.mem_singleton.mp among]
  exact State.hasDecimal_of_lt room (State.clampInto_lt_max record.size address)

end Registry

/-- Division goes toward zero. By any integer but zero, the quotient is the one that its remainder
defines, a sign of either operand is a sign of the quotient, and a product is divided back; by zero
the quotient is zero. The division that refuses zero divisors is never asked for one, so that the
quotient of two integers has no fault. The instruction that holds its divisor and the one that
finds the same number in a cell make one change of every state, and of every record that passes the
check: the quotient goes to the accumulator, a cycle is counted, the program continues at the next
cell, and all else stays. The second one is reported with its address, which therefore has to have
a numeral. -/
theorem division_is_toward_zero_on_both_paths [Provision] :
    (∀ dividend divisor : Int, divisor ≠ 0 → ∀ quotient : Int,
      IsTruncatedQuotient dividend divisor quotient ↔
        quotient = Arithmetic.quotient dividend divisor) ∧
    (∀ dividend divisor : Int,
      Arithmetic.quotient (-dividend) divisor = -Arithmetic.quotient dividend divisor ∧
      Arithmetic.quotient dividend (-divisor) = -Arithmetic.quotient dividend divisor ∧
      (divisor ≠ 0 → Arithmetic.quotient (dividend * divisor) divisor = dividend) ∧
      Arithmetic.quotient dividend 0 = 0 ∧
      Number.divide (.int dividend) (.int divisor) =
        .ok (.int (Arithmetic.quotient dividend divisor))) ∧
    (∀ (state : State) (address : Int) (first second : String),
      let divisor := (state.read address).word
      let divided : State :=
        { state with
          acc := Arithmetic.quotient state.acc divisor
          pc := state.clampAddress (state.pc + 1)
          cycles := state.cycles + 1 }
      state.execute ⟨.arithmetic .divide .immediate divisor, first⟩ = divided ∧
      state.execute ⟨.arithmetic .divide .direct address, second⟩ = divided) ∧
    ∀ record : Record, record.isValid = true →
      ∃ acc : Int, record.acc = .cell (.int acc) ∧
        ∀ address : Int, ∃ cell : Cell, record.read (.int address) = .ok (.cell cell) ∧
          ∀ first second : String,
            let divided : Record :=
              { record with
                acc := .cell (.int (Arithmetic.quotient acc cell.word))
                pc := record.clampAddress record.pc.successor
                cycles := record.cycles.successor }
            (∃ line, Registry.standard.execute record ⟨"DIV", some (.int cell.word), first⟩ =
              .ok (divided, line)) ∧
            (record.size < Numeral.decimalBound →
              ∃ line, Registry.standard.execute record ⟨"DIVM", some (.int address), second⟩ =
                .ok (divided, line)) := by
  refine ⟨?_, ?_, ?_, ?_⟩
  · intro dividend divisor nonzero quotient
    exact Arithmetic.isTruncatedQuotient_iff nonzero dividend quotient
  · intro dividend divisor
    exact ⟨Arithmetic.quotient_neg_left dividend divisor,
      Arithmetic.quotient_neg_right dividend divisor, Arithmetic.quotient_mul_cancel dividend,
      Arithmetic.quotient_zero dividend, Number.divide_int dividend divisor⟩
  · intro state address first second divisor divided
    exact ⟨rfl, rfl⟩
  · intro record valid
    obtain ⟨_, checked, _, storable, _, _⟩ := (record.isValid_iff).mp valid
    obtain ⟨acc, integer⟩ := (record.accIsInteger_iff).mp checked
    refine ⟨acc, integer, ?_⟩
    intro address
    obtain ⟨cell, held⟩ := Record.exists_itemAt storable (State.clampInto record.size address)
    have found : record.read (.int address) = .ok (.cell cell) := by
      rw [Record.read, Record.index_int, Except.map, held]
    refine ⟨cell, found, ?_⟩
    intro first second divided
    exact ⟨Registry.execute_arithmetic_immediate .divide integer rfl rfl,
      fun room => Registry.execute_arithmetic_direct .divide integer room rfl rfl held⟩

section

open scoped Provision

/-- A quotient that is not the one rounded down, a text and a cell without content as divisors, and
a program counter that is no integer. -/
theorem uneven_quotient_is_made_on_both_paths :
    let record : Record :=
      { memory := [.cell (.text " -0x2 "), .cell .absent]
        pc := .real (Binary64.ofFraction false 1 2)
        ir := .sequence []
        acc := .cell (.int (-7))
        phase := .known .decode
        halted := true
        outputs := []
        cycles := .int 4 }
    (2 : Int) ≠ 0 ∧ IsTruncatedQuotient (-7) 2 (-3) ∧ ¬IsTruncatedQuotient (-7) 2 (-4) ∧
      record.isValid = true ∧ record.size < Numeral.decimalBound ∧
      (∃ divided line other,
        Registry.standard.execute record ⟨"DIV", some (.int (-2)), ""⟩ = .ok (divided, line) ∧
        Registry.standard.execute record ⟨"DIVM", some (.int 0), ""⟩ = .ok (divided, other) ∧
        divided.acc = .cell (.int 3) ∧ divided.halted = true) ∧
      ∃ divided line other,
        Registry.standard.execute record ⟨"DIV", some (.int 0), ""⟩ = .ok (divided, line) ∧
        Registry.standard.execute record ⟨"DIVM", some (.int 9), ""⟩ = .ok (divided, other) ∧
        divided.acc = .cell (.int 0) ∧ divided.halted = true := by
  intro record
  obtain ⟨quotients, _, _, divisions⟩ := division_is_toward_zero_on_both_paths
  have valid : record.isValid = true := by decide +kernel
  have room : record.size < Numeral.decimalBound := by decide +kernel
  have nonzero : (2 : Int) ≠ 0 := by decide
  obtain ⟨acc, integer, divides⟩ := divisions record valid
  have dividend : -7 = acc := Number.int.inj (Cell.number.inj (Item.cell.inj integer))
  subst dividend
  refine ⟨nonzero, (quotients (-7) 2 nonzero (-3)).mpr rfl, ?_, valid, room, ?_, ?_⟩
  · intro floored
    exact absurd ((quotients (-7) 2 nonzero (-4)).mp floored) (by decide)
  · obtain ⟨cell, found, executes⟩ := divides 0
    have text : .text " -0x2 " = cell := Item.cell.inj (Except.ok.inj found)
    subst text
    have word : (Cell.text " -0x2 ").word = -2 := by decide +kernel
    rw [word] at executes
    obtain ⟨⟨line, holding⟩, addressing⟩ := executes "" ""
    obtain ⟨other, addressed⟩ := addressing room
    exact ⟨_, line, other, holding, addressed, rfl, rfl⟩
  · obtain ⟨cell, found, executes⟩ := divides 9
    have content : .absent = cell := Item.cell.inj (Except.ok.inj found)
    subst content
    obtain ⟨⟨line, holding⟩, addressing⟩ := executes "" ""
    obtain ⟨other, addressed⟩ := addressing room
    exact ⟨_, line, other, holding, addressed, rfl, rfl⟩

end

end Accumulator
