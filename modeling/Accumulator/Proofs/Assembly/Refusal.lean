import Accumulator.Proofs.Assembly.Image

set_option autoImplicit false

/-!
What a program that fits can still be refused for. Addresses are smaller than the memory and have a
numeral whenever the memory can be provided, so what is left is the size of the memory and the
values of unbounded size that a line may ask for.
-/

namespace Accumulator.Assembly

open Text (upper words)

theorem sizeFault?_eq_none_iff [Provision] {size : Int} (nonnegative : 0 ≤ size) :
    sizeFault? size = none ↔ size < Provision.bound := by
  have bound := Provision.bound_le
  unfold sizeFault? fitsWord
  constructor
  · intro provided
    split at provided
    · contradiction
    · split at provided
      · contradiction
      · omega
  · intro small
    have word : (decide (-0x8000000000000000 ≤ size) &&
        decide (size < 0x8000000000000000)) = true := by
      rw [Bool.and_eq_true, decide_eq_true_eq, decide_eq_true_eq]
      omega
    rw [word, if_neg (by decide), if_neg (by omega)]

theorem bound_le_decimalBound [Provision] : Provision.bound ≤ Numeral.decimalBound := by
  have word : 0x8000000000000000 ≤ Numeral.decimalBound := by decide +kernel
  exact Nat.le_trans Provision.bound_le word

theorem hasDecimal_meantAddress [Provision] {length : Nat} {memorySize : Int}
    (enough : (length : Int) + 3 ≤ memorySize) (small : memorySize < Provision.bound)
    (token : List Char) : Numeral.hasDecimal (meantAddress length memorySize token) = true := by
  obtain ⟨above, below⟩ := meantAddress_inside enough token
  have room := bound_le_decimalBound
  exact decide_eq_true (by omega)

theorem writable_iff [Provision] {bindings : Bindings} {length : Nat} {memorySize : Int}
    (enough : (length : Int) + 3 ≤ memorySize) (small : memorySize < Provision.bound)
    (line : List (List Char)) :
    writable bindings length memorySize line = true ↔
      ∀ first token rest, line = first :: token :: rest →
        String.ofList (upper first) ∉ OperandKind.address.mnemonics →
          Numeral.hasDecimal (meantValue bindings token) = true := by
  unfold writable written?
  split
  · next first token rest =>
      split
      · next address =>
          rw [Option.all_some]
          refine ⟨fun _ => ?_, fun _ => hasDecimal_meantAddress enough small token⟩
          intro other _ _ same plain
          rw [(List.cons.inj same).1] at address
          exact absurd address plain
      · next plain =>
          rw [Option.all_some]
          constructor
          · intro short _ _ _ same _
            rw [← (List.cons.inj (List.cons.inj same).2).1]
            exact short
          · intro short
            exact short first token rest rfl plain
  · next single =>
      refine ⟨fun _ first token rest same => absurd same (single first token rest), fun _ => rfl⟩

/-- A program that fits is assembled exactly when the memory can be provided and no line that
takes a value asks for one without a numeral. Otherwise the fault says which of the two failed. -/
theorem fitting_program_assembles_iff [Provision] (source : String) (bindings : Bindings)
    (memorySize : Int) (enough : ((programLines source.toList).length : Int) + 3 ≤ memorySize) :
    let valuesShort := ∀ line ∈ programLines source.toList, ∀ first token rest,
      words line = first :: token :: rest →
        String.ofList (upper first) ∉ OperandKind.address.mnemonics →
          (meantValue bindings token).natAbs < Numeral.decimalBound
    ((∃ image, assemble source bindings memorySize = .ok image) ↔
      memorySize < Provision.bound ∧ valuesShort) ∧
    ∀ fault, assemble source bindings memorySize = .error fault →
      (fault = .overflow ∨ fault = .noRoom) ∧ Provision.bound ≤ memorySize ∨
        fault = .tooManyDigits ∧ ¬valuesShort := by
  intro valuesShort
  have nonnegative : 0 ≤ memorySize := by omega
  unfold assemble
  rw [imageOfLines_of_fits bindings enough]
  by_cases small : memorySize < Provision.bound
  · rw [(sizeFault?_eq_none_iff nonnegative).mpr small]
    have lines : ((programLines source.toList).all fun line =>
        writable bindings (programLines source.toList).length memorySize (words line)) = true ↔
          valuesShort := by
      rw [List.all_eq_true]
      refine forall_congr' fun line => forall_congr' fun _ => ?_
      rw [writable_iff enough small]
      simp only [Numeral.hasDecimal, decide_eq_true_eq]
    dsimp only
    by_cases short : valuesShort
    · rw [if_pos (lines.mpr short)]
      refine ⟨⟨fun _ => ⟨small, short⟩, fun _ => ⟨_, rfl⟩⟩, ?_⟩
      intro fault refused
      cases refused
    · rw [if_neg fun written => short (lines.mp written)]
      refine ⟨⟨?_, fun ⟨_, claimed⟩ => absurd claimed short⟩, ?_⟩
      · rintro ⟨image, made⟩
        cases made
      · intro fault refused
        cases refused
        exact .inr ⟨rfl, short⟩
  · cases refusal : sizeFault? memorySize with
    | none => exact absurd ((sizeFault?_eq_none_iff nonnegative).mp refusal) small
    | some reason =>
        refine ⟨⟨?_, fun ⟨claimed, _⟩ => absurd claimed small⟩, ?_⟩
        · rintro ⟨image, made⟩
          cases made
        · intro fault refused
          cases refused
          exact .inl ⟨sizeFault?_cases refusal, Int.not_lt.mp small⟩

section

open scoped Provision

theorem largest_value_is_assembled :
    let bindings : Bindings := [("X", .int (Numeral.decimalBound - 1))]
    ((programLines "load x".toList).length : Int) + 3 ≤ 16 ∧
      ∃ image, assemble "load x" bindings 16 = .ok image := by
  intro bindings
  have lines : programLines "load x".toList = ["load x".toList] := by decide +kernel
  have enough : ((programLines "load x".toList).length : Int) + 3 ≤ 16 := by
    rw [lines]
    decide
  refine ⟨enough, (fitting_program_assembles_iff "load x" bindings 16 enough).1.mpr ⟨?_, ?_⟩⟩
  · decide
  · intro line among first token rest parted _
    rw [lines, List.mem_singleton] at among
    have split : words "load x".toList = ["load".toList, "x".toList] := by decide +kernel
    rw [among, split] at parted
    obtain ⟨_, tail⟩ := List.cons.inj parted
    rw [← (List.cons.inj tail).1]
    decide +kernel

/-- A bound value one larger is not, although the program fits. -/
theorem least_long_value_is_refused :
    ¬∀ (source : String) (bindings : Bindings) (memorySize : Int),
      Numeral.hasDecimal memorySize = true →
        ((programLines source.toList).length : Int) + 3 ≤ memorySize →
          ∃ image, assemble source bindings memorySize = .ok image := by
  intro claimed
  let bindings : Bindings := [("X", .int Numeral.decimalBound)]
  obtain ⟨image, made⟩ := claimed "LOAD X" bindings 16 (by decide +kernel) (by decide +kernel)
  have refused : (assemble "LOAD X" bindings 16).isOk = false := by decide +kernel
  rw [made] at refused
  exact absurd refused Bool.true_eq_false.mp

end

end Accumulator.Assembly
