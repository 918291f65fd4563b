import Accumulator.Numeral.Literal

set_option autoImplicit false

/-!
The digit limit holds in both directions. A decimal literal that is read has at most as many digits
as a numeral that is written, so the integer that it denotes has a numeral.
-/

namespace Accumulator.Numeral

theorem digitRun?_lt {base : Nat} {text : List Char} {digits : List Nat}
    (read : digitRun? base text = some digits) : ∀ digit ∈ digits, digit < base := by
  induction text using digitRun?.induct generalizing digits with
  | case1 => contradiction
  | case2 character =>
      obtain ⟨digit, found, rfl⟩ := Option.map_eq_some_iff.mp read
      intro other among
      rw [List.mem_singleton.mp among]
      exact digitBelow?_lt found
  | case3 character rest previous =>
      obtain ⟨digit, found, behind⟩ := Option.bind_eq_some_iff.mp read
      obtain ⟨later, cut, rfl⟩ := Option.map_eq_some_iff.mp behind
      intro other among
      rcases List.mem_cons.mp among with rfl | among
      · exact digitBelow?_lt found
      · exact previous cut other among
  | case4 character rest alone separated previous =>
      rw [digitRun?] at read
      · obtain ⟨digit, found, behind⟩ := Option.bind_eq_some_iff.mp read
        obtain ⟨later, cut, rfl⟩ := Option.map_eq_some_iff.mp behind
        intro other among
        rcases List.mem_cons.mp among with rfl | among
        · exact digitBelow?_lt found
        · exact previous cut other among
      · exact alone
      · exact separated

theorem ofDigits_lt {base : Nat} {digits : List Nat} (small : ∀ digit ∈ digits, digit < base) :
    ofDigits base digits < Nat.pow base digits.length := by
  induction digits with
  | nil => exact Nat.zero_lt_one
  | cons first rest previous =>
      obtain ⟨digit, others⟩ := List.forall_mem_cons.mp small
      let place := Nat.pow base rest.length
      calc
        ofDigits base (first :: rest) = first * place + ofDigits base rest :=
          ofDigits_cons base first rest
        _ < first * place + place := Nat.add_lt_add_left (previous others) _
        _ = (first + 1) * place := (Nat.succ_mul first place).symm
        _ ≤ base * place := Nat.mul_le_mul_right place digit
        _ = Nat.pow base (rest.length + 1) := (Nat.pow_succ').symm

theorem ofDigits_lt_of_length_le {digits : List Nat} (small : ∀ digit ∈ digits, digit < 10)
    {limit : Nat} (short : digits.length ≤ limit) : ofDigits 10 digits < Nat.pow 10 limit :=
  Nat.lt_of_lt_of_le (ofDigits_lt small) (Nat.pow_le_pow_right (by decide) short)

theorem hasDecimal_of_decimalLiteral? {text : List Char} {value : Int}
    (read : decimalLiteral? text = some value) : hasDecimal value = true := by
  obtain ⟨magnitude, found, rfl⟩ := Option.map_eq_some_iff.mp read
  obtain ⟨digits, kept, rfl⟩ := Option.map_eq_some_iff.mp found
  obtain ⟨run, few⟩ := Option.filter_eq_some_iff.mp kept
  have short : digits.length ≤ digitLimit := of_decide_eq_true few
  have size (negative : Bool) : (applySign negative (ofDigits 10 digits)).natAbs =
      ofDigits 10 digits := by
    cases negative <;> simp [applySign]
  unfold hasDecimal decimalBound
  rw [size, decide_eq_true_eq]
  exact ofDigits_lt_of_length_le (digitRun?_lt run) short

end Accumulator.Numeral
