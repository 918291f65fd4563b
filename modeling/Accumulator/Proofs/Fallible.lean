set_option autoImplicit false

/-!
Computations that may fail. If one that goes on with the result of another has a result, so has the
other.
-/

namespace Accumulator

variable {Failure First Second : Type}

theorem exists_of_bind {made : Except Failure First} {rest : First → Except Failure Second}
    {result : Second} (ok : (made >>= rest) = .ok result) :
    ∃ value, made = .ok value ∧ rest value = .ok result := by
  cases made with
  | error fault => contradiction
  | ok value => exact ⟨value, rfl, ok⟩

theorem eq_ok_of_toOption {made : Except Failure First} {result : First}
    (read : made.toOption = some result) : made = .ok result := by
  cases made with
  | error fault => contradiction
  | ok value => exact congrArg Except.ok (Option.some.inj read)

end Accumulator
