import Accumulator.Fault

set_option autoImplicit false

/-!
Sizes. The size of a memory and the count of a repetition are signed words. How many elements there
is room for depends on the system around, which is only known to provide no more than a word counts.
-/

namespace Accumulator

def fitsWord (value : Int) : Bool :=
  -0x8000000000000000 ≤ value && value < 0x8000000000000000

/-- What the system around provides. -/
class Provision where
  /-- The least number of elements that there is no room for. -/
  bound : Nat
  bound_le : bound ≤ 0x8000000000000000

namespace Provision

/-- A system that programs are run on and shown at work on. No general result depends on it. -/
scoped instance ordinary : Provision where
  bound := 0x200000000
  bound_le := by decide

end Provision

section

variable [Provision]

/-- Why there is no memory of a size. A negative size asks for no cells. -/
def sizeFault? (size : Int) : Option Fault :=
  if !fitsWord size then some .overflow
  else if Provision.bound ≤ size then some .noRoom
  else none

/-- The copies that a repetition makes of a content of the given length; none if the count is below
one. -/
def copies (length : Nat) (count : Int) (tooLong : Fault) : Except Fault Nat :=
  let total := length * count.toNat
  if !fitsWord count then .error .overflow
  else if total < Provision.bound then .ok (if length = 0 then 0 else count.toNat)
  else if fitsWord total then .error .noRoom
  else .error tooLong

end

end Accumulator
