set_option autoImplicit false

/-!
Classes of characters are given as inclusive ranges of code points, in ascending order.
-/

namespace Accumulator.Text

structure CodeRange where
  first : Nat
  last : Nat
  deriving DecidableEq, Repr

def CodeRange.contains (range : CodeRange) (code : Nat) : Bool :=
  range.first ≤ code && code ≤ range.last

def inRanges (ranges : List CodeRange) (character : Char) : Bool :=
  ranges.any (·.contains character.toNat)

theorem inRanges_iff (ranges : List CodeRange) (character : Char) :
    inRanges ranges character = true ↔
      ∃ range ∈ ranges, range.first ≤ character.toNat ∧ character.toNat ≤ range.last := by
  simp [inRanges, CodeRange.contains]

end Accumulator.Text
