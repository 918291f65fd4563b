import Accumulator.Assembly.Template
import Accumulator.Proofs.Assembly.Collection
import Accumulator.Proofs.Machine.InstructionTable

set_option autoImplicit false

/-!
What the exercises compute. An exercise has five lines without a jump, so its run is five
instructions long whatever the operands are. The two values are written into the program as
numerals and must have them; the result is not written anywhere and may be of any size.
-/

namespace Accumulator.Assembly

open Text (upper)

/-- The result of an exercise in plain arithmetic. -/
def exerciseResult : Arithmetic → Int → Int → Int
  | .add, x, y => x + y
  | .subtract, x, y => x - y
  | .multiply, x, y => x * y
  | .divide, x, y => truncatedQuotient x y

theorem apply_eq_exerciseResult (function : Arithmetic) (x y : Int) :
    function.apply x y = exerciseResult function x y := by
  cases function with
  | divide => exact Arithmetic.quotient_eq_truncatedQuotient x y
  | _ => rfl

/-! ### The program -/

def exerciseOperations (function : Arithmetic) (x y : Int) : List Operation :=
  [.load .immediate x, .arithmetic function .immediate y, .store 7, .output, .halt]

/-- Letters of either case spell the name of a function. -/
theorem upper_of_anyCase {function : Arithmetic} {mnemonic : String}
    (spelt : mnemonic.toList.map Char.toLower = function.name.toList.map Char.toLower) :
    upper mnemonic.toList = function.name.toList := by
  have capital : upper function.name.toList = function.name.toList := by
    cases function <;> decide
  have same : Text.SameLetters mnemonic.toList function.name.toList := spelt
  rw [same.upper, capital]

theorem exercise_eq {function : Arithmetic} {mnemonic : String}
    (spelt : upper mnemonic.toList = function.name.toList) :
    exercise mnemonic = exercise function.name := by
  have same : upper function.name.toList = upper mnemonic.toList := by
    rw [← spelt, Text.upper_upper]
  unfold exercise
  rw [same]

theorem listing_exercise {function : Arithmetic} {mnemonic : String}
    (spelt : upper mnemonic.toList = function.name.toList) :
    listing (exercise mnemonic) =
      [{ opcode := .load .immediate, argument := .named .x },
        { opcode := .arithmetic function .immediate, argument := .named .y },
        { opcode := .store, argument := .named .z },
        { opcode := .output },
        { opcode := .halt }] := by
  rw [exercise_eq spelt]
  cases function <;> decide +kernel

/-- What the letters are worth when they are bound to three values. -/
theorem boundValue_of_three (x y z : Int) (letter : Variable) :
    boundValue [("X", .int x), ("Y", .int y), ("Z", .int z)] letter =
      (⟨x, y, z⟩ : Valuation).get letter := by
  rw [← get_valuation, valuation_of_three]

section Run

variable {function : Arithmetic} {mnemonic : String} {x y z : Int}

theorem operations_exercise (spelt : upper mnemonic.toList = function.name.toList)
    (memorySize : Int) :
    operations (exercise mnemonic) [("X", .int x), ("Y", .int y), ("Z", .int z)] memorySize =
      exerciseOperations function x y := by
  rw [operations, listing_exercise spelt]
  simp only [List.map_cons, List.map_nil, Line.operation, Line.operand, Argument.operand,
    Opcode.usesAddress, if_true, Bool.false_eq_true, if_false, boundValue_of_three]
  rfl

/-- Four instructions leave the result in the accumulator, the third variable and the outputs. -/
theorem after?_exercise (function : Arithmetic) (x y z : Int) :
    let result := exerciseResult function x y
    (Frame.start ⟨x, y, z⟩).after? (exerciseOperations function x y) 4 =
      some ⟨4, result, ⟨x, y, result⟩, [result]⟩ := by
  intro result
  have computed : result = function.apply x y := (apply_eq_exerciseResult function x y).symm
  rw [computed]
  rfl

/-- The two values are all that an exercise asks to be written. -/
theorem exists_image_exercise_iff [Provision] (spelt : upper mnemonic.toList = function.name.toList)
    {memorySize : Int} (enough : 8 ≤ memorySize) (shortX : Numeral.hasDecimal x = true)
    (shortY : Numeral.hasDecimal y = true) :
    (∃ image, assemble (exercise mnemonic)
        [("X", .int x), ("Y", .int y), ("Z", .int z)] memorySize = .ok image) ↔
      memorySize < Provision.bound := by
  have fits : ((listing (exercise mnemonic)).length : Int) + 3 ≤ memorySize := by
    rw [listing_exercise spelt]
    exact enough
  apply exists_image_iff_of_short _ fits
  rw [listing_exercise spelt]
  intro line among value
  simp only [List.mem_cons, List.not_mem_nil, or_false] at among
  rcases among with rfl | rfl | rfl | rfl | rfl
  · exact (congrArg Numeral.hasDecimal (boundValue_of_three x y z .x)).trans shortX
  · exact (congrArg Numeral.hasDecimal (boundValue_of_three x y z .y)).trans shortY
  · exact Bool.noConfusion value
  · exact hasDecimal_zero
  · exact hasDecimal_zero

end Run

/-- The exercise of an operation, named by its mnemonic in letters of either case, computes the
operation. It has five lines, so the slots are cells 5 to 7, and it is assembled for every memory
that has them and can be provided. The machine halts in the fifth instruction; the result, of any
size, is then in the accumulator, the only output and in the slot of `Z`, and no other cell has
changed. The unchecked machine goes the same way without a fault. -/
theorem exercise_computes [Provision] (function : Arithmetic) (mnemonic : String)
    (spelt : upper mnemonic.toList = function.name.toList) (x y z memorySize : Int)
    (enough : 8 ≤ memorySize) (shortX : x.natAbs < Numeral.decimalBound)
    (shortY : y.natAbs < Numeral.decimalBound) :
    let bindings : Bindings := [("X", .int x), ("Y", .int y), ("Z", .int z)]
    let result := exerciseResult function x y
    ((∃ image, assemble (exercise mnemonic) bindings memorySize = .ok image) ↔
      memorySize < Provision.bound) ∧
    ∀ image, assemble (exercise mnemonic) bindings memorySize = .ok image →
      let start := State.initial image
      let final := start.after 15
      start.HaltsAfter 15 ∧ final.acc = result ∧ final.outputs = [result] ∧
        final.memory[7]? = some (.int result) ∧
        (∀ index, index ≠ 7 → final.memory[index]? = image[index]?) ∧
        ∀ count, Registry.standard.steps count (Record.ofState start) =
          (Record.ofState (start.after count), .ok (start.lines count)) := by
  intro bindings result
  refine ⟨exists_image_exercise_iff spelt enough (decide_eq_true shortX) (decide_eq_true shortY),
    ?_⟩
  intro image made start final
  obtain ⟨holds, described⟩ := starts_of_assemble made (operations_exercise spelt memorySize)
  rw [valuation_of_three] at described
  obtain ⟨halts, alike⟩ := described.haltsAfter holds (after?_exercise function x y z) rfl
  refine ⟨halts, alike.acc, alike.outputs, alike.slots .z, ?_, steps_initial_of_assemble made⟩
  intro index apart
  -- The slots of the operands hold the same values at the start and at the end.
  by_cases first : index = 5
  · rw [first, ← State.getElem?_initial image]
    exact (alike.slots .x).trans (described.slots .x).symm
  · by_cases second : index = 6
    · rw [second, ← State.getElem?_initial image]
      exact (alike.slots .y).trans (described.slots .y).symm
    · apply alike.others
      intro letter
      cases letter <;> simp [exerciseOperations, Variable.index] <;> omega

section

open scoped Provision

/-- The greatest number that can be written times itself, and a negative number by two and by
zero. -/
theorem products_and_quotients_of_exercises :
    let greatest : Int := Numeral.decimalBound - 1
    upper "mUl".toList = Arithmetic.multiply.name.toList ∧
      upper "div".toList = Arithmetic.divide.name.toList ∧
      (8 : Int) ≤ 8 ∧ greatest.natAbs < Numeral.decimalBound ∧
      (∃ image, assemble (exercise "mUl")
            [("X", .int greatest), ("Y", .int greatest), ("Z", .int greatest)] 8 = .ok image ∧
        (State.initial image).HaltsAfter 15 ∧
        ((State.initial image).after 15).outputs = [greatest * greatest] ∧
        Numeral.hasDecimal (greatest * greatest) = false) ∧
      (∃ image, assemble (exercise "div")
            [("X", .int (-7)), ("Y", .int 2), ("Z", .int 1)] 8 = .ok image ∧
        ((State.initial image).after 15).memory[7]? = some (.int (-3))) ∧
      ∃ image, assemble (exercise "div")
            [("X", .int (-7)), ("Y", .int 0), ("Z", .int 1)] 8 = .ok image ∧
        ((State.initial image).after 15).acc = 0 := by
  intro greatest
  have enough : (8 : Int) ≤ 8 := Int.le_refl 8
  have product : upper "mUl".toList = Arithmetic.multiply.name.toList :=
    upper_of_anyCase (by decide)
  have quotient : upper "div".toList = Arithmetic.divide.name.toList :=
    upper_of_anyCase (by decide)
  have short : greatest.natAbs < Numeral.decimalBound := by decide +kernel
  have small : ∀ value ∈ [(-7 : Int), 2, 0], value.natAbs < Numeral.decimalBound := by
    decide +kernel
  refine ⟨product, quotient, enough, short, ?_, ?_, ?_⟩
  · obtain ⟨assembled, runs⟩ := exercise_computes .multiply "mUl" product greatest greatest greatest
      8 enough short short
    obtain ⟨image, made⟩ := assembled.mpr (by decide)
    obtain ⟨halts, _, outputs, _⟩ := runs image made
    exact ⟨image, made, halts, outputs, by decide +kernel⟩
  · obtain ⟨assembled, runs⟩ := exercise_computes .divide "div" quotient (-7) 2 1 8 enough
      (small (-7) (by decide)) (small 2 (by decide))
    obtain ⟨image, made⟩ := assembled.mpr (by decide)
    obtain ⟨_, _, _, stored, _⟩ := runs image made
    exact ⟨image, made, stored⟩
  · obtain ⟨assembled, runs⟩ := exercise_computes .divide "div" quotient (-7) 0 1 8 enough
      (small (-7) (by decide)) (small 0 (by decide))
    obtain ⟨image, made⟩ := assembled.mpr (by decide)
    obtain ⟨_, zero, _⟩ := runs image made
    exact ⟨image, made, zero⟩

end

end Accumulator.Assembly
