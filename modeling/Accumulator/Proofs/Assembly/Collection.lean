import Accumulator.Assembly.Collection
import Accumulator.Proofs.Assembly.CountedLoop
import Accumulator.Proofs.Assembly.Listing
import Accumulator.Proofs.Machine.Output

set_option autoImplicit false

/-!
What the looping programs of the collection compute. A round of a loop is run on frames with the
values of the variables left open; the number of rounds is in one of the variables, so a run to the
end goes by induction on it, and a run from a number that never comes down to zero has no end.
-/

namespace Accumulator.Assembly

/-! ### Multiplication -/

def multiplicationOperations : List Operation :=
  [.load .direct 12, .arithmetic .add .direct 10, .store 12,
    .load .direct 11, .arithmetic .subtract .immediate 1, .store 11, .jump .nonzero 0,
    .load .direct 12, .output, .halt]

theorem listing_multiplication :
    listing multiplication =
      [{ opcode := .load .direct, argument := .named .z },
        { opcode := .arithmetic .add .direct, argument := .named .x },
        { opcode := .store, argument := .named .z },
        { opcode := .load .direct, argument := .named .y },
        { opcode := .arithmetic .subtract .immediate, argument := .number 1 },
        { opcode := .store, argument := .named .y },
        { opcode := .jump .nonzero, argument := .number 0 },
        { opcode := .load .direct, argument := .named .z },
        { opcode := .output },
        { opcode := .halt }] := by
  decide +kernel

theorem operations_multiplication (bindings : Bindings) (memorySize : Int) :
    operations multiplication bindings memorySize = multiplicationOperations := by
  rw [operations, listing_multiplication]
  simp only [List.map_cons, List.map_nil, Line.operation, Line.operand, Argument.operand,
    Opcode.usesAddress, if_true, Bool.false_eq_true, if_false, clamp_zero]
  rfl

/-- A round adds the first variable to the third and counts the second one down. -/
def multiplicationTurn (frame : Frame) : Frame :=
  { frame with
    pc := 0
    acc := frame.values.y - 1
    values :=
      { frame.values with
        y := frame.values.y - 1
        z := frame.values.z + frame.values.x } }

def multiplicationResult (frame : Frame) : Frame :=
  { frame with
    pc := 7
    acc := 0
    values :=
      { frame.values with
        y := 0
        z := frame.values.z + frame.values.x * frame.values.y } }

theorem multiplication_loops :
    Frame.CountedLoop multiplicationOperations 6 (fun frame => frame.values.y)
      multiplicationTurn where
  jump := rfl
  body frame top := by
    obtain ⟨pc, acc, values, outputs⟩ := frame
    obtain rfl : pc = 0 := top
    rfl
  back _ := rfl
  tested _ := rfl
  counted _ := rfl

theorem after?_multiplication {frame : Frame} (more : Nat) (top : frame.pc = 0)
    (left : frame.values.y = more + 1) :
    frame.after? multiplicationOperations (7 * (more + 1)) =
      some (multiplicationResult frame) := by
  refine multiplication_loops.after?_rounds ?_ ?_ more top left
  · rintro ⟨pc, acc, ⟨x, y, z⟩, outputs⟩ single
    obtain rfl : y = 1 := single
    unfold multiplicationResult
    rw [Int.mul_one]
    rfl
  · rintro ⟨pc, acc, ⟨x, y, z⟩, outputs⟩ several
    have sum : z + x + x * (y - 1) = z + x * y := by
      rw [Int.mul_sub, Int.mul_one]
      omega
    unfold multiplicationResult multiplicationTurn
    dsimp only
    rw [sum]

theorem valuation_of_three (x y z : Int) :
    Bindings.valuation [("X", .int x), ("Y", .int y), ("Z", .int z)] = ⟨x, y, z⟩ := by
  have one : Bindings.valuation [("X", .int x)] = ⟨x, 0, 0⟩ := valuation_append_name [] .x x
  have two : Bindings.valuation [("X", .int x), ("Y", .int y)] = ⟨x, y, 0⟩ :=
    (valuation_append_name [("X", .int x)] .y y).trans (congrArg (·.set .y y) one)
  exact (valuation_append_name [("X", .int x), ("Y", .int y)] .z z).trans
    (congrArg (·.set .z z) two)

/-- The multiplication program adds `X` to `Z` as many times as `Y` says. It has ten lines, so the
slots are cells 10 to 12, and it is assembled for every memory that has them and can be provided. If
`Y` is at least one, the machine halts in the third instruction behind `Y` rounds of seven, with the
product added, and nothing is written but the slots; otherwise it never halts. The unchecked machine
goes the same way without a fault. -/
theorem multiplication_multiplies [Provision] (x y z memorySize : Int) (enough : 13 ≤ memorySize) :
    let bindings : Bindings := [("X", .int x), ("Y", .int y), ("Z", .int z)]
    ((∃ image, assemble multiplication bindings memorySize = .ok image) ↔
      memorySize < Provision.bound) ∧
    ∀ image, assemble multiplication bindings memorySize = .ok image →
      let start := State.initial image
      (1 ≤ y →
        let count := (3 * (7 * y + 3)).toNat
        let final := start.after count
        start.HaltsAfter count ∧ final.outputs = [z + x * y] ∧ final.acc = z + x * y ∧
          final.memory[10]? = some (.int x) ∧ final.memory[11]? = some (.int 0) ∧
          final.memory[12]? = some (.int (z + x * y)) ∧
          ∀ index, index < 10 ∨ 12 < index → final.memory[index]? = image[index]?) ∧
      (y ≤ 0 → ∀ count, (start.after count).halted = false) ∧
      ∀ count, Registry.standard.steps count (Record.ofState start) =
        (Record.ofState (start.after count), .ok (start.lines count)) := by
  intro bindings
  have length : (listing multiplication).length = 10 := by
    rw [listing_multiplication]
    rfl
  have plain : ∀ line ∈ listing multiplication, line.isPlain = true := by
    rw [listing_multiplication]
    decide +kernel
  refine ⟨exists_image_iff_of_plain bindings (by omega) plain, ?_⟩
  intro image made start
  obtain ⟨holds, described⟩ :=
    starts_of_assemble made (operations_multiplication bindings memorySize)
  rw [valuation_of_three] at described
  refine ⟨?_, ?_, steps_initial_of_assemble made⟩
  · intro positive count final
    obtain ⟨more, rfl⟩ : ∃ more : Nat, y = more + 1 := ⟨(y - 1).toNat, by omega⟩
    have looped : Frame.after? multiplicationOperations (Frame.start ⟨x, more + 1, z⟩)
        (7 * (more + 1)) = some (multiplicationResult (Frame.start ⟨x, more + 1, z⟩)) :=
      after?_multiplication more rfl rfl
    let product := z + x * (more + 1)
    have finished : Frame.after? multiplicationOperations (Frame.start ⟨x, more + 1, z⟩)
        (7 * (more + 1) + 2) = some ⟨9, product, ⟨x, 0, product⟩, [product]⟩ := by
      rw [Frame.after?_add looped 2]
      rfl
    have spent : count = 3 * (7 * (more + 1) + 2 + 1) := by
      omega
    obtain ⟨halts, alike⟩ := described.haltsAfter holds finished rfl
    rw [← spent] at halts alike
    refine ⟨halts, alike.outputs, alike.acc, alike.slots .x, alike.slots .y, alike.slots .z, ?_⟩
    intro index apart
    apply alike.others
    intro letter
    cases letter <;> simp [multiplicationOperations, Variable.index] <;> omega
  · intro low
    exact described.endless holds (multiplication_loops.endless rfl low)

section

open scoped Provision

/-- A negative number six times, onto a value that is there; and no time at all. -/
theorem minus_seven_times_six :
    (13 : Int) ≤ 13 ∧
      (∃ image, assemble multiplication [("X", .int (-7)), ("Y", .int 6), ("Z", .int 5)] 13 =
          .ok image ∧
        (State.initial image).HaltsAfter 135 ∧
        ((State.initial image).after 135).outputs = [-37]) ∧
      ∃ image, assemble multiplication [("X", .int (-7)), ("Y", .int 0), ("Z", .int 5)] 13 =
          .ok image ∧
        ∀ count, ((State.initial image).after count).halted = false := by
  have enough : (13 : Int) ≤ 13 := Int.le_refl 13
  refine ⟨enough, ?_, ?_⟩
  · obtain ⟨assembled, runs⟩ := multiplication_multiplies (-7) 6 5 13 enough
    obtain ⟨image, made⟩ := assembled.mpr (by decide)
    obtain ⟨multiplied, _⟩ := runs image made
    obtain ⟨halts, outputs, _⟩ := multiplied (by decide)
    have spent : (3 * (7 * (6 : Int) + 3)).toNat = 135 := by decide
    rw [spent] at halts outputs
    exact ⟨image, made, halts, outputs⟩
  · obtain ⟨assembled, runs⟩ := multiplication_multiplies (-7) 0 5 13 enough
    obtain ⟨image, made⟩ := assembled.mpr (by decide)
    obtain ⟨_, endless, _⟩ := runs image made
    exact ⟨image, made, endless (by decide)⟩

end

/-! ### Counting down -/

def countdownOperations : List Operation :=
  [.load .direct 6, .output, .arithmetic .subtract .immediate 1, .store 6, .jump .nonzero 0,
    .halt]

theorem listing_countdown :
    listing countdown =
      [{ opcode := .load .direct, argument := .named .x },
        { opcode := .output },
        { opcode := .arithmetic .subtract .immediate, argument := .number 1 },
        { opcode := .store, argument := .named .x },
        { opcode := .jump .nonzero, argument := .number 0 },
        { opcode := .halt }] := by
  decide +kernel

theorem operations_countdown (bindings : Bindings) (memorySize : Int) :
    operations countdown bindings memorySize = countdownOperations := by
  rw [operations, listing_countdown]
  simp only [List.map_cons, List.map_nil, Line.operation, Line.operand, Argument.operand,
    Opcode.usesAddress, if_true, Bool.false_eq_true, if_false, clamp_zero]
  rfl

/-- The numbers from the given one down to one. -/
def descending : Nat → List Int
  | 0 => []
  | count + 1 => (count + 1 : Nat) :: descending count

theorem length_descending (count : Nat) : (descending count).length = count := by
  induction count with
  | zero => rfl
  | succ count previous => rw [descending, List.length_cons, previous]

theorem descending_toNat {value : Int} (positive : 0 < value) :
    descending value.toNat = value :: descending (value - 1).toNat := by
  have successor : value.toNat = (value - 1).toNat + 1 := by omega
  have same : (((value - 1).toNat + 1 : Nat) : Int) = value := by omega
  rw [successor, descending, same]

/-- The last of these numbers are again those from some number down to one. -/
theorem lastOf_descending (limit count : Nat) :
    lastOf limit (descending count) = descending (min count limit) := by
  induction count with
  | zero => rw [Nat.zero_min, descending, lastOf, List.drop_nil]
  | succ count previous =>
      by_cases few : count + 1 ≤ limit
      · rw [lastOf_of_length_le (by rw [length_descending]; exact few), Nat.min_eq_left few]
      · have full : limit ≤ count := by omega
        have cut : count + 1 - limit = count - limit + 1 := by omega
        have shorter : lastOf limit (descending (count + 1)) = lastOf limit (descending count) := by
          rw [lastOf, lastOf, length_descending, length_descending, cut, descending,
            List.drop_succ_cons]
        rw [shorter, previous, Nat.min_eq_right full, Nat.min_eq_right (Nat.le_succ_of_le full)]

/-- A round puts the first variable out and counts it down. -/
def countdownTurn (frame : Frame) : Frame :=
  { pc := 0
    acc := frame.values.x - 1
    values := { frame.values with x := frame.values.x - 1 }
    outputs := lastOf outputLimit (frame.outputs ++ [frame.values.x]) }

def countdownResult (frame : Frame) : Frame :=
  { pc := 5
    acc := 0
    values := { frame.values with x := 0 }
    outputs := lastOf outputLimit (frame.outputs ++ descending frame.values.x.toNat) }

theorem countdown_loops :
    Frame.CountedLoop countdownOperations 4 (fun frame => frame.values.x) countdownTurn where
  jump := rfl
  body frame top := by
    obtain ⟨pc, acc, values, outputs⟩ := frame
    obtain rfl : pc = 0 := top
    rfl
  back _ := rfl
  tested _ := rfl
  counted _ := rfl

theorem after?_countdown {frame : Frame} (more : Nat) (top : frame.pc = 0)
    (left : frame.values.x = more + 1) :
    frame.after? countdownOperations (5 * (more + 1)) = some (countdownResult frame) := by
  refine countdown_loops.after?_rounds ?_ ?_ more top left
  · rintro ⟨pc, acc, ⟨x, y, z⟩, outputs⟩ single
    obtain rfl : x = 1 := single
    rfl
  · rintro ⟨pc, acc, ⟨x, y, z⟩, outputs⟩ several
    have outputs : lastOf outputLimit
        (lastOf outputLimit (outputs ++ [x]) ++ descending (x - 1).toNat) =
          lastOf outputLimit (outputs ++ descending x.toNat) := by
      rw [lastOf_lastOf_append, List.append_assoc, List.singleton_append,
        descending_toNat (Int.lt_trans Int.one_pos several)]
    unfold countdownResult countdownTurn
    dsimp only
    rw [outputs]

/-- The countdown program puts out the numbers from `X` down to one, of which the machine keeps the
last fifty. It has six lines, so the slots are cells 6 to 8, and it is assembled for every memory
that has them and can be provided. If `X` is at least one, the machine halts in the instruction
behind `X` rounds of five; otherwise it never halts. The unchecked machine goes the same way without
a fault. -/
theorem countdown_counts_down [Provision] (x memorySize : Int) (enough : 9 ≤ memorySize) :
    let bindings : Bindings := [("X", .int x)]
    ((∃ image, assemble countdown bindings memorySize = .ok image) ↔
      memorySize < Provision.bound) ∧
    ∀ image, assemble countdown bindings memorySize = .ok image →
      let start := State.initial image
      (1 ≤ x →
        let count := (3 * (5 * x + 1)).toNat
        let final := start.after count
        start.HaltsAfter count ∧ final.acc = 0 ∧ final.memory[6]? = some (.int 0) ∧
          final.outputs = descending (min x 50).toNat ∧
          final.outputs = lastOf 50 (descending x.toNat)) ∧
      (x ≤ 0 → ∀ count, (start.after count).halted = false) ∧
      ∀ count, Registry.standard.steps count (Record.ofState start) =
        (Record.ofState (start.after count), .ok (start.lines count)) := by
  intro bindings
  have length : (listing countdown).length = 6 := by
    rw [listing_countdown]
    rfl
  have plain : ∀ line ∈ listing countdown, line.isPlain = true := by
    rw [listing_countdown]
    decide +kernel
  have worth : bindings.valuation = ⟨x, 0, 0⟩ := valuation_append_name [] .x x
  refine ⟨exists_image_iff_of_plain bindings (by omega) plain, ?_⟩
  intro image made start
  obtain ⟨holds, described⟩ := starts_of_assemble made (operations_countdown bindings memorySize)
  rw [worth] at described
  refine ⟨?_, ?_, steps_initial_of_assemble made⟩
  · intro positive count final
    obtain ⟨more, counted⟩ : ∃ more : Nat, x = more + 1 := ⟨(x - 1).toNat, by omega⟩
    have spent : count = 3 * (5 * (more + 1) + 1) := by
      omega
    obtain ⟨halts, alike⟩ :=
      described.haltsAfter holds (after?_countdown more rfl counted) rfl
    rw [← spent] at halts alike
    have outputs : final.outputs = lastOf 50 (descending x.toNat) := alike.outputs
    have fewer : min x.toNat 50 = (min x 50).toNat := by
      omega
    refine ⟨halts, alike.acc, alike.slots .x, ?_, outputs⟩
    rw [outputs, lastOf_descending, fewer]
  · intro low
    exact described.endless holds (countdown_loops.endless rfl low)

section

open scoped Provision

/-- From sixty, ten outputs are gone in the end. -/
theorem countdown_from_sixty :
    (9 : Int) ≤ 9 ∧
      ∃ image, assemble countdown [("X", .int 60)] 9 = .ok image ∧
        (State.initial image).HaltsAfter 903 ∧
        ((State.initial image).after 903).outputs = descending 50 := by
  have enough : (9 : Int) ≤ 9 := Int.le_refl 9
  obtain ⟨assembled, runs⟩ := countdown_counts_down 60 9 enough
  obtain ⟨image, made⟩ := assembled.mpr (by decide)
  obtain ⟨counted, _⟩ := runs image made
  obtain ⟨halts, _, _, outputs, _⟩ := counted (by decide)
  have spent : (3 * (5 * (60 : Int) + 1)).toNat = 903 := by decide
  rw [spent] at halts outputs
  exact ⟨enough, image, made, halts, outputs⟩

end

end Accumulator.Assembly
