import Accumulator.Proofs.Assembly.Letter
import Accumulator.Proofs.Machine.Storage

set_option autoImplicit false

/-!
Runs of programs that work on their variables. Between two instructions all that counts of such a
machine is a frame: the program counter, the accumulator, the values of the variables and the
outputs. Frames have a step function of their own, an instruction at a time, which is defined as
long as the program keeps to its variables and does not halt. Wherever it leads, three transitions
of the machine lead as well, so what a program does is worked out on frames.
-/

namespace Accumulator.Assembly

open State (latch clampInto clampInto_of_lt)

structure Frame where
  pc : Nat
  acc : Int
  values : Valuation
  outputs : List Int
  deriving DecidableEq, Repr

/-- The variable with its slot at that address. -/
def variableAt? (length : Nat) (address : Int) : Option Variable :=
  Variable.all.find? fun letter => letter.slot length == address

theorem slot_of_variableAt? {length : Nat} {address : Int} {letter : Variable}
    (found : variableAt? length address = some letter) : letter.slot length = address := by
  have same : (letter.slot length == address) = true :=
    @List.find?_some Variable _ letter Variable.all found
  exact eq_of_beq same

namespace Frame

def start (values : Valuation) : Frame :=
  { pc := 0, acc := 0, values := values, outputs := [] }

def jumpTo (frame : Frame) (line : Nat) : Frame :=
  { frame with pc := line }

def advance (frame : Frame) : Frame :=
  frame.jumpTo (frame.pc + 1)

def operandValue? (length : Nat) (frame : Frame) (mode : Mode) (operand : Int) : Option Int :=
  match mode with
  | .immediate => some operand
  | .direct => (variableAt? length operand).map frame.values.get

/-- The effect of an operation on a frame, if it goes on and reaches nothing but the lines of the
program and the slots behind them. -/
def effect? (length : Nat) (frame : Frame) : Operation → Option Frame
  | .nop => some frame.advance
  | .halt => none
  | .output =>
    some { frame with outputs := lastOf outputLimit (frame.outputs ++ [frame.acc]) }.advance
  | .load mode operand =>
    (frame.operandValue? length mode operand).map fun value => { frame with acc := value }.advance
  | .store address =>
    (variableAt? length address).map fun letter =>
      { frame with values := frame.values.set letter frame.acc }.advance
  | .arithmetic function mode operand =>
    (frame.operandValue? length mode operand).map fun value =>
      { frame with acc := function.apply frame.acc value }.advance
  | .jump condition address =>
    if condition.holds frame.acc then
      if 0 ≤ address ∧ address < length then some (frame.jumpTo address.toNat) else none
    else some frame.advance
  | .data _ => some frame.advance
  | .invalid => none

/-- One instruction of a program. -/
def next? (program : List Operation) (frame : Frame) : Option Frame :=
  program[frame.pc]?.bind (frame.effect? program.length)

def after? (program : List Operation) (frame : Frame) : Nat → Option Frame
  | 0 => some frame
  | count + 1 => (frame.next? program).bind fun following => following.after? program count

theorem next?_of_jump {program : List Operation} {frame : Frame} {condition : Condition}
    {address : Nat} (present : program[frame.pc]? = some (.jump condition address))
    (inside : address < program.length) :
    frame.next? program =
      some (if condition.holds frame.acc then frame.jumpTo address else frame.advance) := by
  have reached : 0 ≤ (address : Int) ∧ (address : Int) < program.length := by omega
  rw [next?, present, Option.bind_some, effect?, if_pos reached, Int.toNat_natCast]
  split <;> rfl

theorem after?_add {program : List Operation} {frame middle : Frame} {first : Nat}
    (led : frame.after? program first = some middle) (second : Nat) :
    frame.after? program (first + second) = middle.after? program second := by
  induction first generalizing frame with
  | zero =>
      rw [← Option.some.inj led, Nat.zero_add]
  | succ first previous =>
      obtain ⟨following, next, rest⟩ := Option.bind_eq_some_iff.mp led
      rw [Nat.succ_add, after?, next, Option.bind_some, previous rest]

theorem exists_after?_of_le {program : List Operation} {frame last : Frame} {first second : Nat}
    (order : first ≤ second) (led : frame.after? program second = some last) :
    ∃ middle, frame.after? program first = some middle := by
  induction first generalizing frame second with
  | zero => exact ⟨frame, rfl⟩
  | succ first previous =>
      obtain ⟨more, rfl⟩ := Nat.exists_eq_add_of_le' (Nat.zero_lt_of_lt order)
      obtain ⟨following, next, rest⟩ := Option.bind_eq_some_iff.mp led
      obtain ⟨middle, reached⟩ := previous (Nat.le_of_succ_le_succ order) rest
      refine ⟨middle, ?_⟩
      rw [after?, next, Option.bind_some, reached]

/-- A kind of frame that always comes back keeps a program going forever. -/
theorem exists_after?_of_recurring {program : List Operation} {Recurs : Frame → Prop}
    {count : Nat} (positive : 0 < count)
    (again : ∀ frame, Recurs frame →
      ∃ later, frame.after? program count = some later ∧ Recurs later)
    {frame : Frame} (recurs : Recurs frame) (total : Nat) :
    ∃ later, frame.after? program total = some later := by
  induction total using Nat.strongRecOn generalizing frame with
  | ind total previous =>
      obtain ⟨later, led, back⟩ := again frame recurs
      rcases Nat.lt_or_ge total count with within | beyond
      · exact exists_after?_of_le (Nat.le_of_lt within) led
      · obtain ⟨rest, rfl⟩ := Nat.exists_eq_add_of_le beyond
        rw [after?_add led]
        exact previous rest (by omega) back

/-! ### The state of a frame -/

/-- The state has the contents of the frame, and what else is in its memory is from the image. -/
structure Matches (frame : Frame) (image : List Cell) (length : Nat) (state : State) : Prop where
  pc : state.pc = frame.pc
  acc : state.acc = frame.acc
  outputs : state.outputs = frame.outputs
  size : state.size = image.length
  slots : ∀ letter : Variable,
    state.memory[length + letter.index]? = some (.int (frame.values.get letter))
  others : ∀ index : Nat, (∀ letter : Variable, index ≠ length + letter.index) →
    state.memory[index]? = image[index]?

/-- A state that matches the frame and stands between two instructions. -/
structure Describes (frame : Frame) (image : List Cell) (length : Nat) (state : State) : Prop
    extends Matches frame image length state where
  running : state.halted = false
  boundary : state.phase = .idle ∨ state.phase = .execute

section Operation

variable {frame later : Frame} {image : List Cell} {length : Nat} {state : State}

theorem Matches.jumpTo (alike : frame.Matches image length state) {address : Nat}
    (inside : address < image.length) :
    (frame.jumpTo address).Matches image length (state.jumpTo address) where
  pc := clampInto_of_lt (alike.size ▸ inside)
  acc := alike.acc
  outputs := alike.outputs
  size := alike.size
  slots := alike.slots
  others := alike.others

theorem Matches.advance (alike : frame.Matches image length state)
    (inside : frame.pc + 1 < image.length) : frame.advance.Matches image length state.advance := by
  unfold State.advance
  rw [alike.pc]
  exact alike.jumpTo inside

theorem Matches.accept (alike : frame.Matches image length state) (value : Int) :
    { frame with acc := value }.Matches image length { state with acc := value } :=
  ⟨alike.pc, rfl, alike.outputs, alike.size, alike.slots, alike.others⟩

theorem Matches.emit (alike : frame.Matches image length state) :
    { frame with outputs := lastOf outputLimit (frame.outputs ++ [frame.acc]) }.Matches
      image length (state.emit state.acc) where
  pc := alike.pc
  acc := alike.acc
  outputs := by
    rw [← alike.outputs, ← alike.acc]
    rfl
  size := alike.size
  slots := alike.slots
  others := alike.others

theorem Matches.clampAddress_slot (alike : frame.Matches image length state)
    (letter : Variable) :
    state.clampAddress (letter.slot length) = length + letter.index := by
  obtain ⟨inside, _⟩ := Array.getElem?_eq_some_iff.mp (alike.slots letter)
  exact clampInto_of_lt inside

theorem Matches.write (alike : frame.Matches image length state) (letter : Variable) :
    { frame with values := frame.values.set letter frame.acc }.Matches image length
      (state.write (letter.slot length) (.int state.acc)) where
  pc := alike.pc
  acc := alike.acc
  outputs := alike.outputs
  size := (State.size_write state _ _).trans alike.size
  slots other := by
    obtain ⟨inside, _⟩ := Array.getElem?_eq_some_iff.mp (alike.slots letter)
    change (state.memory.setIfInBounds (state.clampAddress (letter.slot length)) _)[_]? = _
    rw [alike.clampAddress_slot, get_set]
    by_cases same : letter = other
    · rw [if_pos same, ← same, Array.getElem?_setIfInBounds_self_of_lt inside, alike.acc]
    · have apart : length + letter.index ≠ length + other.index := fun met =>
        same (Variable.eq_of_index_eq (Nat.add_left_cancel met))
      rw [if_neg same, Array.getElem?_setIfInBounds_ne apart, alike.slots other]
  others index spared := by
    change (state.memory.setIfInBounds (state.clampAddress (letter.slot length)) _)[_]? = _
    rw [alike.clampAddress_slot, Array.getElem?_setIfInBounds_ne (spared letter).symm,
      alike.others index spared]

theorem Matches.operandValue (alike : frame.Matches image length state) {mode : Mode}
    {operand value : Int} (known : frame.operandValue? length mode operand = some value) :
    state.operandValue mode operand = value := by
  cases mode with
  | immediate => exact Option.some.inj known
  | direct =>
      obtain ⟨letter, found, held⟩ := Option.map_eq_some_iff.mp known
      change ((state.memory[state.clampAddress operand]?).getD .empty).word = value
      rw [← slot_of_variableAt? found, alike.clampAddress_slot, alike.slots letter, held]
      rfl

/-- Applying an operation to a matching state leaves one that matches what it makes of the frame. -/
theorem Matches.apply (alike : frame.Matches image length state)
    (room : length < image.length) (inside : frame.pc < length) {operation : Operation}
    (led : frame.effect? length operation = some later) :
    later.Matches image length (state.apply operation) := by
  have behind : frame.pc + 1 < image.length := by omega
  cases operation with
  | halt => contradiction
  | invalid => contradiction
  | nop =>
      rw [← Option.some.inj led]
      exact alike.advance behind
  | data word =>
      rw [← Option.some.inj led]
      exact alike.advance behind
  | output =>
      rw [← Option.some.inj led]
      exact alike.emit.advance behind
  | load mode operand =>
      obtain ⟨value, known, same⟩ := Option.map_eq_some_iff.mp led
      rw [← same, ← alike.operandValue known]
      exact (alike.accept _).advance behind
  | store address =>
      obtain ⟨letter, found, same⟩ := Option.map_eq_some_iff.mp led
      rw [← same, ← slot_of_variableAt? found]
      exact (alike.write letter).advance behind
  | arithmetic function mode operand =>
      obtain ⟨value, known, same⟩ := Option.map_eq_some_iff.mp led
      rw [← same, ← alike.operandValue known, ← alike.acc]
      exact (alike.accept _).advance behind
  | jump condition address =>
      unfold effect? at led
      unfold State.apply
      dsimp only at led ⊢
      rw [alike.acc]
      split at led
      · next taken =>
          rw [if_pos taken]
          split at led
          · next among =>
              have reached : (address.toNat : Int) = address := Int.toNat_of_nonneg among.1
              rw [← Option.some.inj led, ← reached]
              exact alike.jumpTo (by omega)
          · contradiction
      · next passed =>
          rw [if_neg passed, ← Option.some.inj led]
          exact alike.advance behind

theorem passes_of_effect? {operation : Operation}
    (led : frame.effect? length operation = some later) : operation.opcode.stops = false := by
  cases operation with
  | halt => contradiction
  | invalid => contradiction
  | _ => rfl

end Operation

end Frame

/-! ### Runs of an image -/

/-- An image that starts with the program and has slots behind it. -/
structure Holds (image : List Cell) (program : List Operation) : Prop where
  room : program.length + 3 ≤ image.length
  code : ∀ (index : Nat) (operation : Operation), program[index]? = some operation →
    ∃ cell, image[index]? = some cell ∧ (decode (latch cell)).operation = operation

namespace Frame

section Run

variable {program : List Operation} {frame later : Frame} {image : List Cell} {state : State}

/-- Three transitions apply the operation that the program has at the program counter. -/
theorem Describes.after_three (described : frame.Describes image program.length state)
    (holds : Holds image program) {operation : Operation}
    (present : program[frame.pc]? = some operation) :
    ∃ cell, state.after 3 =
      { state with ir := cell, phase := .execute, cycles := state.cycles + 1 }.apply operation := by
  obtain ⟨inside, _⟩ := List.getElem?_eq_some_iff.mp present
  obtain ⟨cell, stored, same⟩ := holds.code frame.pc operation present
  have spared : ∀ letter : Variable, frame.pc ≠ program.length + letter.index := by
    intro letter
    omega
  have room := holds.room
  have reached : state.clampAddress state.pc = frame.pc := by
    rw [described.pc]
    exact clampInto_of_lt (by rw [described.size]; omega)
  have read : state.read state.pc = cell := by
    rw [State.read, reached, described.others frame.pc spared, stored, Option.getD_some]
  refine ⟨latch cell, ?_⟩
  rw [State.after_three described.running described.boundary, read, same]

theorem Describes.next (described : frame.Describes image program.length state)
    (holds : Holds image program) (led : frame.next? program = some later) :
    later.Describes image program.length (state.after 3) := by
  obtain ⟨operation, present, applied⟩ := Option.bind_eq_some_iff.mp led
  obtain ⟨inside, _⟩ := List.getElem?_eq_some_iff.mp present
  obtain ⟨cell, same⟩ := described.after_three holds present
  have room := holds.room
  let latched : State :=
    { state with ir := cell, phase := .execute, cycles := state.cycles + 1 }
  have alike : frame.Matches image program.length latched :=
    ⟨described.pc, described.acc, described.outputs, described.size, described.slots,
      described.others⟩
  have counted := State.apply_counted latched operation .execute (state.cycles + 1)
  rw [same]
  exact {
    toMatches := alike.apply (by omega) inside applied
    running := (State.halted_apply latched (passes_of_effect? applied)).trans described.running
    boundary := .inr (congrArg (fun reached => reached.phase) counted).symm }

theorem Describes.after {count : Nat} (described : frame.Describes image program.length state)
    (holds : Holds image program) (led : frame.after? program count = some later) :
    later.Describes image program.length (state.after (3 * count)) := by
  induction count generalizing frame state with
  | zero =>
      rw [← Option.some.inj led]
      exact described
  | succ count previous =>
      obtain ⟨following, next, rest⟩ := Option.bind_eq_some_iff.mp led
      have split : state.after (3 * (count + 1)) = (state.after 3).after (3 * count) := by
        rw [← State.after_add, Nat.mul_succ, Nat.add_comm]
      rw [split]
      exact previous (described.next holds next) rest

/-- A run that comes to a halt instruction ends with its third transition. -/
theorem Describes.haltsAfter {count : Nat} (described : frame.Describes image program.length state)
    (holds : Holds image program) (led : frame.after? program count = some later)
    (stop : program[later.pc]? = some .halt) :
    state.HaltsAfter (3 * (count + 1)) ∧
      later.Matches image program.length (state.after (3 * (count + 1))) := by
  have reached := described.after holds led
  obtain ⟨cell, same⟩ := reached.after_three holds stop
  have split : state.after (3 * (count + 1)) = (state.after (3 * count)).after 3 := by
    rw [← State.after_add, Nat.mul_succ]
  have before : (state.after (3 * count + 2)).halted = false := by
    rw [State.after_add, State.after_two reached.running reached.boundary]
    exact reached.running
  rw [split, same]
  refine ⟨⟨?_, ?_⟩, ?_⟩
  · rw [split, same]
    rfl
  · intro earlier sooner
    exact State.running_before (by omega) before
  · exact ⟨reached.pc, reached.acc, reached.outputs, reached.size, reached.slots,
      reached.others⟩

theorem Describes.endless (described : frame.Describes image program.length state)
    (holds : Holds image program)
    (endless : ∀ count, ∃ later, frame.after? program count = some later) (count : Nat) :
    (state.after count).halted = false := by
  obtain ⟨later, led⟩ := endless count
  exact State.running_before (by omega) (described.after holds led).running

end Run

end Frame

end Accumulator.Assembly
