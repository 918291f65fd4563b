import Accumulator.Proofs.Machine.InstructionTable
import Accumulator.Proofs.Numeral.Opening
import Accumulator.Proofs.Numeral.RoundTrip
import Accumulator.Simulator.Basic

set_option autoImplicit false

/-!
Typing into a cell what the cell shows. A typed text ends up in one of three kinds of cells, and
each kind is shown by a text that makes the same cell again. Only an integer beyond the digit limit
is shown by a text of another kind, the description of its size.
-/

namespace Accumulator

open Text (trim words)

/-! ### Descriptions of sizes -/

namespace Numeral

theorem words_sizeDescription (size : Nat) :
    words ("<" ++ text size ++ "-bit int>").toList =
      ['<' :: (decimal size ++ "-bit".toList), "int>".toList] := by
  have ending : Text.Visible "-bit".toList := by decide
  have visible : Text.Visible ('<' :: (decimal size ++ "-bit".toList)) :=
    Text.visible_cons (by decide) ((visible_decimal size).append ending)
  have shape : ("<" ++ text size ++ "-bit int>").toList =
      ('<' :: (decimal size ++ "-bit".toList)) ++ ' ' :: "int>".toList := by
    rw [String.toList_append, String.toList_append, toList_text]
    simp
  rw [shape]
  exact Text.words_pair visible (List.cons_ne_nil _ _) (by decide) (by decide)

/-- The description of a size denotes no number, for no literal starts with an angle bracket. -/
theorem wordOfToken?_sizeDescription (size : Nat) :
    wordOfToken? ("<" ++ text size ++ "-bit int>").toList = none := by
  refine wordOfToken?_eq_none (words_sizeDescription size) ?_ ?_
  · intro character first
    rw [← Option.some.inj first]
    decide
  · intro name listed
    have opening : (Text.upper name.toList).head? ≠ some '<' := by
      have table : ∀ other ∈ names, (Text.upper other.toList).head? ≠ some '<' := by decide
      exact table name listed
    rintro ⟨behind, whole⟩
    apply opening
    rw [← whole]
    rfl

end Numeral

/-! ### Typed cells -/

/-- The cells that a typed text can make. -/
inductive Cell.Typed : Cell → Prop
  | blank : Typed .empty
  | integer (value : Int) : Typed (.int value)
  | unread {content : String} (filled : (trim content.toList).isEmpty = false)
      (wordless : wordOfToken? content.toList = none) : Typed (.text content)

theorem wordOfToken?_of_blank {text : List Char} (blank : trim text = []) :
    wordOfToken? text = none := by
  unfold wordOfToken?
  rw [blank]
  rfl

namespace Simulator

theorem typed_cellOfText (text : String) : (cellOfText text).Typed := by
  unfold cellOfText
  split
  · exact .blank
  · next filled =>
      split
      · exact .integer _
      · next wordless => exact .unread (Bool.eq_false_iff.mpr filled) wordless

theorem word_cellOfText (text : String) : (cellOfText text).word = (Cell.text text).word := by
  have worth : (Cell.text text).word = (wordOfToken? text.toList).getD 0 := rfl
  unfold cellOfText
  split
  · next blank =>
      rw [worth, wordOfToken?_of_blank (List.isEmpty_iff.mp blank)]
      rfl
  · cases read : wordOfToken? text.toList with
    | some value =>
        rw [worth, read]
        rfl
    | none => rfl

theorem cellOfText_of_word {text : String} {value : Int}
    (read : wordOfToken? text.toList = some value) : cellOfText text = .int value := by
  have filled : (trim text.toList).isEmpty = false := by
    rw [List.isEmpty_eq_false_iff]
    intro blank
    rw [wordOfToken?_of_blank blank] at read
    contradiction
  rw [cellOfText, if_neg (Bool.eq_false_iff.mp filled), read]

theorem cellOfText_describe_iff (value : Int) :
    cellOfText (Numeral.describe value) = .int value ↔
      (Nat.toDigits 10 value.natAbs).length ≤ Numeral.digitLimit := by
  rw [← Numeral.hasDecimal_iff]
  cases short : Numeral.hasDecimal value with
  | true =>
      refine ⟨fun _ => rfl, fun _ => ?_⟩
      rw [Numeral.describe_of_short short]
      apply cellOfText_of_word
      rw [Numeral.toList_text, wordOfToken?_decimal short]
  | false =>
      refine ⟨fun same => ?_, nofun⟩
      -- The description of a size is kept as it is, so it makes a text and no integer.
      rw [Numeral.describe_of_long short, cellOfText, Numeral.wordOfToken?_sizeDescription] at same
      split at same <;> cases same

/-- A typed cell comes back when what it shows is typed, unless it is an integer beyond the digit
limit. -/
theorem cellOfText_display_iff {cell : Cell} (typed : cell.Typed) :
    cellOfText cell.display = cell ↔
      ∀ value : Int, cell = .int value →
        (Nat.toDigits 10 value.natAbs).length ≤ Numeral.digitLimit := by
  cases typed with
  | blank => exact ⟨nofun, fun _ => rfl⟩
  | integer value =>
      change cellOfText (Numeral.describe value) = .int value ↔ _
      rw [cellOfText_describe_iff]
      constructor
      · rintro short other same
        rw [← Number.int.inj (Cell.number.inj same)]
        exact short
      · exact fun short => short value rfl
  | unread filled wordless =>
      refine ⟨nofun, fun _ => ?_⟩
      rw [Cell.display, cellOfText, if_neg (Bool.eq_false_iff.mp filled), wordless]

end Simulator

/-! ### Writing a cell again -/

namespace State

variable {state : State} {address : Int} {cell held : Cell}

theorem getElem?_write (positive : 0 < state.size) :
    (state.write address cell).memory[state.nearest address]? = some cell := by
  rw [← clampAddress_eq_nearest]
  exact Array.getElem?_setIfInBounds_self_of_lt (clampInto_lt positive address)

theorem getElem?_write_of_ne {other : Nat} (different : other ≠ state.nearest address) :
    (state.write address cell).memory[other]? = state.memory[other]? := by
  rw [← clampAddress_eq_nearest] at different
  exact Array.getElem?_setIfInBounds_ne different.symm

theorem write_of_held (found : state.memory[state.nearest address]? = some held) :
    state.write address held = state := by
  obtain ⟨inside, rfl⟩ := Array.getElem?_eq_some_iff.mp found
  have memory : (state.write address state.memory[state.nearest address]).memory =
      state.memory := by
    change state.memory.setIfInBounds (state.clampAddress address) _ = _
    rw [clampAddress_eq_nearest, Array.setIfInBounds_def, dif_pos inside, Array.set_getElem_self]
  exact congrArg (State.mk state.toRegisters) memory

theorem write_eq_self_iff (found : state.memory[state.nearest address]? = some held) :
    state.write address cell = state ↔ cell = held := by
  constructor
  · intro same
    obtain ⟨inside, _⟩ := Array.getElem?_eq_some_iff.mp found
    have written : (state.write address cell).memory[state.nearest address]? = some cell :=
      getElem?_write (Nat.zero_lt_of_lt inside)
    rw [same, found] at written
    exact (Option.some.inj written).symm
  · rintro rfl
    exact write_of_held found

end State

namespace Simulator

theorem editCell_eq_self_iff (simulator : Simulator) (index : Int) (text : String) :
    simulator.editCell index (.text text) = .ok simulator ↔
      simulator.state.write index (cellOfText text) = simulator.state := by
  change Except.ok (simulator.editText index text) = .ok simulator ↔ _
  constructor
  · intro same
    exact congrArg Simulator.state (Except.ok.inj same)
  · intro same
    rw [editText, same]

/-- Typing a text into a cell makes it worth what the text is worth and changes nothing else, not
even a register. Typing then what the cell shows changes nothing at all, unless the text denoted an
integer that is too long to be shown. -/
theorem retyping_what_a_cell_shows_changes_nothing (simulator : Simulator) (index : Int)
    (text : String) (positive : 0 < simulator.state.size) :
    ∃ (edited : Simulator) (value : Cell),
      let place := simulator.state.nearest index
      simulator.editCell index (.text text) = .ok edited ∧
        edited.state.memory[place]? = some value ∧
        value.word = (Cell.text text).word ∧
        edited.state.size = simulator.state.size ∧
        (∀ other, other ≠ place → edited.state.memory[other]? = simulator.state.memory[other]?) ∧
        edited.state.toRegisters = simulator.state.toRegisters ∧
        edited = { simulator with state := edited.state } ∧
        (edited.editCell index (.text value.display) = .ok edited ↔
          ∀ number : Int, value = .int number →
            (Nat.toDigits 10 number.natAbs).length ≤ Numeral.digitLimit) := by
  let edited := simulator.editText index text
  have place : edited.state.nearest index = simulator.state.nearest index := by
    have same : edited.state.memory.size = simulator.state.memory.size := State.size_write _ _ _
    rw [State.nearest, same, State.nearest]
  have held : edited.state.memory[simulator.state.nearest index]? = some (cellOfText text) :=
    State.getElem?_write positive
  refine ⟨edited, cellOfText text, rfl, held, word_cellOfText text, State.size_write _ _ _,
    fun _ different => State.getElem?_write_of_ne different, rfl, rfl, ?_⟩
  rw [← cellOfText_display_iff (typed_cellOfText text)]
  rw [← place] at held
  rw [← State.write_eq_self_iff held]
  exact editCell_eq_self_iff edited index (cellOfText text).display

/-- A real literal is cut off to an integer, written at an index behind the memory. -/
theorem truncated_literal_is_retyped :
    let simulator := new 3 10
    0 < simulator.state.size ∧
      ∃ edited : Simulator,
        simulator.editCell 7 (.text "\t-12.9e0 ") = .ok edited ∧
          edited.state.memory = #[.empty, .empty, .int (-12)] ∧
          edited.editCell 7 (.text "-12") = .ok edited := by
  intro simulator
  have positive : 0 < simulator.state.size := by decide
  have memory : (simulator.editText 7 "\t-12.9e0 ").state.memory =
      #[.empty, .empty, .int (-12)] := by decide +kernel
  obtain ⟨edited, value, done, held, _, _, _, _, _, again⟩ :=
    retyping_what_a_cell_shows_changes_nothing simulator 7 "\t-12.9e0 " positive
  obtain rfl : simulator.editText 7 "\t-12.9e0 " = edited := Except.ok.inj done
  have shown : value = .int (-12) := by
    rw [memory] at held
    exact (Option.some.inj held).symm
  have display : value.display = "-12" := by
    rw [shown]
    decide +kernel
  rw [display, shown] at again
  refine ⟨positive, _, done, memory, again.mpr ?_⟩
  intro number same
  rw [← Number.int.inj (Cell.number.inj same)]
  decide +kernel

end Simulator

end Accumulator
