import Accumulator.Assembly.Image
import Accumulator.Proofs.Fallible
import Accumulator.Proofs.Numeral.LetterCase
import Mathlib.Data.List.Forall2

set_option autoImplicit false

/-!
What counts in a line. Decoding and assembly look at the first two words of a text, take the first
one in upper case, and read the second one without regard to its case. So blanks, further words and
the case of ASCII letters make no difference, neither to an instruction nor to an image.
-/

namespace Accumulator

open Text (SameLetters words)

/-- As many words, up to two, and the same ones but for the case of ASCII letters. -/
def SameStart (first second : List (List Char)) : Prop :=
  List.Forall₂ SameLetters (first.take 2) (second.take 2)

instance (first second : List (List Char)) : Decidable (SameStart first second) :=
  inferInstanceAs (Decidable (List.Forall₂ SameLetters (first.take 2) (second.take 2)))

theorem SameStart.cases {first second : List (List Char)} (same : SameStart first second) :
    (first = [] ∧ second = []) ∨
      (∃ name other, first = [name] ∧ second = [other] ∧ SameLetters name other) ∨
      ∃ name other token value rest behind, first = name :: token :: rest ∧
        second = other :: value :: behind ∧ SameLetters name other ∧ SameLetters token value := by
  rcases first with _ | ⟨name, _ | ⟨token, rest⟩⟩ <;>
    rcases second with _ | ⟨other, _ | ⟨value, behind⟩⟩
  all_goals simp_all [SameStart]

theorem mnemonicOfWord?_of_sameLetters {first second : List Char}
    (same : SameLetters first second) : mnemonicOfWord? first = mnemonicOfWord? second := by
  rw [mnemonicOfWord?, same.upper, mnemonicOfWord?]

theorem operationOfWords_of_sameStart {first second : List (List Char)}
    (same : SameStart first second) : operationOfWords first = operationOfWords second := by
  rcases same.cases with
    ⟨rfl, rfl⟩ | ⟨name, other, rfl, rfl, names⟩ |
      ⟨name, other, token, value, rest, behind, rfl, rfl, names, operands⟩
  · rfl
  · rw [operationOfWords, operationOfWords, mnemonicOfWord?_of_sameLetters names]
  · rw [operationOfWords, operationOfWords, mnemonicOfWord?_of_sameLetters names, operandOfWords,
      operandOfWords, wordOfToken?_of_sameLetters operands]

namespace Assembly

theorem ofWord?_of_sameLetters {first second : List Char} (same : SameLetters first second) :
    Variable.ofWord? first = Variable.ofWord? second := by
  rw [Variable.ofWord?, same.upper, Variable.ofWord?]

theorem addressOperand_of_sameLetters (length : Nat) (memorySize : Int) {token other : List Char}
    (same : SameLetters token other) :
    addressOperand length memorySize token = addressOperand length memorySize other := by
  rw [addressOperand, ofWord?_of_sameLetters same, wordOfToken?_of_sameLetters same, addressOperand]

theorem valueOperand_of_sameLetters (valuation : Valuation) {token other : List Char}
    (same : SameLetters token other) :
    valueOperand valuation token = valueOperand valuation other := by
  rw [valueOperand, ofWord?_of_sameLetters same, wordOfToken?_of_sameLetters same, valueOperand]

theorem cellText_of_sameStart (length : Nat) (valuation : Valuation) (memorySize : Int)
    {first second : List (List Char)} (same : SameStart first second) :
    cellText length valuation memorySize first = cellText length valuation memorySize second := by
  rcases same.cases with
    ⟨rfl, rfl⟩ | ⟨name, other, rfl, rfl, names⟩ |
      ⟨name, other, token, value, rest, behind, rfl, rfl, names, operands⟩
  · rfl
  · unfold cellText
    dsimp only
    rw [names.upper]
  · unfold cellText
    dsimp only
    rw [names.upper, addressOperand_of_sameLetters length memorySize operands,
      valueOperand_of_sameLetters valuation operands]

/-- Two programs of as many lines, which start alike one by one. -/
def StartAlike (first second : List (List Char)) : Prop :=
  List.Forall₂ (fun line other => SameStart (words line) (words other)) first second

theorem programCells_of_startAlike (valuation : Valuation) (memorySize : Int)
    {first second : List (List Char)} (alike : StartAlike first second) :
    programCells valuation memorySize first = programCells valuation memorySize second := by
  unfold programCells
  rw [List.Forall₂.length_eq alike]
  -- The number of lines is fixed now, so the lines can be taken off one by one.
  generalize second.length = length
  dsimp only
  induction alike with
  | nil => rfl
  | cons same _ previous =>
      rw [List.mapM_cons, List.mapM_cons, cellText_of_sameStart length valuation memorySize same,
        previous]

theorem imageOfLines_of_startAlike [Provision] (valuation : Valuation) (memorySize : Int)
    {first second : List (List Char)} (alike : StartAlike first second) :
    imageOfLines first valuation memorySize = imageOfLines second valuation memorySize := by
  unfold imageOfLines
  rw [List.Forall₂.length_eq alike, programCells_of_startAlike valuation memorySize alike]

end Assembly

open Assembly (programLines assemble Bindings)

/-- Only the first two words of a text matter, without regard to the case of ASCII letters. Texts
that start alike are decoded to one instruction, and sources whose program lines start alike, one by
one, have one image or are refused for one reason. -/
theorem first_two_words_decide [Provision] :
    (∀ first second : String, SameStart (words first.toList) (words second.toList) →
      (decode (.text first)).toCall.name = (decode (.text second)).toCall.name ∧
        (decode (.text first)).toCall.operand = (decode (.text second)).toCall.operand) ∧
      ∀ first second : String,
        List.Forall₂ (fun line other => SameStart (words line) (words other))
            (programLines first.toList) (programLines second.toList) →
          ∀ (bindings : Bindings) (memorySize : Int),
            assemble first bindings memorySize = assemble second bindings memorySize := by
  constructor
  · intro first second same
    have operation : (decode (.text first)).operation = (decode (.text second)).operation :=
      operationOfWords_of_sameStart same
    constructor
    · exact congrArg (·.opcode.name) operation
    · exact congrArg Operation.operand? operation
  · intro first second alike bindings memorySize
    exact Assembly.imageOfLines_of_startAlike bindings.valuation memorySize alike

section

open scoped Provision

/-- A hexadecimal address behind a tab and before a third word, and a program with a comment, a word
that is no mnemonic and an ideographic space. -/
theorem odd_spellings_are_one_program :
    let text := "\tsToRe  0xbE here"
    let plain := "STORE 0XBE"
    let source := "load X 7 // seven\n\nfoo\rjz +0b11"
    let again := "LoaD x\nFOO\nJZ\u3000+0B11 0"
    let bindings : Bindings := [("x", .int 5)]
    SameStart (words text.toList) (words plain.toList) ∧
      (decode (.text text)).toCall.name = (decode (.text plain)).toCall.name ∧
      (decode (.text text)).toCall.operand = some (.int 190) ∧
      (decode (.text plain)).toCall.operand = some (.int 190) ∧
      List.Forall₂ (fun line other => SameStart (words line) (words other))
        (programLines source.toList) (programLines again.toList) ∧
      ∃ image, assemble source bindings 8 = .ok image ∧ assemble again bindings 8 = .ok image ∧
        image.take 3 = [.text "LOAD 5", .text "FOO", .text "JZ 3"] := by
  intro text plain source again bindings
  have start : SameStart (words text.toList) (words plain.toList) := by decide +kernel
  have alike : List.Forall₂ (fun line other => SameStart (words line) (words other))
      (programLines source.toList) (programLines again.toList) := by
    decide +kernel
  obtain ⟨name, operand⟩ := first_two_words_decide.1 text plain start
  have read : (decode (.text plain)).toCall.operand = some (.int 190) := by decide +kernel
  have same := first_two_words_decide.2 source again alike bindings 8
  have printed : (assemble source bindings 8).toOption.map (·.take 3) =
      some [.text "LOAD 5", .text "FOO", .text "JZ 3"] := by
    decide +kernel
  obtain ⟨image, made, cells⟩ := Option.map_eq_some_iff.mp printed
  have assembled : assemble source bindings 8 = .ok image := eq_ok_of_toOption made
  exact ⟨start, name, operand.trans read, read, alike, image, assembled, same ▸ assembled, cells⟩

end

end Accumulator
