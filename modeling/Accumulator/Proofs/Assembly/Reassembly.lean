import Accumulator.Proofs.Assembly.ProgramLine
import Accumulator.Proofs.Assembly.Refusal
import Accumulator.Proofs.Assembly.ReadBack
import Accumulator.Proofs.Fallible

set_option autoImplicit false

/-!
Assembling the text of an image again. What is written into the cell of a line is a program line with
the same mnemonic, which no longer names a variable: the number in it is inside the memory if it is
an address, and no value has to be looked up for it. So it is written once more as it is, whatever
the variables are worth by then.
-/

namespace Accumulator

namespace Numeral

theorem slash_not_mem_decimal (value : Int) : '/' ∉ decimal value := by
  intro inside
  rcases sign_or_digit_of_mem_decimal inside with sign | digit
  · exact absurd sign (by decide)
  · exact absurd digit (by decide)

end Numeral

namespace Assembly

open Text (Visible upper words)

theorem letterOf?_decimal (value : Int) : letterOf? (Numeral.decimal value) = none := by
  cases named : letterOf? (Numeral.decimal value) with
  | none => rfl
  | some letter =>
      have plain {character : Char} (alone : Numeral.decimal value = [character]) :
          character = '-' ∨ character.isDigit = true :=
        Numeral.sign_or_digit_of_mem_decimal (alone ▸ List.mem_singleton_self character)
      unfold letterOf? at named
      split at named
      case h_7 => cases named
      all_goals next alone => exact absurd (plain alone) (by decide)

section Line

variable {bindings : Bindings} {length : Nat} {memorySize : Int}
variable {first : List Char} {rest : List (List Char)}

/-- What is written for a line is a program line. -/
theorem isProgramLine_writtenText (bindings : Bindings) (length : Nat) (memorySize : Int)
    (visible : Visible first) (nonempty : first ≠ []) (uncommented : beforeComment first = first)
    (rest : List (List Char)) :
    IsProgramLine (writtenText bindings length memorySize (first :: rest)).toList := by
  have name : Visible (upper first) := visible.upper
  have named : upper first ≠ [] := Text.upper_ne_nil nonempty
  have clean : beforeComment (upper first) = upper first := by
    rw [beforeComment_upper, uncommented]
  unfold writtenText
  cases written? bindings length memorySize (first :: rest) with
  | none =>
      dsimp only
      rw [String.toList_ofList]
      exact ⟨named, name.unbroken, clean, Text.trim_of_visible name⟩
  | some number =>
      have digits : Visible (Numeral.decimal number) := Numeral.visible_decimal number
      have slashless : '/' ∉ ' ' :: Numeral.decimal number := by
        rw [List.mem_cons, not_or]
        exact ⟨by decide, Numeral.slash_not_mem_decimal number⟩
      dsimp only
      simp only [String.toList_append, String.toList_ofList, Numeral.text, List.append_assoc]
      refine ⟨List.append_ne_nil_of_left_ne_nil named _, ?_,
        beforeComment_append_of_not_mem clean slashless,
        Text.trim_of_visible_ends name named [' '] digits (Numeral.decimal_ne_nil number)⟩
      intro character inside
      rcases List.mem_append.mp inside with mnemonic | behind
      · exact name.unbroken character mnemonic
      · rcases List.mem_cons.mp behind with blank | numeral
        · rw [blank]
          decide
        · exact digits.unbroken character numeral

variable (others : Bindings)

/-- The number that is written for a line is written again for its numeral. -/
theorem written?_words_writtenText (enough : (length : Int) + 3 ≤ memorySize)
    (visible : Visible first) (nonempty : first ≠ [])
    (short : writable bindings length memorySize (first :: rest) = true) :
    written? others length memorySize
        (words (writtenText bindings length memorySize (first :: rest)).toList) =
      written? bindings length memorySize (first :: rest) := by
  rw [words_writtenText bindings length memorySize rest visible nonempty]
  cases rest with
  | nil => rfl
  | cons token behind =>
      unfold writable at short
      by_cases address : String.ofList (upper first) ∈ OperandKind.address.mnemonics
      · obtain ⟨above, below⟩ := meantAddress_inside enough token
        rw [written?, if_pos address] at short ⊢
        rw [Option.all_some] at short
        rw [Option.map_some, Option.toList_some, written?, if_pos (OperandKind.upper_mem address),
          meantAddress, letterOf?_decimal, wordOfToken?_decimal short]
        apply congrArg some
        dsimp only
        omega
      · have plain : String.ofList (upper (upper first)) ∉ OperandKind.address.mnemonics := by
          rw [Text.upper_upper]
          exact address
        rw [written?, if_neg address] at short ⊢
        rw [Option.all_some] at short
        rw [Option.map_some, Option.toList_some, written?, if_neg plain, meantValue,
          letterOf?_decimal, wordOfToken?_decimal short, Option.getD_some]

theorem writtenText_words_writtenText (enough : (length : Int) + 3 ≤ memorySize)
    (visible : Visible first) (nonempty : first ≠ [])
    (short : writable bindings length memorySize (first :: rest) = true) :
    writtenText others length memorySize
        (words (writtenText bindings length memorySize (first :: rest)).toList) =
      writtenText bindings length memorySize (first :: rest) := by
  have again := written?_words_writtenText others enough visible nonempty short
  rw [words_writtenText bindings length memorySize rest visible nonempty] at again ⊢
  unfold writtenText
  rw [again]
  cases written? bindings length memorySize (first :: rest) with
  | none => exact congrArg String.ofList (Text.upper_upper first)
  | some number =>
      dsimp only
      rw [Text.upper_upper]

theorem writable_words_writtenText (enough : (length : Int) + 3 ≤ memorySize)
    (visible : Visible first) (nonempty : first ≠ [])
    (short : writable bindings length memorySize (first :: rest) = true) :
    writable others length memorySize
      (words (writtenText bindings length memorySize (first :: rest)).toList) = true := by
  rw [writable, written?_words_writtenText others enough visible nonempty short]
  exact short

end Line

/-! ### Images of texts -/

/-- The image with these texts in the cells of its program lines. -/
def imageOfTexts (texts : List String) (bindings : Bindings) (memorySize : Int) : List Cell :=
  texts.map Cell.text ++ (Variable.all.map fun letter => .int (boundValue bindings letter)) ++
    List.replicate (memorySize.toNat - (texts.length + 3)) .empty

section Texts

variable (texts : List String) (bindings : Bindings) (memorySize : Int)

theorem take_imageOfTexts :
    (imageOfTexts texts bindings memorySize).take texts.length = texts.map Cell.text := by
  rw [imageOfTexts, List.append_assoc]
  exact List.take_left' (List.length_map _)

theorem getElem?_imageOfTexts_slot (letter : Variable) :
    (imageOfTexts texts bindings memorySize)[texts.length + letter.index]? =
      some (.int (boundValue bindings letter)) := by
  rw [imageOfTexts, List.append_assoc,
    List.getElem?_append_right (by rw [List.length_map]; omega), List.length_map,
    Nat.add_sub_cancel_left]
  cases letter <;> rfl

theorem drop_imageOfTexts :
    (imageOfTexts texts bindings memorySize).drop (texts.length + 3) =
      List.replicate (memorySize.toNat - (texts.length + 3)) .empty := by
  apply List.drop_left'
  rw [List.length_append, List.length_map]
  rfl

end Texts

/-- The texts in the cells of the program lines. -/
def writtenTexts (source : String) (bindings : Bindings) (memorySize : Int) : List String :=
  (programLines source.toList).map fun line =>
    writtenText bindings (programLines source.toList).length memorySize (words line)

theorem length_writtenTexts (source : String) (bindings : Bindings) (memorySize : Int) :
    (writtenTexts source bindings memorySize).length = (programLines source.toList).length :=
  List.length_map _

theorem imageCells_eq (source : String) (bindings : Bindings) (memorySize : Int) :
    imageCells (programLines source.toList) bindings memorySize =
      imageOfTexts (writtenTexts source bindings memorySize) bindings memorySize := by
  rw [imageOfTexts, length_writtenTexts, writtenTexts, List.map_map]
  rfl

/-- One written text to a line is a source with these texts as its program lines. -/
theorem programLines_writtenTexts (source : String) (bindings : Bindings) (memorySize : Int) :
    programLines ("\n".intercalate (writtenTexts source bindings memorySize)).toList =
      (writtenTexts source bindings memorySize).map String.toList := by
  rw [String.toList_intercalate]
  apply programLines_intercalate
  intro line among
  obtain ⟨text, written, rfl⟩ := List.mem_map.mp among
  obtain ⟨origin, listed, rfl⟩ := List.mem_map.mp written
  obtain ⟨first, rest, parted⟩ := List.exists_cons_of_ne_nil (words_programLine_ne_nil listed)
  obtain ⟨visible, nonempty⟩ := Text.visible_of_words parted
  obtain ⟨margin, behind, shape, _⟩ := Text.exists_append_of_words parted
  have uncommented : beforeComment first = first := by
    apply beforeComment_of_infix _ (isProgramLine_of_mem listed).uncommented
    exact ⟨margin, behind, by rw [shape, List.append_assoc]⟩
  rw [parted]
  exact isProgramLine_writtenText bindings _ memorySize visible nonempty uncommented rest

section Image

variable {source : String} {bindings : Bindings} {memorySize : Int} {image : List Cell}

/-- Every written text is written again as it is. -/
theorem written_again [Provision] (made : assemble source bindings memorySize = .ok image)
    (others : Bindings) {text : String} (among : text ∈ writtenTexts source bindings memorySize) :
    writable others (programLines source.toList).length memorySize (words text.toList) = true ∧
      writtenText others (programLines source.toList).length memorySize (words text.toList) =
        text := by
  obtain ⟨enough, short, _⟩ := imageCells_of_assemble made
  obtain ⟨line, listed, rfl⟩ := List.mem_map.mp among
  obtain ⟨first, rest, parted⟩ := List.exists_cons_of_ne_nil (words_programLine_ne_nil listed)
  obtain ⟨visible, nonempty⟩ := Text.visible_of_words parted
  have fitting := short line listed
  rw [parted] at fitting ⊢
  exact ⟨writable_words_writtenText others enough visible nonempty fitting,
    writtenText_words_writtenText others enough visible nonempty fitting⟩

theorem assemble_writtenTexts [Provision] (made : assemble source bindings memorySize = .ok image)
    (others : Bindings) :
    assemble ("\n".intercalate (writtenTexts source bindings memorySize)) others memorySize =
      .ok (imageOfTexts (writtenTexts source bindings memorySize) others memorySize) := by
  obtain ⟨enough, _, _⟩ := imageCells_of_assemble made
  have lengths : ((writtenTexts source bindings memorySize).map String.toList).length =
      (programLines source.toList).length := by
    rw [List.length_map, length_writtenTexts]
  rw [assemble, programLines_writtenTexts,
    imageOfLines_of_fits others (by rw [lengths]; exact enough), sizeFault?_of_assemble made]
  dsimp only
  rw [lengths, if_pos, imageCells, lengths, imageOfTexts, length_writtenTexts, List.map_map]
  · congr 3
    exact List.map_congr_left fun text among =>
      congrArg Cell.text (written_again made others among).2
  · rw [List.all_map, List.all_eq_true]
    exact fun text among => (written_again made others among).1

end Image

/-- Assembled program text is a fixed point. The cells of the program lines hold texts; joined by
line feeds they are assembled for the same memory with all bindings, to an image with the same
program and the values of the new bindings in the slots. With the old bindings it is the same
image. -/
theorem assembled_text_is_a_fixed_point [Provision] (source : String) (bindings : Bindings)
    (memorySize : Int) (image : List Cell)
    (made : assemble source bindings memorySize = .ok image) :
    let length := (programLines source.toList).length
    ∃ texts : List String, texts.length = length ∧ image.take length = texts.map Cell.text ∧
      let printed := "\n".intercalate texts
      programLines printed.toList = texts.map String.toList ∧
      assemble printed bindings memorySize = .ok image ∧
      ∀ others : Bindings, ∃ again, assemble printed others memorySize = .ok again ∧
        again.take length = image.take length ∧
        (∀ letter : Variable,
          again[length + letter.index]? = some (.int (boundValue others letter))) ∧
        again.drop (length + 3) = image.drop (length + 3) := by
  intro length
  obtain ⟨_, _, cells⟩ := imageCells_of_assemble made
  rw [imageCells_eq] at cells
  have count : (writtenTexts source bindings memorySize).length = length :=
    length_writtenTexts source bindings memorySize
  refine ⟨writtenTexts source bindings memorySize, count, ?_,
    programLines_writtenTexts source bindings memorySize, ?_, ?_⟩
  · rw [cells, ← count]
    exact take_imageOfTexts _ bindings memorySize
  · rw [assemble_writtenTexts made bindings, ← cells]
  · intro others
    refine ⟨_, assemble_writtenTexts made others, ?_, ?_, ?_⟩
    · rw [cells, ← count, take_imageOfTexts, take_imageOfTexts]
    · rw [← count]
      exact getElem?_imageOfTexts_slot _ others memorySize
    · rw [cells, ← count, drop_imageOfTexts, drop_imageOfTexts]

section

open scoped Provision

/-- A program with a comment, a word that is no mnemonic and holds slashes, and an address past the
end; it is assembled again with another variable bound. -/
theorem printed_program_is_assembled_again :
    let source := "load x // 16\r\n  foo/ / 3\njmp 99"
    let bindings : Bindings := [("x", .int (-4))]
    let printed := "LOAD -4\nFOO/ 0\nJMP 7"
    ∃ image, assemble source bindings 8 = .ok image ∧ assemble printed bindings 8 = .ok image ∧
      ∃ again, assemble printed [("Y", .int 9)] 8 = .ok again ∧ again.take 3 = image.take 3 ∧
        again[3]? = some (.int 0) ∧ again[4]? = some (.int 9) := by
  intro source bindings printed
  let texts := ["LOAD -4", "FOO/ 0", "JMP 7"]
  let image := imageOfTexts texts bindings 8
  have made : assemble source bindings 8 = .ok image := eq_ok_of_toOption (by decide +kernel)
  have length : (programLines source.toList).length = 3 := by decide +kernel
  have same := assembled_text_is_a_fixed_point source bindings 8 image made
  rw [length] at same
  obtain ⟨others, _, written, _, fixed, anew⟩ := same
  have listed : others = texts :=
    (List.map_inj_right fun _ _ alike => Cell.text.inj alike).mp written.symm
  subst listed
  obtain ⟨again, assembled, kept, slots, _⟩ := anew [("Y", .int 9)]
  exact ⟨image, made, fixed, again, assembled, kept, slots .x, slots .y⟩

end

end Assembly

end Accumulator
