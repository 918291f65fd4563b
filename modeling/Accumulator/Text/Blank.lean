import Accumulator.Text.CodePoint

set_option autoImplicit false

/-!
Blank characters: the separators of words. Trimming removes them at both ends of a text, and
`words` keeps what stands between them, so no word is empty and none holds a blank.
-/

namespace Accumulator.Text

/-- The white space of Unicode together with the four information separators. -/
def blankRanges : List CodeRange :=
  [⟨0x09, 0x0D⟩, ⟨0x1C, 0x20⟩, ⟨0x85, 0x85⟩, ⟨0xA0, 0xA0⟩, ⟨0x1680, 0x1680⟩, ⟨0x2000, 0x200A⟩,
    ⟨0x2028, 0x2029⟩, ⟨0x202F, 0x202F⟩, ⟨0x205F, 0x205F⟩, ⟨0x3000, 0x3000⟩]

def isBlank (character : Char) : Bool :=
  inRanges blankRanges character

/-- Removes the characters of a class from both ends of a text. -/
def trimWith (removable : Char → Bool) (text : List Char) : List Char :=
  ((text.dropWhile removable).reverse.dropWhile removable).reverse

def trim (text : List Char) : List Char :=
  trimWith isBlank text

/-- Cuts a text at every blank; two neighbouring blanks have an empty piece between them. -/
def pieces : List Char → List (List Char)
  | [] => [[]]
  | character :: rest =>
    if isBlank character then [] :: pieces rest
    else (pieces rest).modifyHead (character :: ·)

def words (text : List Char) : List (List Char) :=
  (pieces text).filter (!·.isEmpty)

theorem pieces_ne_nil (text : List Char) : pieces text ≠ [] := by
  induction text with
  | nil => simp [pieces]
  | cons character rest previous =>
      by_cases blank : isBlank character
      · simp [pieces, blank]
      · simpa [pieces, blank] using previous

theorem visible_of_mem_piece
    {text piece : List Char} {character : Char}
    (among : piece ∈ pieces text) (inside : character ∈ piece) :
    isBlank character = false := by
  induction text generalizing piece character with
  | nil => simp_all [pieces]
  | cons first rest previous =>
      by_cases blank : isBlank first
      · rw [pieces, if_pos blank, List.mem_cons] at among
        rcases among with rfl | among
        · simp at inside
        · exact previous among inside
      · obtain ⟨head, others, shape⟩ := List.exists_cons_of_ne_nil (pieces_ne_nil rest)
        rw [pieces, if_neg blank, shape, List.modifyHead_cons, List.mem_cons] at among
        rcases among with rfl | among
        · rcases List.mem_cons.1 inside with rfl | inside
          · simpa using blank
          · exact previous (shape ▸ List.mem_cons_self) inside
        · exact previous (shape ▸ List.mem_cons_of_mem _ among) inside

theorem word_ne_nil {text word : List Char} (among : word ∈ words text) : word ≠ [] := by
  have kept := (List.mem_filter.1 among).2
  intro empty
  simp [empty] at kept

theorem visible_of_mem_word
    {text word : List Char} {character : Char}
    (among : word ∈ words text) (inside : character ∈ word) :
    isBlank character = false :=
  visible_of_mem_piece (List.mem_filter.1 among).1 inside

end Accumulator.Text
