import Accumulator.Proofs.Text.Capital

set_option autoImplicit false

/-!
The case of ASCII letters. A question about characters that has one answer for a capital letter and
its small letter has one answer for every character and its lower case, since no other character has
a lower case of its own here. Blanks and capitals are such questions.
-/

namespace Accumulator.Text

/-- Two texts that are the same but for the case of ASCII letters. -/
def SameLetters (first second : List Char) : Prop :=
  first.map Char.toLower = second.map Char.toLower

instance (first second : List Char) : Decidable (SameLetters first second) :=
  inferInstanceAs (Decidable (first.map Char.toLower = second.map Char.toLower))

/-! ### One character -/

def capitalLetter (place : Nat) : Char :=
  Char.ofNat ('A'.toNat + place)

theorem toLower_eq_self {character : Char} (other : ∀ place < 26, character ≠ capitalLetter place) :
    character.toLower = character := by
  unfold Char.toLower
  split
  · next capital =>
      have bounds : 'A'.toNat ≤ character.toNat ∧ character.toNat ≤ 'Z'.toNat := capital
      obtain ⟨place, shape⟩ := Nat.exists_eq_add_of_le bounds.1
      have same : character = capitalLetter place := by
        rw [capitalLetter, ← shape, Char.ofNat_toNat]
      have last : 'Z'.toNat = 'A'.toNat + 25 := rfl
      exact absurd same (other place (by omega))
  · rfl

/-- What does not tell a capital letter from its small letter does not tell a character from its
lower case. -/
theorem apply_toLower {Answer : Type} {ask : Char → Answer}
    (letters : ∀ place < 26, ask (capitalLetter place).toLower = ask (capitalLetter place))
    (character : Char) : ask character.toLower = ask character := by
  by_cases capital : ∃ place < 26, character = capitalLetter place
  · obtain ⟨place, few, rfl⟩ := capital
    exact letters place few
  · rw [toLower_eq_self fun place few same => capital ⟨place, few, same⟩]

theorem toLower_toLower (character : Char) : character.toLower.toLower = character.toLower :=
  apply_toLower (by decide) character

/-- A mark that is no letter stands in the lower case of a text where it stands in the text. -/
theorem toLower_eq_iff {mark : Char}
    (letterless : ∀ place < 26,
      ((capitalLetter place).toLower == mark) = (capitalLetter place == mark))
    (character : Char) : character.toLower = mark ↔ character = mark := by
  have same := @apply_toLower Bool (· == mark) letterless character
  rw [← beq_iff_eq, same, beq_iff_eq]

theorem isBlank_toLower (character : Char) : isBlank character.toLower = isBlank character :=
  apply_toLower (by decide) character

theorem upperCharacter_toLower (character : Char) :
    upperCharacter character.toLower = upperCharacter character :=
  apply_toLower (by decide) character

/-! ### Texts -/

theorem trimWith_map_toLower {removable : Char → Bool}
    (caseless : ∀ character, removable (Char.toLower character) = removable character)
    (text : List Char) :
    trimWith removable (text.map Char.toLower) = (trimWith removable text).map Char.toLower := by
  have same : removable ∘ Char.toLower = removable := funext caseless
  unfold trimWith
  rw [List.dropWhile_map, same, ← List.map_reverse, List.dropWhile_map, same, ← List.map_reverse]

theorem upper_map_toLower (text : List Char) : upper (text.map Char.toLower) = upper text := by
  unfold upper
  rw [List.flatMap_map]
  exact congrArg text.flatMap (funext upperCharacter_toLower)

theorem SameLetters.upper {first second : List Char} (same : SameLetters first second) :
    upper first = upper second := by
  rw [← upper_map_toLower first, same, upper_map_toLower]

end Accumulator.Text
