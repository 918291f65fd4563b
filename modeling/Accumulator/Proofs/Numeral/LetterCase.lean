import Accumulator.Cell
import Accumulator.Proofs.Text.LetterCase

set_option autoImplicit false

/-!
Literals without regard to case. Letters occur in literals as digits, as the mark of a base, before
an exponent and in names, and each reader takes them in either case. So a token denotes what its
lower case denotes.
-/

namespace Accumulator

namespace Numeral

open Text (SameLetters apply_toLower toLower_eq_iff toLower_toLower trimWith trimWith_map_toLower)

/-! ### Characters -/

theorem isMargin_toLower (character : Char) : isMargin character.toLower = isMargin character :=
  apply_toLower (by decide) character

theorem digitBelow?_toLower (base : Nat) (character : Char) :
    digitBelow? base character.toLower = digitBelow? base character :=
  congrArg (Option.filter (· < base)) (apply_toLower (by decide) character)

theorem decimalDigit?_toLower (character : Char) :
    Text.decimalDigit? character.toLower = Text.decimalDigit? character :=
  apply_toLower (by decide) character

theorem markedBase?_toLower (character : Char) :
    markedBase? character.toLower = markedBase? character :=
  apply_toLower (by decide) character

/-! ### Digits, signs and marks -/

theorem digitRun?_map_toLower (base : Nat) (text : List Char) :
    digitRun? base (text.map Char.toLower) = digitRun? base text := by
  induction text using digitRun?.induct with
  | case1 => rfl
  | case2 character =>
      rw [List.map_singleton, digitRun?, digitRun?, digitBelow?_toLower]
  | case3 character rest previous =>
      change digitRun? base (character.toLower :: '_' :: rest.map Char.toLower) = _
      rw [digitRun?, digitRun?, digitBelow?_toLower, previous]
  | case4 character rest alone separated previous =>
      rw [List.map_cons, digitRun?.eq_4 base character rest alone separated, digitRun?.eq_4,
        digitBelow?_toLower, previous]
      · exact mt List.map_eq_nil_iff.mp alone
      · intro behind shape
        obtain ⟨second, others, rfl, lower, _⟩ := List.map_eq_cons_iff.mp shape
        exact separated others (by rw [(toLower_eq_iff (by decide) second).mp lower])

theorem splitSign_map_toLower (text : List Char) :
    splitSign (text.map Char.toLower) =
      ((splitSign text).1, (splitSign text).2.map Char.toLower) := by
  cases text with
  | nil => rfl
  | cons first rest =>
      by_cases plus : first = '+'
      · subst plus
        rfl
      · by_cases minus : first = '-'
        · subst minus
          rfl
        · rw [List.map_cons, splitSign_of_ne plus minus, splitSign_of_ne]
          · rfl
          · exact mt (toLower_eq_iff (by decide) first).mp plus
          · exact mt (toLower_eq_iff (by decide) first).mp minus

theorem dropUnderscore_map_toLower (text : List Char) :
    dropUnderscore (text.map Char.toLower) = (dropUnderscore text).map Char.toLower := by
  cases text with
  | nil => rfl
  | cons first rest =>
      by_cases mark : first = '_'
      · subst mark
        rfl
      · have kept {other : Char} (differs : other ≠ '_') (behind : List Char) :
            dropUnderscore (other :: behind) = other :: behind := by
          rw [dropUnderscore]
          exact fun _ same => differs (List.cons.inj same).1
        rw [List.map_cons, kept mark, kept (mt (toLower_eq_iff (by decide) first).mp mark)]
        rfl

theorem decimalMagnitude?_map_toLower (text : List Char) :
    decimalMagnitude? (text.map Char.toLower) = decimalMagnitude? text := by
  rw [decimalMagnitude?, digitRun?_map_toLower, decimalMagnitude?]

theorem markedMagnitude?_map_toLower (text : List Char) :
    markedMagnitude? (text.map Char.toLower) = markedMagnitude? text := by
  rcases text with _ | ⟨leading, _ | ⟨marker, rest⟩⟩
  · rfl
  · rfl
  · rw [List.map_cons, List.map_cons, markedMagnitude?, markedMagnitude?, decimalDigit?_toLower,
      markedBase?_toLower, dropUnderscore_map_toLower]
    simp only [digitRun?_map_toLower]

/-! ### Real numbers -/

namespace Scientific

theorem splitAtFirst_map_toLower {isMark : Char → Bool}
    (caseless : ∀ character, isMark (Char.toLower character) = isMark character)
    (text : List Char) :
    splitAtFirst isMark (text.map Char.toLower) =
      ((splitAtFirst isMark text).1.map Char.toLower,
        (splitAtFirst isMark text).2.map (·.map Char.toLower)) := by
  induction text with
  | nil => rfl
  | cons first rest previous =>
      rw [List.map_cons, splitAtFirst, splitAtFirst, caseless, previous]
      split <;> rfl

theorem optionalDigits?_map_toLower (text : List Char) :
    optionalDigits? (text.map Char.toLower) = optionalDigits? text := by
  cases text with
  | nil => rfl
  | cons first rest => exact digitRun?_map_toLower 10 (first :: rest)

theorem fraction?_map_toLower (text : List Char) :
    fraction? (text.map Char.toLower) = fraction? text := by
  have point (character : Char) : (character.toLower == '.') = (character == '.') :=
    @apply_toLower Bool (· == '.') (by decide) character
  unfold fraction?
  rw [splitAtFirst_map_toLower point]
  rcases splitAtFirst (· == '.') text with ⟨whole, _ | part⟩
  · exact congrArg (Option.map (·, 0)) (digitRun?_map_toLower 10 whole)
  · simp only [Option.map_some, List.isEmpty_map, optionalDigits?_map_toLower]

theorem exponent?_map_toLower (tail : Option (List Char)) :
    exponent? (tail.map (·.map Char.toLower)) = exponent? tail := by
  cases tail with
  | none => rfl
  | some text =>
      rw [Option.map_some, exponent?, exponent?, splitSign_map_toLower]
      simp only [digitRun?_map_toLower]

theorem spells_map_toLower (name : String) (text : List Char) :
    spells name (text.map Char.toLower) = spells name text := by
  have again : Char.toLower ∘ Char.toLower = Char.toLower := funext toLower_toLower
  rw [spells, List.map_map, again, spells]

theorem unsigned?_map_toLower (negative : Bool) (text : List Char) :
    unsigned? negative (text.map Char.toLower) = unsigned? negative text := by
  have power (character : Char) : (character.toLower == 'e' || character.toLower == 'E') =
      (character == 'e' || character == 'E') :=
    @apply_toLower Bool (fun mark => mark == 'e' || mark == 'E') (by decide) character
  unfold unsigned?
  rw [spells_map_toLower, spells_map_toLower, spells_map_toLower, splitAtFirst_map_toLower power]
  simp only [fraction?_map_toLower, exponent?_map_toLower]

end Scientific

/-! ### Literals -/

theorem signed?_map_toLower {magnitude? : List Char → Option Nat}
    (caseless : ∀ body, magnitude? (List.map Char.toLower body) = magnitude? body)
    (text : List Char) : signed? magnitude? (text.map Char.toLower) = signed? magnitude? text := by
  unfold signed?
  rw [trimWith_map_toLower isMargin_toLower, splitSign_map_toLower]
  simp only [caseless]

theorem realLiteral?_map_toLower (text : List Char) :
    realLiteral? (text.map Char.toLower) = realLiteral? text := by
  unfold realLiteral?
  rw [trimWith_map_toLower isMargin_toLower, splitSign_map_toLower]
  exact Scientific.unsigned?_map_toLower _ _

end Numeral

/-- A token denotes the integer that its lower case denotes. -/
theorem wordOfToken?_map_toLower (token : List Char) :
    wordOfToken? (token.map Char.toLower) = wordOfToken? token := by
  unfold wordOfToken? Numeral.decimalLiteral? Numeral.markedLiteral? Binary64.ofText? Text.trim
  rw [Text.trimWith_map_toLower Text.isBlank_toLower]
  dsimp only
  rw [Numeral.signed?_map_toLower Numeral.decimalMagnitude?_map_toLower,
    Numeral.signed?_map_toLower Numeral.markedMagnitude?_map_toLower,
    Numeral.realLiteral?_map_toLower]

theorem wordOfToken?_of_sameLetters {first second : List Char}
    (same : Text.SameLetters first second) : wordOfToken? first = wordOfToken? second := by
  rw [← wordOfToken?_map_toLower first, same, wordOfToken?_map_toLower]

end Accumulator
