import Accumulator.Cell
import Accumulator.Proofs.Text.LetterCase

set_option autoImplicit false

/-!
How literals open. A literal starts with a sign, a digit or a point, or it spells one of three
names, so a text whose first word does neither denotes no number, whatever follows that word.
-/

namespace Accumulator

namespace Numeral

open Text (decimalDigit? trim trimWith upper upperCharacter words)

/-- The characters that a literal without a name can start with. -/
def opensLiteral (character : Char) : Bool :=
  character == '+' || character == '-' || character == '.' || (decimalDigit? character).isSome

/-- The names among the literals. -/
def names : List String :=
  ["nan", "inf", "infinity"]

section Closed

variable {first : Char} {rest : List Char}

private theorem ne_of_not_opensLiteral (closed : opensLiteral first = false) :
    first ≠ '+' ∧ first ≠ '-' ∧ first ≠ '.' ∧ decimalDigit? first = none := by
  simpa [opensLiteral, and_assoc] using closed

private theorem digitBelow?_of_closed (closed : opensLiteral first = false) :
    digitBelow? 10 first = none := by
  obtain ⟨_, _, _, noDigit⟩ := ne_of_not_opensLiteral closed
  have letter (value : Nat) : (some (value + 10)).filter (· < 10) = none := by
    rw [Option.filter_some, if_neg (by simp)]
  unfold digitBelow? digitValue?
  rw [noDigit]
  dsimp only
  split
  · exact letter _
  · split
    · exact letter _
    · rfl

private theorem digitRun?_of_closed (closed : opensLiteral first = false) :
    digitRun? 10 (first :: rest) = none := by
  have noDigit := digitBelow?_of_closed closed
  unfold digitRun?
  split <;> simp_all

private theorem decimalMagnitude?_of_closed (closed : opensLiteral first = false) :
    decimalMagnitude? (first :: rest) = none := by
  rw [decimalMagnitude?, digitRun?_of_closed closed]
  rfl

private theorem markedMagnitude?_of_closed (closed : opensLiteral first = false) :
    markedMagnitude? (first :: rest) = none := by
  obtain ⟨_, _, _, noDigit⟩ := ne_of_not_opensLiteral closed
  cases rest with
  | nil => rfl
  | cons marker others => rw [markedMagnitude?, noDigit, if_neg nofun]

private theorem fraction?_of_closed (closed : opensLiteral first = false) :
    Scientific.fraction? (first :: rest) = none := by
  obtain ⟨_, _, noPoint, _⟩ := ne_of_not_opensLiteral closed
  have point : (first == '.') = false := beq_false_of_ne noPoint
  unfold Scientific.fraction? Scientific.splitAtFirst
  rw [point, if_neg Bool.false_ne_true]
  rcases Scientific.splitAtFirst (· == '.') rest with ⟨whole, _ | part⟩
  · dsimp only
    rw [digitRun?_of_closed closed]
    rfl
  · change (Scientific.optionalDigits? (first :: whole)).bind _ = none
    rw [Scientific.optionalDigits?, digitRun?_of_closed closed]
    · rfl
    · exact List.cons_ne_nil first whole

private theorem fraction?_of_split_closed (closed : opensLiteral first = false)
    (isMark : Char → Bool) :
    Scientific.fraction? (Scientific.splitAtFirst isMark (first :: rest)).1 = none := by
  unfold Scientific.splitAtFirst
  split
  · rfl
  · exact fraction?_of_closed closed

private theorem unsigned?_of_closed (closed : opensLiteral first = false)
    (nameless : ∀ name ∈ names, Scientific.spells name (first :: rest) = false) :
    Scientific.unsigned? false (first :: rest) = none := by
  have undefined := nameless "nan" (by decide)
  have short := nameless "inf" (by decide)
  have long := nameless "infinity" (by decide)
  unfold Scientific.unsigned?
  rw [undefined, short, long]
  dsimp only [Bool.or_self]
  rw [fraction?_of_split_closed closed]
  rfl

end Closed

/-! ### Upper case -/

/-- What can start a literal without a name has no case. -/
theorem upperCharacter_of_opensLiteral {character : Char} (opens : opensLiteral character = true) :
    upperCharacter character = [character] := by
  simp only [opensLiteral, Bool.or_eq_true, beq_iff_eq] at opens
  rcases opens with ((rfl | rfl) | rfl) | digit
  · decide
  · decide
  · decide
  · obtain ⟨value, read⟩ := Option.isSome_iff_exists.mp digit
    exact Text.upperCharacter_of_decimalDigit read

private theorem upper_of_spells {name : String} {text : List Char}
    (spelt : Scientific.spells name text = true) : upper text = upper name.toList := by
  rw [← Text.upper_map_toLower text, eq_of_beq spelt]

/-- A text denotes no number if its first word starts like no literal and is no beginning of a name,
in either case. -/
theorem wordOfToken?_eq_none {text first : List Char} {others : List (List Char)}
    (parted : words text = first :: others)
    (closed : ∀ character ∈ first.head?, opensLiteral character = false)
    (nameless : ∀ name ∈ names, ¬upper first <+: upper name.toList) :
    wordOfToken? text = none := by
  obtain ⟨visible, nonempty⟩ := Text.visible_of_words parted
  have inside : ∀ character ∈ first, isMargin character = false := by
    intro character among
    rw [isMargin, visible character among]
    rfl
  obtain ⟨behind, trimmed⟩ := Text.exists_trim_of_words parted
  obtain ⟨tail, body⟩ :=
    @Text.exists_trimWith_append isMargin [] first nofun nonempty inside behind
  have unspelt : ∀ name ∈ names, Scientific.spells name (first ++ tail) = false := by
    intro name listed
    apply Bool.eq_false_iff.mpr
    intro spelt
    have capitals := upper_of_spells spelt
    rw [Text.upper_append] at capitals
    exact nameless name listed ⟨upper tail, capitals⟩
  obtain ⟨character, rest, rfl⟩ := List.exists_cons_of_ne_nil nonempty
  have start : opensLiteral character = false := closed character rfl
  obtain ⟨plus, minus, _, _⟩ := ne_of_not_opensLiteral start
  have unread : Scientific.unsigned? false (character :: (rest ++ tail)) = none :=
    unsigned?_of_closed start unspelt
  -- All three readers see the same text between its margins, and none of them takes it.
  rw [List.nil_append] at body
  unfold wordOfToken? decimalLiteral? markedLiteral? signed? Binary64.ofText? realLiteral?
  dsimp only
  rw [trimmed, body, List.cons_append, splitSign_of_ne plus minus]
  dsimp only
  rw [decimalMagnitude?_of_closed start, markedMagnitude?_of_closed start, unread]
  rfl

end Numeral

end Accumulator
