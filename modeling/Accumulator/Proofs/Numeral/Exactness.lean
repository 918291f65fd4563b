import Accumulator.Proofs.Numeral.Reading

set_option autoImplicit false

/-!
Integer literals denote the integers that they spell: decimal ones as far as the digit limit, marked
ones of any length. Beyond the limit a plain numeral denotes nothing at all, and no rounded number
takes the place of the integer.
-/

namespace Accumulator

open Numeral

/-- A plain numeral beyond the limit passes all three readers by. -/
theorem wordOfToken?_of_long {value : Int}
    (long : digitLimit < (Nat.toDigits 10 value.natAbs).length) :
    wordOfToken? (decimal value) = none := by
  -- The length of the run goes with the run, since the first reader looks at it.
  let spells (text : List Char) (magnitude : Nat) : Prop :=
    DigitRun 10 text (Nat.toDigits 10 magnitude).length magnitude ∧
      digitLimit < (Nat.toDigits 10 magnitude).length
  have run := digitRun_toDigits (show 1 < 10 by decide) (by decide) value.natAbs
  have spelled : Padded (Signed spells) (decimal value) value :=
    padded_of_core (signed_natAbs ⟨run, long⟩)
  obtain ⟨negative, body, magnitude, ⟨run, beyond⟩, _, read⟩ :=
    wordOfToken?_of_spelling spelled fun _ _ ⟨run, _⟩ => run.bare
  rw [read, run.decimalMagnitude?, if_neg (Nat.not_le_of_lt beyond), run.markedMagnitude?,
    Scientific.unsigned?_of_run run, Option.map_some, ofScientific_of_long beyond]
  rfl

theorem length_toDigits_le_limit_iff (value : Int) :
    (Nat.toDigits 10 value.natAbs).length ≤ digitLimit ↔ value.natAbs < decimalBound := by
  rw [← hasDecimal_iff, hasDecimal, decide_eq_true_eq]

theorem word_text (token : String) :
    (Cell.text token).word = (wordOfToken? token.toList).getD 0 :=
  rfl

/-- Integer literals are exact. Every decimal spelling of an integer within the digit limit and
every marked spelling of any length is read as that integer; the plain numeral of an integer beyond
the limit is read as none. So the plain numeral and a marked spelling agree for the integers within
the limit only. -/
theorem integer_literals_are_exact (value : Int) :
    (∀ text : String, DecimalSpelling text.toList value →
      wordOfToken? text.toList = some value ∧ (Cell.text text).word = value) ∧
    (∀ text : String, MarkedSpelling text.toList value →
      wordOfToken? text.toList = some value ∧ (Cell.text text).word = value) ∧
    (digitLimit < (Nat.toDigits 10 value.natAbs).length →
      wordOfToken? (Numeral.text value).toList = none ∧
        (Cell.text (Numeral.text value)).word = 0) ∧
    (∃ text : String, MarkedSpelling text.toList value) ∧
    ∀ text : String, MarkedSpelling text.toList value →
      (wordOfToken? (Numeral.text value).toList = wordOfToken? text.toList ↔
          value.natAbs < decimalBound) ∧
        ((Cell.text (Numeral.text value)).word = (Cell.text text).word ↔
          value.natAbs < decimalBound) := by
  have marked (text : String) (spelled : MarkedSpelling text.toList value) :
      wordOfToken? text.toList = some value ∧ (Cell.text text).word = value := by
    have read := wordOfToken?_of_markedSpelling spelled
    exact ⟨read, by rw [word_text, read, Option.getD_some]⟩
  have beyond (long : digitLimit < (Nat.toDigits 10 value.natAbs).length) :
      wordOfToken? (Numeral.text value).toList = none ∧
        (Cell.text (Numeral.text value)).word = 0 := by
    have read := wordOfToken?_of_long long
    rw [word_text, toList_text, read]
    exact ⟨rfl, rfl⟩
  refine ⟨?_, marked, beyond, ?_, ?_⟩
  · intro text spelled
    have read := wordOfToken?_of_decimalSpelling spelled
    exact ⟨read, by rw [word_text, read, Option.getD_some]⟩
  · have listed : ('x', 16) ∈ baseMarks := List.mem_cons_self
    exact ⟨String.ofList _, by
      rw [String.toList_ofList]
      exact markedSpelling_toDigits listed value⟩
  · intro text spelled
    obtain ⟨read, worth⟩ := marked text spelled
    rw [read, worth, ← length_toDigits_le_limit_iff]
    by_cases short : (Nat.toDigits 10 value.natAbs).length ≤ digitLimit
    · have same := wordOfToken?_of_decimalSpelling (decimalSpelling_decimal short)
      rw [word_text, toList_text, same]
      exact ⟨⟨fun _ => short, fun _ => rfl⟩, ⟨fun _ => short, fun _ => rfl⟩⟩
    · obtain ⟨unread, zero⟩ := beyond (Nat.lt_of_not_le short)
      have positive : value ≠ 0 := by
        rintro rfl
        exact short (by decide)
      rw [unread, zero]
      exact ⟨⟨nofun, fun claimed => absurd claimed short⟩,
        ⟨fun same => absurd same.symm positive, fun claimed => absurd claimed short⟩⟩

/-- A decimal spelling with zeros in front, digits of another script and a wide blank, a marked one
with an underscore behind the mark, and the first integer beyond the limit. -/
theorem spellings_on_both_sides_of_the_limit :
    let plain := "\u2003-0_0\u0967\u096F0"
    let marked := "\t-0X_b_E\x1f"
    (DecimalSpelling plain.toList (-190) ∧ wordOfToken? plain.toList = some (-190)) ∧
      (MarkedSpelling marked.toList (-190) ∧ (Cell.text marked).word = -190 ∧
        (Cell.text (Numeral.text (-190))).word = (Cell.text marked).word) ∧
      digitLimit < (Nat.toDigits 10 (decimalBound : Int).natAbs).length ∧
      ∃ text : String, MarkedSpelling text.toList decimalBound ∧
        (Cell.text text).word = decimalBound ∧
        (Cell.text (Numeral.text decimalBound)).word = 0 := by
  intro plain marked
  have decimal : DecimalSpelling plain.toList (-190) := by
    have zero : DigitRun 10 ['0'] 1 0 := .last (.decimal rfl) (by decide)
    have ninety := DigitRun.next (show DigitOf '\u096F' 9 from .decimal rfl) (by decide) zero
    have whole := DigitRun.next (show DigitOf '\u0967' 1 from .decimal rfl) (by decide) ninety
    have padded := DigitRun.next (show DigitOf '0' 0 from .decimal rfl) (by decide) whole
    have run := DigitRun.separated (show DigitOf '0' 0 from .decimal rfl) (by decide) padded
    have shape : plain.toList =
        ['\u2003'] ++ ('-' :: ['0', '_', '0', '\u0967', '\u096F', '0'] ++ []) := by decide +kernel
    rw [shape]
    exact .blanks (List.forall_mem_singleton.mpr (by decide)) nofun (.minus (.short run (by decide)))
  have hexadecimal : MarkedSpelling marked.toList (-190) := by
    have last : DigitRun 16 ['E'] 1 14 := .last (@DigitOf.capital 4 (by decide)) (by decide)
    have run := DigitRun.separated (@DigitOf.small 1 (by decide)) (by decide) last
    have signed := Signed.minus (MarkedRun.separated (show ('X', 16) ∈ baseMarks by decide) run)
    have shape : marked.toList = ['\t'] ++ ("-0X_b_E".toList ++ ['\x1f']) := by decide +kernel
    rw [shape]
    exact .blanks (List.forall_mem_singleton.mpr (by decide))
      (List.forall_mem_singleton.mpr (by decide)) signed
  have beyond : digitLimit < (Nat.toDigits 10 (decimalBound : Int).natAbs).length := by
    refine Nat.lt_of_not_le fun short => ?_
    have below := (length_toDigits_le_limit_iff decimalBound).mp short
    rw [Int.natAbs_natCast] at below
    exact Nat.lt_irrefl decimalBound below
  obtain ⟨readDecimal, readMarked, _, _, agree⟩ := integer_literals_are_exact (-190)
  obtain ⟨_, readLong, unread, ⟨text, spelled⟩, _⟩ := integer_literals_are_exact decimalBound
  exact ⟨⟨decimal, (readDecimal plain decimal).1⟩, ⟨hexadecimal, (readMarked marked hexadecimal).2,
    (agree marked hexadecimal).2.mpr (by decide +kernel)⟩, beyond, text, spelled,
    (readLong text spelled).2, (unread beyond).2⟩

end Accumulator
