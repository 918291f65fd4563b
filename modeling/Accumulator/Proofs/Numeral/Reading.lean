import Accumulator.Cell
import Accumulator.Proofs.Numeral.LetterCase
import Accumulator.Proofs.Numeral.Spelling

set_option autoImplicit false

/-!
Spelled integers are read exactly. Behind the sign of a spelling the three readers of a token see
the same run. The decimal one takes every run that is short enough, and it takes none with a base
mark, so that the second reader takes these. A run that is too long for the first reader has no mark
for the second one, and the real number that the third one makes of it is infinite.
-/

namespace Accumulator

namespace Numeral

open Text (Visible isBlank trim trimWith visible_cons)

/-! ### Digits -/

section Digit

variable {base digit : Nat} {character : Char}

theorem digitBelow?_of_digitOf (stands : DigitOf character digit) (small : digit < base) :
    digitBelow? base character = some digit := by
  have read : digitValue? character = some digit := by
    cases stands with
    | decimal found => rw [digitValue?, found]
    | @small place few =>
        have table : ∀ place < 6,
            digitValue? (Char.ofNat ('a'.toNat + place)) = some (10 + place) := by
          decide
        exact table place few
    | @capital place few =>
        have table : ∀ place < 6,
            digitValue? (Char.ofNat ('A'.toNat + place)) = some (10 + place) := by
          decide
        exact table place few
  rw [digitBelow?, read]
  exact Option.filter_some_pos (decide_eq_true small)

theorem visible_of_digitOf (stands : DigitOf character digit) : isBlank character = false := by
  cases stands with
  | decimal found => exact Text.visible_of_decimalDigit found
  | @small place few =>
      have table : ∀ place < 6, isBlank (Char.ofNat ('a'.toNat + place)) = false := by decide
      exact table place few
  | @capital place few =>
      have table : ∀ place < 6, isBlank (Char.ofNat ('A'.toNat + place)) = false := by decide
      exact table place few

end Digit

/-! ### Runs -/

namespace DigitRun

variable {base count value : Nat} {text : List Char}

theorem exists_first (run : DigitRun base text count value) :
    ∃ first rest digit, text = first :: rest ∧ digitBelow? base first = some digit := by
  cases run with
  | last stands small => exact ⟨_, _, _, rfl, digitBelow?_of_digitOf stands small⟩
  | next stands small _ => exact ⟨_, _, _, rfl, digitBelow?_of_digitOf stands small⟩
  | separated stands small _ => exact ⟨_, _, _, rfl, digitBelow?_of_digitOf stands small⟩

/-- The reader of runs sees the digits that the grammar counts and weighs. -/
theorem read (run : DigitRun base text count value) :
    ∃ digits, digitRun? base text = some digits ∧ digits.length = count ∧
      ofDigits base digits = value := by
  induction run with
  | @last character digit stands small =>
      refine ⟨[digit], ?_, rfl, ?_⟩
      · rw [digitRun?, digitBelow?_of_digitOf stands small]
        rfl
      · rw [ofDigits_cons]
        exact Nat.mul_one digit
  | @next character digit rest count value stands small run previous =>
      obtain ⟨digits, later, length, worth⟩ := previous
      obtain ⟨first, others, opening, shape, opens⟩ := run.exists_first
      refine ⟨digit :: digits, ?_, congrArg (· + 1) length, ?_⟩
      · rw [digitRun?.eq_4 base character rest]
        · rw [digitBelow?_of_digitOf stands small, later]
          rfl
        · rw [shape]
          exact List.cons_ne_nil first others
        · intro behind same
          rw [shape] at same
          rw [(List.cons.inj same).1] at opens
          contradiction
      · rw [ofDigits_cons, length, worth]
  | @separated character digit rest count value stands small run previous =>
      obtain ⟨digits, later, length, worth⟩ := previous
      refine ⟨digit :: digits, ?_, congrArg (· + 1) length, ?_⟩
      · rw [digitRun?, digitBelow?_of_digitOf stands small, later]
        rfl
      · rw [ofDigits_cons, length, worth]

/-- Nothing but digits and underscores stands in a run. -/
theorem underscore_or_digit_of_mem (run : DigitRun base text count value) :
    ∀ character ∈ text, character = '_' ∨ ∃ digit, DigitOf character digit ∧ digit < base := by
  induction run with
  | last stands small =>
      intro character inside
      rw [List.mem_singleton.mp inside]
      exact .inr ⟨_, stands, small⟩
  | next stands small _ previous =>
      intro character inside
      rcases List.mem_cons.mp inside with rfl | later
      · exact .inr ⟨_, stands, small⟩
      · exact previous character later
  | separated stands small _ previous =>
      intro character inside
      rcases List.mem_cons.mp inside with rfl | behind
      · exact .inr ⟨_, stands, small⟩
      · rcases List.mem_cons.mp behind with rfl | later
        · exact .inl rfl
        · exact previous character later

theorem visible (run : DigitRun base text count value) : Visible text := by
  intro character inside
  rcases run.underscore_or_digit_of_mem character inside with rfl | ⟨digit, stands, _⟩
  · decide
  · exact visible_of_digitOf stands

/-- A character that is no digit of the base does not stand in a run, an underscore apart. -/
theorem ne_of_mem (run : DigitRun base text count value) {mark : Char}
    (other : mark ≠ '_') (digitless : digitBelow? base mark = none) {character : Char}
    (inside : character ∈ text) : character ≠ mark := by
  rintro rfl
  rcases run.underscore_or_digit_of_mem character inside with same | ⟨digit, stands, small⟩
  · exact other same
  · rw [digitBelow?_of_digitOf stands small] at digitless
    contradiction

end DigitRun

/-- A character that is neither a digit of the base nor an underscore stops the reader of runs. -/
theorem digitRun?_eq_none {base : Nat} {text : List Char} {mark : Char} (inside : mark ∈ text)
    (other : mark ≠ '_') (digitless : digitBelow? base mark = none) :
    digitRun? base text = none := by
  induction text using digitRun?.induct with
  | case1 => contradiction
  | case2 character => rw [digitRun?, ← List.mem_singleton.mp inside, digitless, Option.map_none]
  | case3 character rest previous =>
      rw [digitRun?]
      rcases List.mem_cons.mp inside with rfl | behind
      · rw [digitless, Option.bind_none]
      · rw [previous ((List.mem_cons.mp behind).resolve_left other)]
        exact Option.bind_fun_none _
  | case4 character rest alone separated previous =>
      rw [digitRun?.eq_4 base character rest alone separated]
      rcases List.mem_cons.mp inside with rfl | behind
      · rw [digitless, Option.bind_none]
      · rw [previous behind]
        exact Option.bind_fun_none _

/-! ### Signs and blanks -/

/-- What a sign may stand in front of: a text without blanks that does not start with a sign. -/
structure Bare (text : List Char) : Prop where
  visible : Visible text
  opens : ∃ first rest, text = first :: rest ∧ first ≠ '+' ∧ first ≠ '-'

theorem Bare.splitSign {text : List Char} (bare : Bare text) : splitSign text = (false, text) := by
  obtain ⟨first, rest, rfl, plus, minus⟩ := bare.opens
  exact splitSign_of_ne plus minus rest

section Signed

variable {spells : List Char → Nat → Prop} {text : List Char} {value : Int}

theorem Signed.splitSign (signed : Signed spells text value)
    (bare : ∀ body magnitude, spells body magnitude → Bare body) :
    Visible text ∧ ∃ negative body magnitude, spells body magnitude ∧
      splitSign text = (negative, body) ∧ value = applySign negative magnitude := by
  cases signed with
  | unsigned run => exact ⟨(bare _ _ run).visible, false, _, _, run, (bare _ _ run).splitSign, rfl⟩
  | plus run =>
      exact ⟨visible_cons (by decide) (bare _ _ run).visible, false, _, _, run, rfl, rfl⟩
  | minus run =>
      exact ⟨visible_cons (by decide) (bare _ _ run).visible, true, _, _, run, rfl, rfl⟩

end Signed

/-! ### Decimal runs -/

namespace DigitRun

variable {count value : Nat} {text : List Char}

theorem bare {base : Nat} (run : DigitRun base text count value) : Bare text := by
  refine ⟨run.visible, ?_⟩
  obtain ⟨first, rest, digit, shape, opens⟩ := run.exists_first
  refine ⟨first, rest, shape, ?_, ?_⟩
  · rintro rfl
    contradiction
  · rintro rfl
    contradiction

theorem decimalMagnitude? (run : DigitRun 10 text count value) :
    decimalMagnitude? text = if count ≤ digitLimit then some value else none := by
  obtain ⟨digits, read, length, worth⟩ := run.read
  rw [Numeral.decimalMagnitude?, read, Option.filter_some, length]
  by_cases few : count ≤ digitLimit
  · rw [if_pos (decide_eq_true few), if_pos few, Option.map_some, worth]
  · rw [if_neg (by simpa using few), if_neg few, Option.map_none]

theorem markedMagnitude? (run : DigitRun 10 text count value) : markedMagnitude? text = none := by
  rcases text with _ | ⟨leading, _ | ⟨marker, rest⟩⟩
  · rfl
  · rfl
  · have unmarked : markedBase? marker = none := by
      have behind : marker ∈ leading :: marker :: rest :=
        List.mem_cons_of_mem leading List.mem_cons_self
      unfold markedBase?
      split
      case h_7 => rfl
      all_goals exact absurd rfl (run.ne_of_mem (by decide) (by decide) behind)
    rw [Numeral.markedMagnitude?, unmarked, Option.bind_none, ite_self]

end DigitRun

namespace Scientific

theorem splitAtFirst_of_none {isMark : Char → Bool} {text : List Char}
    (markless : ∀ character ∈ text, isMark character = false) :
    splitAtFirst isMark text = (text, none) := by
  induction text with
  | nil => rfl
  | cons first rest previous =>
      obtain ⟨opens, behind⟩ := List.forall_mem_cons.mp markless
      rw [splitAtFirst, opens, if_neg Bool.false_ne_true, previous behind]

/-- A text that starts with a decimal digit is no name. -/
theorem spells_of_digit {name : String} {first : Char} {digit : Nat}
    (letter : name.toList.head?.bind (digitBelow? 10) = none)
    (opens : digitBelow? 10 first = some digit) (rest : List Char) :
    spells name (first :: rest) = false := by
  rw [Bool.eq_false_iff]
  intro spelt
  have same : (first :: rest).map Char.toLower = name.toList := eq_of_beq spelt
  have small : digitBelow? 10 first.toLower = none := by
    rw [← same] at letter
    exact letter
  rw [digitBelow?_toLower, opens] at small
  contradiction

/-- As a real number, a run of decimal digits is the number that it is worth, to be rounded. -/
theorem unsigned?_of_run {text : List Char} {count value : Nat} (run : DigitRun 10 text count value)
    (negative : Bool) : unsigned? negative text = some (.decimal negative value 0) := by
  obtain ⟨first, rest, digit, shape, opens⟩ := run.exists_first
  have nameless : ∀ name ∈ ["nan", "inf", "infinity"], spells name text = false := by
    have letters : ∀ name ∈ ["nan", "inf", "infinity"],
        name.toList.head?.bind (digitBelow? 10) = none := by
      decide
    intro name listed
    rw [shape]
    exact spells_of_digit (letters name listed) opens rest
  have whole : splitAtFirst (fun character => character == 'e' || character == 'E') text =
      (text, none) := by
    apply splitAtFirst_of_none
    intro character inside
    rw [beq_false_of_ne (run.ne_of_mem (by decide) (by decide) inside),
      beq_false_of_ne (run.ne_of_mem (by decide) (by decide) inside)]
    rfl
  have pointless : splitAtFirst (· == '.') text = (text, none) := by
    apply splitAtFirst_of_none
    intro character inside
    exact beq_false_of_ne (run.ne_of_mem (by decide) (by decide) inside)
  obtain ⟨digits, read, _, worth⟩ := run.read
  unfold unsigned? fraction?
  rw [nameless "nan" (by decide), nameless "inf" (by decide), nameless "infinity" (by decide),
    whole]
  dsimp only
  rw [pointless]
  dsimp only
  rw [read, ← worth]
  rfl

end Scientific

/-! ### Marked runs -/

namespace MarkedRun

variable {text : List Char} {value : Nat}

/-- Behind a marked zero there is a run of digits of the base that the mark announces. -/
theorem exists_run (marked : MarkedRun text value) :
    ∃ marker base behind count rest, (marker, base) ∈ baseMarks ∧ text = '0' :: marker :: behind ∧
      (behind = rest ∨ behind = '_' :: rest) ∧ DigitRun base rest count value := by
  cases marked with
  | direct marks run => exact ⟨_, _, _, _, _, marks, rfl, .inl rfl, run⟩
  | separated marks run => exact ⟨_, _, _, _, _, marks, rfl, .inr rfl, run⟩

theorem bare (marked : MarkedRun text value) : Bare text := by
  obtain ⟨marker, base, behind, count, rest, marks, rfl, shape, run⟩ := marked.exists_run
  have table : ∀ mark ∈ baseMarks, isBlank mark.1 = false := by decide
  have visible : Visible behind := by
    rcases shape with rfl | rfl
    · exact run.visible
    · exact visible_cons (by decide) run.visible
  exact ⟨visible_cons (by decide) (visible_cons (table _ marks) visible),
    '0', _, rfl, by decide, by decide⟩

theorem decimalMagnitude? (marked : MarkedRun text value) : decimalMagnitude? text = none := by
  obtain ⟨marker, base, behind, count, rest, marks, rfl, _, _⟩ := marked.exists_run
  have table : ∀ mark ∈ baseMarks, mark.1 ≠ '_' ∧ digitBelow? 10 mark.1 = none := by decide
  obtain ⟨other, digitless⟩ := table _ marks
  have inside : marker ∈ '0' :: marker :: behind := List.mem_cons_of_mem '0' List.mem_cons_self
  rw [Numeral.decimalMagnitude?, digitRun?_eq_none inside other digitless]
  rfl

theorem markedMagnitude? (marked : MarkedRun text value) : markedMagnitude? text = some value := by
  obtain ⟨marker, base, behind, count, rest, marks, rfl, shape, run⟩ := marked.exists_run
  have table : ∀ mark ∈ baseMarks, markedBase? mark.1 = some mark.2 := by decide
  obtain ⟨digits, read, _, worth⟩ := run.read
  have dropped : dropUnderscore behind = rest := by
    rcases shape with rfl | rfl
    · obtain ⟨first, others, digit, rfl, opens⟩ := run.exists_first
      rw [dropUnderscore]
      intro later same
      rw [(List.cons.inj same).1] at opens
      contradiction
    · rfl
  rw [Numeral.markedMagnitude?, if_pos (by decide), table _ marks, Option.bind_some, dropped, read,
    Option.map_some, worth]

end MarkedRun

/-- A number with more digits than a real number reaches has none but infinity next to it. -/
theorem ofScientific_of_long {value : Nat} (long : digitLimit < (Nat.toDigits 10 value).length)
    (negative : Bool) :
    Binary64.ofScientific (.decimal negative value 0) = .infinite negative := by
  have positive : value ≠ 0 := by
    rintro rfl
    exact absurd long (by decide)
  have limit : digitLimit = 4300 := rfl
  unfold Binary64.ofScientific Binary64.decimalReach
  dsimp only
  rw [if_neg (by omega), if_pos (by omega)]

end Numeral

open Numeral

/-- What a spelled integer denotes is up to what the three readers make of its magnitude. -/
theorem wordOfToken?_of_spelling {spells : List Char → Nat → Prop} {text : List Char} {value : Int}
    (spelled : Padded (Signed spells) text value)
    (bare : ∀ body magnitude, spells body magnitude → Bare body) :
    ∃ negative body magnitude, spells body magnitude ∧ value = applySign negative magnitude ∧
      wordOfToken? text =
        match decimalMagnitude? body with
        | some found => some (applySign negative found)
        | none =>
          match markedMagnitude? body with
          | some found => some (applySign negative found)
          | none =>
            ((Scientific.unsigned? negative body).map Binary64.ofScientific).bind
              Binary64.truncate? := by
  obtain @⟨left, core, right, value, opening, closing, signed⟩ := spelled
  obtain ⟨visible, negative, body, magnitude, run, split, worth⟩ := signed.splitSign bare
  refine ⟨negative, body, magnitude, run, worth, ?_⟩
  have trimmed : Text.trim (left ++ (core ++ right)) = core := by
    rw [Text.trim, Text.trimWith_append_append opening closing]
    exact Text.trim_of_visible visible
  have marginless : Text.trimWith isMargin core = core := by
    apply Text.trimWith_of_none
    intro character inside
    rw [isMargin, visible character inside]
    rfl
  unfold wordOfToken? decimalLiteral? markedLiteral? signed? Binary64.ofText? realLiteral?
  dsimp only
  rw [trimmed, marginless, split]
  dsimp only
  cases decimalMagnitude? body with
  | some found => rfl
  | none =>
      cases markedMagnitude? body with
      | some found => rfl
      | none => rfl

theorem wordOfToken?_of_decimalSpelling {text : List Char} {value : Int}
    (spelled : DecimalSpelling text value) : wordOfToken? text = some value := by
  obtain ⟨negative, body, magnitude, decimal, rfl, read⟩ :=
    wordOfToken?_of_spelling spelled fun _ _ ⟨run, _⟩ => run.bare
  obtain ⟨run, few⟩ := decimal
  rw [read, run.decimalMagnitude?, if_pos few]

theorem wordOfToken?_of_markedSpelling {text : List Char} {value : Int}
    (spelled : MarkedSpelling text value) : wordOfToken? text = some value := by
  obtain ⟨negative, body, magnitude, marked, rfl, read⟩ :=
    wordOfToken?_of_spelling spelled fun _ _ marked => marked.bare
  rw [read, marked.decimalMagnitude?, marked.markedMagnitude?]

end Accumulator
