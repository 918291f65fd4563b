import Accumulator.Proofs.Text.Word
import Accumulator.Text.DecimalDigit
import Accumulator.Text.UpperCase

set_option autoImplicit false

/-!
Upper case as a normal form. No character that upper case puts in the place of another is changed
by it again or is blank, so a text in upper case stays as it is and keeps its words. The facts about
the table are checked on sets of code points, each held as one number with a bit for every code
point, since two such sets are compared by one operation.
-/

namespace Accumulator.Text

/-! ### Sets of code points -/

def codeSet (codes : List Nat) : Nat :=
  codes.foldr (fun code rest => 1 <<< code ||| rest) 0

private theorem testBit_codeSet {codes : List Nat} {code : Nat} (member : code ∈ codes) :
    (codeSet codes).testBit code = true := by
  induction codes with
  | nil => contradiction
  | cons first rest previous =>
      change (1 <<< first ||| codeSet rest).testBit code = true
      rw [Nat.testBit_or, Bool.or_eq_true]
      rcases List.mem_cons.mp member with same | later
      · left
        rw [same, Nat.one_shiftLeft]
        exact Nat.testBit_two_pow_self
      · right
        exact previous later

theorem not_mem_of_codeSet_disjoint {left right : List Nat}
    (disjoint : codeSet left &&& codeSet right = 0) {code : Nat} (member : code ∈ left) :
    code ∉ right := by
  intro other
  have both : (codeSet left &&& codeSet right).testBit code = true := by
    rw [Nat.testBit_and, testBit_codeSet member, testBit_codeSet other]
    rfl
  rw [disjoint, Nat.zero_testBit] at both
  contradiction

def codesBetween (first last stride : Nat) : List Nat :=
  List.range' first ((last - first) / stride + 1) stride

theorem mem_codesBetween {first last stride code : Nat} (above : first ≤ code)
    (below : code ≤ last) (aligned : (code - first) % stride = 0) :
    code ∈ codesBetween first last stride := by
  refine List.mem_range'.mpr ⟨(code - first) / stride, ?_, ?_⟩
  · have bounded : (code - first) / stride ≤ (last - first) / stride :=
      Nat.div_le_div_right (by omega)
    omega
  · have whole := Nat.div_add_mod (code - first) stride
    omega

/-! ### The code points in the table -/

def CapitalRun.codes (run : CapitalRun) : List Nat :=
  codesBetween run.first run.last run.stride

def CapitalRun.capitals (run : CapitalRun) : List Nat :=
  run.codes.map fun (code : Nat) => (code + run.offset).toNat

theorem CapitalRun.mem_codes_of_covers {run : CapitalRun} {code : Nat}
    (covered : run.covers code = true) : code ∈ run.codes := by
  simp only [covers, Bool.and_eq_true, decide_eq_true_eq, beq_iff_eq] at covered
  exact mem_codesBetween covered.1.1 covered.1.2 covered.2

def smallCodes : List Nat :=
  codesBetween 0x61 0x7A 1 ++
    (capitalRuns.flatMap CapitalRun.codes ++ capitalExpansions.map Prod.fst)

def runCapitals : List Nat :=
  capitalRuns.flatMap CapitalRun.capitals

def capitalCodes : List Nat :=
  codesBetween 0x41 0x5A 1 ++ (runCapitals ++ capitalExpansions.flatMap Prod.snd)

def blankCodes : List Nat :=
  blankRanges.flatMap fun range => codesBetween range.first range.last 1

def digitCodes : List Nat :=
  codesBetween 0x30 0x39 1 ++ scriptZeros.flatMap fun start => codesBetween start (start + 9) 1

private theorem digits_disjoint_small : codeSet digitCodes &&& codeSet smallCodes = 0 := by
  decide +kernel

private theorem digits_disjoint_blank : codeSet digitCodes &&& codeSet blankCodes = 0 := by
  decide +kernel

private theorem capitals_disjoint :
    codeSet capitalCodes &&& codeSet (smallCodes ++ (blankCodes ++ ['/'.toNat])) = 0 := by
  decide +kernel

private theorem runCapitals_valid :
    ∀ code ∈ runCapitals, code.isValidChar ∧ (code < 0x58 ∨ 0x5A < code) := by
  decide +kernel

private theorem capitalExpansions_valid : ∀ entry ∈ capitalExpansions,
    2 ≤ entry.2.length ∧ ∀ code ∈ entry.2, code.isValidChar := by
  decide +kernel

private theorem capitals_valid {code : Nat} (capital : code ∈ capitalCodes) : code.isValidChar := by
  have ascii : ∀ code ∈ codesBetween 0x41 0x5A 1, code.isValidChar := by decide
  rcases List.mem_append.mp capital with letter | table
  · exact ascii code letter
  · rcases List.mem_append.mp table with moved | expanded
    · exact (runCapitals_valid code moved).1
    · obtain ⟨entry, listed, inside⟩ := List.mem_flatMap.mp expanded
      exact (capitalExpansions_valid entry listed).2 code inside

private theorem toNat_ofNat_capital {code : Nat} (capital : code ∈ capitalCodes) :
    (Char.ofNat code).toNat = code := by
  rw [Char.ofNat, dif_pos (capitals_valid capital)]
  rfl

/-! ### One character -/

/-- Upper case leaves a character, moves a small letter of ASCII, or looks the character up in one
of the two tables. -/
theorem upperCharacter_cases (character : Char) :
    upperCharacter character = [character] ∨
      (0x61 ≤ character.toNat ∧ character.toNat ≤ 0x7A ∧
        upperCharacter character = [Char.ofNat (character.toNat - 0x20)]) ∨
      (∃ code ∈ runCapitals, upperCharacter character = [Char.ofNat code]) ∨
      ∃ entry ∈ capitalExpansions, upperCharacter character = entry.2.map Char.ofNat := by
  unfold upperCharacter
  dsimp only
  split
  · split
    · next small => exact .inr (.inl ⟨small.1, small.2, rfl⟩)
    · exact .inl rfl
  · split
    · next run found =>
        have covered : run.covers character.toNat = true := by
          simpa using List.find?_some found
        refine .inr (.inr (.inl ⟨_, ?_, rfl⟩))
        exact List.mem_flatMap.mpr
          ⟨run, List.mem_of_find?_eq_some found, List.mem_map.mpr
            ⟨_, CapitalRun.mem_codes_of_covers covered, rfl⟩⟩
    · split
      · next expansion found =>
          obtain ⟨before, behind, table, _⟩ := List.lookup_eq_some_iff.mp found
          refine .inr (.inr (.inr ⟨(character.toNat, expansion), ?_, rfl⟩))
          rw [table]
          exact List.mem_append_right before List.mem_cons_self
      · exact .inl rfl

private theorem upperCharacter_of_not_small {character : Char}
    (large : character.toNat ∉ smallCodes) : upperCharacter character = [character] := by
  have notAscii : ¬ (0x61 ≤ character.toNat ∧ character.toNat ≤ 0x7A) := by
    rintro ⟨above, below⟩
    exact large (List.mem_append_left _ (mem_codesBetween above below (Nat.mod_one _)))
  have notCovered : capitalRuns.find? (·.covers character.toNat) = none := by
    rw [List.find?_eq_none]
    intro run member covered
    have listed := List.mem_flatMap.mpr ⟨run, member, CapitalRun.mem_codes_of_covers covered⟩
    exact large (List.mem_append_right _ (List.mem_append_left _ listed))
  have notExpanded : capitalExpansions.lookup character.toNat = none := by
    rw [List.lookup_eq_none_iff]
    intro entry member
    rw [bne_iff_ne]
    intro same
    have listed := List.mem_map.mpr ⟨entry, member, same.symm⟩
    exact large (List.mem_append_right _ (List.mem_append_right _ listed))
  unfold upperCharacter
  dsimp only
  rw [if_neg notAscii, notCovered, notExpanded]
  exact ite_self _

private theorem mem_digitCodes {character : Char} {value : Nat}
    (digit : decimalDigit? character = some value) : character.toNat ∈ digitCodes := by
  unfold decimalDigit? at digit
  dsimp only at digit
  split at digit
  · split at digit
    · next bounds =>
        exact List.mem_append_left _ (mem_codesBetween bounds.1 bounds.2 (Nat.mod_one _))
    · contradiction
  · obtain ⟨start, found, _⟩ := Option.map_eq_some_iff.mp digit
    have inside := List.find?_some found
    simp only [Bool.and_eq_true, decide_eq_true_eq] at inside
    refine List.mem_append_right _ (List.mem_flatMap.mpr
      ⟨start, List.mem_of_find?_eq_some found, ?_⟩)
    exact mem_codesBetween inside.1 (by omega) (Nat.mod_one _)

private theorem mem_blankCodes {character : Char} (blank : isBlank character = true) :
    character.toNat ∈ blankCodes := by
  obtain ⟨range, listed, above, below⟩ := (inRanges_iff blankRanges character).mp blank
  exact List.mem_flatMap.mpr ⟨range, listed, mem_codesBetween above below (Nat.mod_one _)⟩

theorem visible_of_decimalDigit {character : Char} {value : Nat}
    (digit : decimalDigit? character = some value) : isBlank character = false := by
  rw [Bool.eq_false_iff]
  intro blank
  exact not_mem_of_codeSet_disjoint digits_disjoint_blank (mem_digitCodes digit)
    (mem_blankCodes blank)

/-- Digits have no case. -/
theorem upperCharacter_of_decimalDigit {character : Char} {value : Nat}
    (digit : decimalDigit? character = some value) : upperCharacter character = [character] :=
  upperCharacter_of_not_small
    (not_mem_of_codeSet_disjoint digits_disjoint_small (mem_digitCodes digit))

private theorem mem_upperCharacter {character capital : Char}
    (member : capital ∈ upperCharacter character) :
    (capital = character ∧ upperCharacter character = [character]) ∨
      capital.toNat ∈ capitalCodes := by
  rcases upperCharacter_cases character with
    same | ⟨above, below, moved⟩ | ⟨code, listed, moved⟩ | ⟨entry, listed, moved⟩
  · left
    rw [same, List.mem_singleton] at member
    exact ⟨member, same⟩
  · right
    have listed : character.toNat - 0x20 ∈ capitalCodes :=
      List.mem_append_left _ (mem_codesBetween (by omega) (by omega) (Nat.mod_one _))
    rw [moved, List.mem_singleton] at member
    rw [member, toNat_ofNat_capital listed]
    exact listed
  · right
    have known : code ∈ capitalCodes :=
      List.mem_append_right _ (List.mem_append_left _ listed)
    rw [moved, List.mem_singleton] at member
    rw [member, toNat_ofNat_capital known]
    exact known
  · right
    rw [moved] at member
    obtain ⟨code, inside, same⟩ := List.mem_map.mp member
    have known : code ∈ capitalCodes :=
      List.mem_append_right _ (List.mem_append_right _ (List.mem_flatMap.mpr ⟨entry, listed, inside⟩))
    rw [← same, toNat_ofNat_capital known]
    exact known

/-- Upper case leaves what upper case has made. -/
theorem upperCharacter_of_mem {character capital : Char}
    (member : capital ∈ upperCharacter character) : upperCharacter capital = [capital] := by
  rcases mem_upperCharacter member with ⟨same, kept⟩ | known
  · rw [same, kept]
  · refine upperCharacter_of_not_small fun small => ?_
    exact not_mem_of_codeSet_disjoint capitals_disjoint known (List.mem_append_left _ small)

theorem visible_of_mem_upperCharacter {character capital : Char}
    (visible : isBlank character = false) (member : capital ∈ upperCharacter character) :
    isBlank capital = false := by
  rcases mem_upperCharacter member with ⟨same, _⟩ | known
  · rw [same]
    exact visible
  · rw [Bool.eq_false_iff]
    intro blank
    exact not_mem_of_codeSet_disjoint capitals_disjoint known
      (List.mem_append_right _ (List.mem_append_left _ (mem_blankCodes blank)))

/-- A slash is no capital of another character. -/
theorem eq_slash_of_mem_upperCharacter {character : Char}
    (member : '/' ∈ upperCharacter character) : character = '/' := by
  rcases mem_upperCharacter member with ⟨same, _⟩ | known
  · exact same.symm
  · exact absurd (List.mem_append_right _ (List.mem_append_right _ (List.mem_singleton_self _)))
      (not_mem_of_codeSet_disjoint capitals_disjoint known)

theorem upperCharacter_ne_nil (character : Char) : upperCharacter character ≠ [] := by
  rcases upperCharacter_cases character with
    same | ⟨_, _, moved⟩ | ⟨code, _, moved⟩ | ⟨entry, listed, moved⟩
  · rw [same]
    exact List.cons_ne_nil character []
  · rw [moved]
    exact List.cons_ne_nil _ []
  · rw [moved]
    exact List.cons_ne_nil _ []
  · intro empty
    have long := (capitalExpansions_valid entry listed).1
    rw [moved, List.map_eq_nil_iff] at empty
    rw [empty] at long
    contradiction

/-! ### Texts -/

theorem upper_ne_nil {text : List Char} (nonempty : text ≠ []) : upper text ≠ [] := by
  obtain ⟨first, rest, shape⟩ := List.exists_cons_of_ne_nil nonempty
  rw [shape, upper, List.flatMap_cons]
  exact List.append_ne_nil_of_left_ne_nil (upperCharacter_ne_nil first) _

theorem Visible.upper {text : List Char} (visible : Visible text) : Visible (upper text) := by
  intro capital member
  obtain ⟨character, inside, made⟩ := List.mem_flatMap.mp member
  exact visible_of_mem_upperCharacter (visible character inside) made

private theorem upper_of_fixed {text : List Char}
    (fixed : ∀ character ∈ text, upperCharacter character = [character]) : upper text = text := by
  induction text with
  | nil => rfl
  | cons first rest previous =>
      rw [upper, List.flatMap_cons, fixed first List.mem_cons_self]
      exact congrArg (first :: ·) (previous fun character inside =>
        fixed character (List.mem_cons_of_mem first inside))

theorem upper_append (left right : List Char) : upper (left ++ right) = upper left ++ upper right :=
  List.flatMap_append

/-- Upper case is a normal form. -/
theorem upper_upper (text : List Char) : upper (upper text) = upper text := by
  apply upper_of_fixed
  intro capital member
  obtain ⟨character, _, made⟩ := List.mem_flatMap.mp member
  exact upperCharacter_of_mem made

/-! ### The last three letters -/

private theorem upperCharacter_eq_last {letter : Char} (above : 0x58 ≤ letter.toNat)
    (below : letter.toNat ≤ 0x5A) {character : Char} (made : upperCharacter character = [letter]) :
    character = letter ∨ character = Char.ofNat (letter.toNat + 0x20) := by
  rcases upperCharacter_cases character with
    same | ⟨low, high, moved⟩ | ⟨code, listed, moved⟩ | ⟨entry, listed, moved⟩
  · rw [same] at made
    exact .inl (List.cons.inj made).1
  · right
    rw [moved] at made
    have known : character.toNat - 0x20 ∈ capitalCodes :=
      List.mem_append_left _ (mem_codesBetween (by omega) (by omega) (Nat.mod_one _))
    have distance : character.toNat = letter.toNat + 0x20 := by
      rw [← (List.cons.inj made).1, toNat_ofNat_capital known]
      omega
    rw [← distance, Char.ofNat_toNat]
  · have known : code ∈ capitalCodes := List.mem_append_right _ (List.mem_append_left _ listed)
    rw [moved] at made
    have coded : letter.toNat = code := by
      rw [← (List.cons.inj made).1, toNat_ofNat_capital known]
    have outside := (runCapitals_valid code listed).2
    omega
  · have long := (capitalExpansions_valid entry listed).1
    rw [moved] at made
    have short := congrArg List.length made
    rw [List.length_map, List.length_singleton] at short
    omega

/-- No text but the letter itself, small or capital, has one of the last three letters as its upper
case. -/
theorem eq_last_of_upper_eq {letter : Char} (above : 0x58 ≤ letter.toNat)
    (below : letter.toNat ≤ 0x5A) {text : List Char} (made : upper text = [letter]) :
    text = [letter] ∨ text = [Char.ofNat (letter.toNat + 0x20)] := by
  cases text with
  | nil => contradiction
  | cons first rest =>
      rw [upper, List.flatMap_cons] at made
      rcases List.append_eq_singleton_iff.mp made with ⟨nothing, _⟩ | ⟨moved, nothing⟩
      · exact absurd nothing (upperCharacter_ne_nil first)
      · have alone : rest = [] := by
          cases rest with
          | nil => rfl
          | cons second others =>
              exact absurd nothing (upper_ne_nil (List.cons_ne_nil second others))
        rw [alone]
        rcases upperCharacter_eq_last above below moved with same | small
        · exact .inl (by rw [same])
        · exact .inr (by rw [small])

end Accumulator.Text
