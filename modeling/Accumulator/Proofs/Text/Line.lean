import Accumulator.Proofs.Text.Word

set_option autoImplicit false

/-!
Lines and line feeds. No line holds a break, and unbroken texts that are not empty are the lines of
the text that joins them by line feeds.
-/

namespace Accumulator.Text

def Unbroken (text : List Char) : Prop :=
  ∀ character ∈ text, isLineBreak character = false

/-- Every break character is blank. -/
theorem isBlank_of_isLineBreak {character : Char} (breaks : isLineBreak character = true) :
    isBlank character = true := by
  unfold isLineBreak at breaks
  simp only [Bool.or_eq_true, Bool.and_eq_true, decide_eq_true_eq, beq_iff_eq] at breaks
  apply (inRanges_iff blankRanges character).mpr
  rcases breaks with (((⟨above, below⟩ | ⟨above, below⟩) | next) | line) | paragraph
  · exact ⟨⟨0x09, 0x0D⟩, by decide, by dsimp only; omega⟩
  · exact ⟨⟨0x1C, 0x20⟩, by decide, by dsimp only; omega⟩
  · exact ⟨⟨0x85, 0x85⟩, by decide, by dsimp only; omega⟩
  · exact ⟨⟨0x2028, 0x2029⟩, by decide, by dsimp only; omega⟩
  · exact ⟨⟨0x2028, 0x2029⟩, by decide, by dsimp only; omega⟩

theorem Visible.unbroken {text : List Char} (visible : Visible text) : Unbroken text := by
  intro character inside
  rw [Bool.eq_false_iff]
  intro breaks
  have blank := isBlank_of_isLineBreak breaks
  rw [visible character inside] at blank
  contradiction

private theorem lines_newline (rest : List Char) : lines ('\n' :: rest) = [] :: lines rest := by
  rw [lines, if_pos (by decide)]
  intro _ same
  exact absurd same (by decide)

private theorem lines_cons {first : Char} (kept : isLineBreak first = false) (rest : List Char) :
    lines (first :: rest) =
      match lines rest with
      | [] => [[first]]
      | line :: later => (first :: line) :: later := by
  have single : ∀ later, first = '\r' → rest = '\n' :: later → False := by
    intro _ same
    rw [same] at kept
    contradiction
  rw [lines.eq_3 first rest single]
  exact if_neg (Bool.eq_false_iff.mp kept)

theorem lines_of_unbroken {text : List Char} (unbroken : Unbroken text) (nonempty : text ≠ []) :
    lines text = [text] := by
  induction text with
  | nil => contradiction
  | cons first rest previous =>
      rw [lines_cons (unbroken first List.mem_cons_self)]
      cases rest with
      | nil => rfl
      | cons second others =>
          rw [previous (fun character inside =>
            unbroken character (List.mem_cons_of_mem first inside)) (List.cons_ne_nil _ _)]

theorem lines_append_newline {left : List Char} (unbroken : Unbroken left) (right : List Char) :
    lines (left ++ '\n' :: right) = left :: lines right := by
  induction left with
  | nil => exact lines_newline right
  | cons first rest previous =>
      rw [List.cons_append, lines_cons (unbroken first List.mem_cons_self),
        previous fun character inside => unbroken character (List.mem_cons_of_mem first inside)]

theorem lines_intercalate {texts : List (List Char)}
    (separate : ∀ text ∈ texts, Unbroken text ∧ text ≠ []) :
    lines (List.intercalate ['\n'] texts) = texts := by
  induction texts with
  | nil => rfl
  | cons first rest previous =>
      obtain ⟨unbroken, nonempty⟩ := separate first List.mem_cons_self
      cases rest with
      | nil =>
          rw [List.intercalate_singleton]
          exact lines_of_unbroken unbroken nonempty
      | cons second others =>
          have later := previous fun text among => separate text (List.mem_cons_of_mem first among)
          rw [List.intercalate_cons_cons, List.append_assoc, List.singleton_append,
            lines_append_newline unbroken, later]

theorem unbroken_of_mem_lines {text line : List Char} (among : line ∈ lines text) :
    Unbroken line := by
  induction text using lines.induct generalizing line with
  | case1 => contradiction
  | case2 rest previous =>
      rw [lines, List.mem_cons] at among
      rcases among with rfl | among
      · exact nofun
      · exact previous among
  | case3 first rest apart breaks previous =>
      rw [lines, if_pos breaks, List.mem_cons] at among
      rcases among with rfl | among
      · exact nofun
      · exact previous among
      · exact apart
  | case4 first rest apart kept none previous =>
      rw [lines_cons (Bool.eq_false_iff.mpr kept), none, List.mem_singleton] at among
      rw [among]
      intro character inside
      rw [List.mem_singleton.mp inside]
      exact Bool.eq_false_iff.mpr kept
  | case5 first rest apart kept head later cut previous =>
      rw [lines_cons (Bool.eq_false_iff.mpr kept), cut, List.mem_cons] at among
      rcases among with rfl | among
      · intro character inside
        rcases List.mem_cons.mp inside with rfl | inside
        · exact Bool.eq_false_iff.mpr kept
        · exact previous (cut ▸ List.mem_cons_self) character inside
      · exact previous (cut ▸ List.mem_cons_of_mem _ among)

private theorem lines_break {first : Char} (breaks : isLineBreak first = true) {rest : List Char}
    (single : ∀ later, first = '\r' → rest = '\n' :: later → False) :
    lines (first :: rest) = [] :: lines rest := by
  rw [lines.eq_3 first rest single, if_pos breaks]

theorem lines_ne_nil {text : List Char} (nonempty : text ≠ []) : lines text ≠ [] := by
  induction text using lines.induct with
  | case1 => contradiction
  | case2 rest previous =>
      rw [lines]
      exact List.cons_ne_nil [] _
  | case3 first rest apart breaks previous =>
      rw [lines_break breaks apart]
      exact List.cons_ne_nil [] _
  | case4 first rest apart kept none previous =>
      rw [lines_cons (Bool.eq_false_iff.mpr kept), none]
      exact List.cons_ne_nil [first] _
  | case5 first rest apart kept head later cut previous =>
      rw [lines_cons (Bool.eq_false_iff.mpr kept), cut]
      exact List.cons_ne_nil (first :: head) _

/-- A line feed between two texts ends the last line of the first one. If that line has ended
already, there is an empty line between them, unless the line feed completes its ending. -/
theorem exists_gap_of_newline (left right : List Char) :
    ∃ gap, (gap = [] ∨ gap = [[]]) ∧
      lines (left ++ '\n' :: right) = lines left ++ (gap ++ lines right) := by
  induction left using lines.induct with
  | case1 => exact ⟨[[]], .inr rfl, lines_newline right⟩
  | case2 rest previous =>
      obtain ⟨gap, shape, cut⟩ := previous
      refine ⟨gap, shape, ?_⟩
      rw [List.cons_append, List.cons_append, lines, lines, cut]
      rfl
  | case3 first rest apart breaks previous =>
      by_cases carriage : first = '\r' ∧ rest = []
      · obtain ⟨rfl, rfl⟩ := carriage
        refine ⟨[], .inl rfl, ?_⟩
        change lines ('\r' :: '\n' :: right) = _
        rw [lines]
        rfl
      · obtain ⟨gap, shape, cut⟩ := previous
        refine ⟨gap, shape, ?_⟩
        have single : ∀ later, first = '\r' → rest ++ '\n' :: right = '\n' :: later → False := by
          intro later same feed
          cases rest with
          | nil => exact carriage ⟨same, rfl⟩
          | cons second others => exact apart others same (by rw [(List.cons.inj feed).1])
        rw [List.cons_append, lines_break breaks single, lines_break breaks apart, cut]
        rfl
  | case4 first rest apart kept none previous =>
      have alone : rest = [] := by_contra fun nonempty => lines_ne_nil nonempty none
      subst alone
      refine ⟨[], .inl rfl, ?_⟩
      rw [List.singleton_append, lines_cons (Bool.eq_false_iff.mpr kept), lines_newline,
        lines_cons (Bool.eq_false_iff.mpr kept)]
      rfl
  | case5 first rest apart kept head later cut previous =>
      obtain ⟨gap, shape, split⟩ := previous
      refine ⟨gap, shape, ?_⟩
      rw [List.cons_append, lines_cons (Bool.eq_false_iff.mpr kept), split,
        lines_cons (Bool.eq_false_iff.mpr kept), cut]
      rfl

/-- It does not matter to the lines of a text which of the three endings they have. -/
theorem lines_unifyNewlines (text : List Char) : lines (unifyNewlines text) = lines text := by
  induction text using unifyNewlines.induct with
  | case1 => rfl
  | case2 rest previous => rw [unifyNewlines, lines_newline, previous, lines]
  | case3 rest single previous =>
      have breaks : isLineBreak '\r' = true := by decide
      rw [unifyNewlines.eq_3 rest single, lines_newline, previous,
        lines_break breaks fun later _ same => single later same]
  | case4 first rest other plain previous =>
      rw [unifyNewlines.eq_4 first rest other plain]
      have single (others : List Char) : ∀ later, first = '\r' → others = '\n' :: later → False :=
        fun _ same => absurd same plain
      rcases Bool.eq_false_or_eq_true (isLineBreak first) with breaks | kept
      · rw [lines_break breaks (single _), previous, lines_break breaks (single _)]
      · rw [lines_cons kept, previous, lines_cons kept]

end Accumulator.Text
