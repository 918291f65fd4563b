import Accumulator.Assembly.Source
import Accumulator.Proofs.Text.Capital
import Accumulator.Proofs.Text.Line

set_option autoImplicit false

/-!
Program lines as source text. A text is a program line if nothing in it would be cut off, trimmed or
taken for the end of a line. The lines of a program are such texts, and such texts, one to a line,
are the source of a program with just these lines.
-/

namespace Accumulator.Assembly

open Text (Unbroken lines trim upper upperCharacter)

/-! ### Comments -/

theorem beforeComment_prefix_self (text : List Char) : beforeComment text <+: text := by
  induction text using beforeComment.induct with
  | case1 => exact List.prefix_refl []
  | case2 rest => exact List.nil_prefix
  | case3 first rest apart previous =>
      rw [beforeComment]
      · exact List.cons_prefix_cons.mpr ⟨rfl, previous⟩
      · exact apart

theorem not_infix_beforeComment (text : List Char) : ¬['/', '/'] <:+: beforeComment text := by
  induction text using beforeComment.induct with
  | case1 => decide
  | case2 rest =>
      change ¬['/', '/'] <:+: []
      decide
  | case3 first rest apart previous =>
      rw [beforeComment]
      · rw [List.infix_cons_iff]
        rintro (opening | later)
        · -- Two slashes at the start would have been seen there.
          obtain ⟨same, second⟩ := List.cons_prefix_cons.mp opening
          obtain ⟨others, shape⟩ := second.trans (beforeComment_prefix_self rest)
          exact apart others same.symm shape.symm
        · exact previous later
      · exact apart

theorem beforeComment_eq_self_iff (text : List Char) :
    beforeComment text = text ↔ ¬['/', '/'] <:+: text := by
  constructor
  · intro uncommented
    rw [← uncommented]
    exact not_infix_beforeComment text
  · induction text using beforeComment.induct with
    | case1 => exact fun _ => rfl
    | case2 rest => exact fun clean => absurd ⟨[], rest, rfl⟩ clean
    | case3 first rest apart previous =>
        intro clean
        rw [beforeComment]
        · rw [previous fun later => clean (later.trans (List.suffix_cons first rest).isInfix)]
        · exact apart

/-- A part of a text without a comment has none. -/
theorem beforeComment_of_infix {part text : List Char} (inside : part <:+: text)
    (uncommented : beforeComment text = text) : beforeComment part = part := by
  rw [beforeComment_eq_self_iff] at uncommented ⊢
  exact fun slashes => uncommented (slashes.trans inside)

/-- Text without a slash opens no comment behind another text. -/
theorem beforeComment_append_of_not_mem {left right : List Char}
    (uncommented : beforeComment left = left) (clean : '/' ∉ right) :
    beforeComment (left ++ right) = left ++ right := by
  rw [beforeComment_eq_self_iff] at uncommented ⊢
  rw [List.infix_append_iff]
  rintro (slashes | slashes | ⟨before, behind, cut, closing, opening⟩)
  · exact uncommented slashes
  · exact clean (slashes.subset List.mem_cons_self)
  · cases behind with
    | nil =>
        rw [List.append_nil] at cut
        exact uncommented (cut ▸ closing.isInfix)
    | cons second others =>
        have among : second ∈ ['/', '/'] := by
          rw [cut]
          exact List.mem_append_right before List.mem_cons_self
        have slash : second = '/' := by simpa using among
        exact clean (slash ▸ opening.subset List.mem_cons_self)

private theorem beforeComment_append {left : List Char} (clean : '/' ∉ left)
    (right : List Char) : beforeComment (left ++ right) = left ++ beforeComment right := by
  induction left with
  | nil => rfl
  | cons first rest previous =>
      rw [List.cons_append, beforeComment]
      · rw [previous fun inside => clean (List.mem_cons_of_mem first inside), List.cons_append]
      · intro others same
        exact absurd (same ▸ List.mem_cons_self) clean

/-- Capitals open and close no comments. -/
theorem beforeComment_upper (text : List Char) :
    beforeComment (upper text) = upper (beforeComment text) := by
  induction text using beforeComment.induct with
  | case1 => rfl
  | case2 rest => rfl
  | case3 first rest apart previous =>
      have split : beforeComment (first :: rest) = first :: beforeComment rest := by
        rw [beforeComment]
        exact apart
      rw [split]
      change beforeComment (upperCharacter first ++ upper rest) =
        upperCharacter first ++ upper (beforeComment rest)
      by_cases slash : first = '/'
      · subst slash
        change beforeComment ('/' :: upper rest) = '/' :: upper (beforeComment rest)
        rw [beforeComment]
        · rw [previous]
        · intro others _ shape
          cases rest with
          | nil => contradiction
          | cons second behind =>
              obtain ⟨capital, more, made⟩ :=
                List.exists_cons_of_ne_nil (Text.upperCharacter_ne_nil second)
              rw [upper, List.flatMap_cons, made] at shape
              have second_eq : second = '/' := by
                apply Text.eq_slash_of_mem_upperCharacter
                rw [made, (List.cons.inj shape).1]
                exact List.mem_cons_self
              exact apart behind rfl (congrArg (· :: behind) second_eq)
      · have clean : '/' ∉ upperCharacter first :=
          fun inside => slash (Text.eq_slash_of_mem_upperCharacter inside)
        rw [beforeComment_append clean, previous]

/-! ### Lines -/

/-- A text that is left as it is when a source is cut into program lines. -/
structure IsProgramLine (line : List Char) : Prop where
  nonempty : line ≠ []
  unbroken : Unbroken line
  uncommented : beforeComment line = line
  trimmed : trim line = line

theorem isProgramLine_of_mem {source line : List Char} (among : line ∈ programLines source) :
    IsProgramLine line := by
  obtain ⟨present, kept⟩ := List.mem_filter.mp among
  obtain ⟨raw, listed, rfl⟩ := List.mem_map.mp present
  have inside : trim (beforeComment raw) <:+: beforeComment raw := Text.trimWith_infix _ _
  have unbroken := Text.unbroken_of_mem_lines listed
  constructor
  · intro empty
    rw [empty] at kept
    contradiction
  · intro character member
    exact unbroken character ((beforeComment_prefix_self raw).subset (inside.subset member))
  · exact beforeComment_of_infix inside
      ((beforeComment_eq_self_iff _).mpr (not_infix_beforeComment raw))
  · exact Text.trimWith_trimWith _ _

/-- The source that has given program lines is these lines joined by line feeds. -/
theorem programLines_intercalate {program : List (List Char)}
    (each : ∀ line ∈ program, IsProgramLine line) :
    programLines (List.intercalate ['\n'] program) = program := by
  have cut : lines (List.intercalate ['\n'] program) = program :=
    Text.lines_intercalate fun line among => ⟨(each line among).unbroken, (each line among).nonempty⟩
  have same : (program.map fun line => trim (beforeComment line)) = program := by
    rw [List.map_congr_left fun line among => show trim (beforeComment line) = id line by
      rw [(each line among).uncommented, (each line among).trimmed, id], List.map_id]
  rw [programLines, cut, same, List.filter_eq_self]
  intro line among
  rw [List.isEmpty_eq_false_iff.mpr (each line among).nonempty]
  rfl

end Accumulator.Assembly
