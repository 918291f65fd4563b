import Accumulator.Assembly.Image
import Accumulator.Proofs.Assembly.ProgramLine
import Accumulator.Proofs.Fallible

set_option autoImplicit false

/-!
Program lines as a normal form of source text. A source that is continued on a new line is continued
with further program lines, whatever the first part ends with. The lines of a program are stripped,
and stripped lines are a program of their own, so a source and the listing of its program lines come
to the same image.
-/

namespace Accumulator.Assembly

open Text (isBlank isLineBreak lines trim)

/-- A line with something in it, without a blank at either end, a comment or a line break. -/
structure Stripped (line : List Char) : Prop where
  opens : ∃ first ∈ line.head?, isBlank first = false
  closes : ∃ last ∈ line.getLast?, isBlank last = false
  uncommented : ¬['/', '/'] <:+: line
  unbroken : ∀ character ∈ line, isLineBreak character = false

theorem isProgramLine_iff_stripped (line : List Char) : IsProgramLine line ↔ Stripped line := by
  constructor
  · rintro ⟨nonempty, unbroken, uncommented, trimmed⟩
    obtain ⟨opens, closes⟩ := (Text.trim_eq_self_iff line).mp trimmed
    have first := List.head?_eq_some_head nonempty
    have last := List.getLast?_eq_some_getLast nonempty
    exact ⟨⟨_, first, opens _ first⟩, ⟨_, last, closes _ last⟩,
      (beforeComment_eq_self_iff line).mp uncommented, unbroken⟩
  · rintro ⟨⟨first, opening, opens⟩, ⟨last, closing, closes⟩, uncommented, unbroken⟩
    refine ⟨?_, unbroken, (beforeComment_eq_self_iff line).mpr uncommented,
      (Text.trim_eq_self_iff line).mpr ⟨?_, ?_⟩⟩
    · rintro rfl
      exact absurd opening (Option.not_mem_none first)
    · intro other same
      rw [Option.mem_unique same opening, opens]
    · intro other same
      rw [Option.mem_unique same closing, closes]

theorem programLines_append_newline (first second : List Char) :
    programLines (first ++ '\n' :: second) = programLines first ++ programLines second := by
  obtain ⟨gap, shape, cut⟩ := Text.exists_gap_of_newline first second
  have dropped : (gap.map fun line => trim (beforeComment line)).filter (!·.isEmpty) = [] := by
    rcases shape with rfl | rfl <;> rfl
  unfold programLines
  rw [cut, List.map_append, List.map_append, List.filter_append, List.filter_append, dropped,
    List.nil_append]

/-- A program as source text, one line to a program line. -/
def printed (program : List (List Char)) : String :=
  "\n".intercalate (program.map String.ofList)

theorem toList_printed (program : List (List Char)) :
    (printed program).toList = List.intercalate ['\n'] program := by
  have same : String.toList ∘ String.ofList = id := funext fun _ => String.toList_ofList
  rw [printed, String.toList_intercalate, List.map_map, same, List.map_id]
  rfl

theorem stripped_iff_programLines_printed (program : List (List Char)) :
    (∀ line ∈ program, Stripped line) ↔ programLines (printed program).toList = program := by
  rw [toList_printed]
  constructor
  · intro stripped
    exact programLines_intercalate fun line among =>
      (isProgramLine_iff_stripped line).mpr (stripped line among)
  · intro fixed line among
    rw [← fixed] at among
    exact (isProgramLine_iff_stripped line).mp (isProgramLine_of_mem among)

theorem stripped_of_mem {source line : List Char} (among : line ∈ programLines source) :
    Stripped line :=
  (isProgramLine_iff_stripped line).mp (isProgramLine_of_mem among)

/-- Program lines are a normal form. They go over a line feed between two texts, they are stripped,
the lists of stripped lines are the programs that are read back from their listing, and a source is
assembled like the listing of its program. -/
theorem program_lines_are_a_normal_form [Provision] :
    (∀ first second : String, programLines (first ++ "\n" ++ second).toList =
      programLines first.toList ++ programLines second.toList) ∧
    (∀ source : String, ∀ line ∈ programLines source.toList, Stripped line) ∧
    (∀ program : List (List Char), (∀ line ∈ program, Stripped line) ↔
      programLines (printed program).toList = program) ∧
    ∀ source : String,
      let listed := printed (programLines source.toList)
      programLines listed.toList = programLines source.toList ∧
        ∀ (bindings : Bindings) (memorySize : Int),
          assemble listed bindings memorySize = assemble source bindings memorySize := by
  refine ⟨?_, fun source line among => stripped_of_mem among, stripped_iff_programLines_printed, ?_⟩
  · intro first second
    rw [String.toList_append, String.toList_append, List.append_assoc]
    exact programLines_append_newline first.toList second.toList
  · intro source listed
    have fixed : programLines listed.toList = programLines source.toList :=
      (stripped_iff_programLines_printed _).mp fun line among => stripped_of_mem among
    refine ⟨fixed, fun bindings memorySize => ?_⟩
    rw [assemble, fixed, assemble]

section

open scoped Provision

/-- A first part that ends in a comment and a carriage return, and a second one with a line
separator, a slash alone, a next-line control and a file separator. -/
theorem parts_of_a_source_are_listed_together :
    let first := "  LOAD X // X\r"
    let second := "\u2028OUT / 2\u0085//\x1c\tHLT "
    let program := ["LOAD X".toList, "OUT / 2".toList, "HLT".toList]
    programLines (first ++ "\n" ++ second).toList = program ∧
      (∀ line ∈ program, Stripped line) ∧ printed program = "LOAD X\nOUT / 2\nHLT" ∧
      programLines (printed program).toList = program ∧
      ∃ image, assemble (first ++ "\n" ++ second) [("X", .int 7)] 8 = .ok image ∧
        assemble (printed program) [("X", .int 7)] 8 = .ok image ∧
        image.take 3 = [.text "LOAD 7", .text "OUT 0", .text "HLT"] := by
  intro first second program
  obtain ⟨appended, stripped, normal, same⟩ := program_lines_are_a_normal_form
  have lines : programLines (first ++ "\n" ++ second).toList = program := by
    rw [appended first second]
    decide +kernel
  have each : ∀ line ∈ program, Stripped line := by
    rw [← lines]
    exact stripped (first ++ "\n" ++ second)
  have cells : (assemble (printed program) [("X", .int 7)] 8).toOption.map (·.take 3) =
      some [.text "LOAD 7", .text "OUT 0", .text "HLT"] := by
    decide +kernel
  obtain ⟨image, made, taken⟩ := Option.map_eq_some_iff.mp cells
  have assembled := (same (first ++ "\n" ++ second)).2 [("X", .int 7)] 8
  rw [lines, eq_ok_of_toOption made] at assembled
  exact ⟨lines, each, by decide +kernel, (normal program).mp each, image, assembled.symm,
    eq_ok_of_toOption made, taken⟩

end

end Accumulator.Assembly
