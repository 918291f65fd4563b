import Accumulator.Assembly.Source
import Mathlib.Data.List.Basic
import Mathlib.Data.List.TakeWhile

set_option autoImplicit false

/-!
Words and blanks. The words of a text are found on either side of any blank in it, and a text
without blanks is one word and is left alone by trimming. What trimming leaves starts with a
visible character, so a program line always has a first word.
-/

namespace Accumulator

namespace Text

def Visible (text : List Char) : Prop :=
  ∀ character ∈ text, isBlank character = false

instance (text : List Char) : Decidable (Visible text) :=
  decidable_of_iff (text.all fun character => !isBlank character) (by simp [Visible])

theorem visible_cons {first : Char} (opens : isBlank first = false) {rest : List Char}
    (visible : Visible rest) : Visible (first :: rest) :=
  List.forall_mem_cons.mpr ⟨opens, visible⟩

theorem Visible.append {left right : List Char} (opens : Visible left) (closes : Visible right) :
    Visible (left ++ right) :=
  List.forall_mem_append.mpr ⟨opens, closes⟩

theorem visible_of_mem_words {text word : List Char} (among : word ∈ words text) : Visible word :=
  fun _ inside => visible_of_mem_word among inside

private theorem pieces_append_blank {blank : Char} (separator : isBlank blank = true)
    (left right : List Char) :
    pieces (left ++ blank :: right) = pieces left ++ pieces right := by
  induction left with
  | nil =>
      change pieces (blank :: right) = [] :: pieces right
      rw [pieces, if_pos separator]
  | cons character rest previous =>
      rw [List.cons_append, pieces, pieces, previous]
      split
      · rfl
      · obtain ⟨head, others, shape⟩ := List.exists_cons_of_ne_nil (pieces_ne_nil rest)
        rw [shape]
        rfl

private theorem pieces_of_visible {word : List Char} (visible : Visible word) :
    pieces word = [word] := by
  induction word with
  | nil => rfl
  | cons character rest previous =>
      have first : isBlank character = false := visible character List.mem_cons_self
      have others : Visible rest := fun other inside =>
        visible other (List.mem_cons_of_mem character inside)
      rw [pieces, if_neg (Bool.eq_false_iff.mp first), previous others]
      rfl

theorem words_append_blank {blank : Char} (separator : isBlank blank = true)
    (left right : List Char) :
    words (left ++ blank :: right) = words left ++ words right := by
  rw [words, pieces_append_blank separator, List.filter_append]
  rfl

theorem words_of_visible {word : List Char} (visible : Visible word) (nonempty : word ≠ []) :
    words word = [word] := by
  have kept : word.isEmpty = false := List.isEmpty_eq_false_iff.mpr nonempty
  rw [words, pieces_of_visible visible]
  simp [kept]

theorem words_pair {first second : List Char} (firstVisible : Visible first)
    (firstNonempty : first ≠ []) (secondVisible : Visible second) (secondNonempty : second ≠ []) :
    words (first ++ ' ' :: second) = [first, second] := by
  have blank : isBlank ' ' = true := by decide
  rw [words_append_blank blank, words_of_visible firstVisible firstNonempty,
    words_of_visible secondVisible secondNonempty]
  rfl

theorem words_ne_nil_of_visible_mem {text : List Char} {character : Char}
    (inside : character ∈ text) (visible : isBlank character = false) : words text ≠ [] := by
  induction text with
  | nil => contradiction
  | cons first rest previous =>
      by_cases blank : isBlank first = true
      · rcases List.mem_cons.mp inside with same | later
        · rw [same, blank] at visible
          contradiction
        · have split := words_append_blank blank [] rest
          rw [List.nil_append] at split
          rw [split]
          exact List.append_ne_nil_of_right_ne_nil _ (previous later)
      · obtain ⟨head, others, shape⟩ := List.exists_cons_of_ne_nil (pieces_ne_nil rest)
        rw [words, pieces, if_neg blank, shape]
        exact List.cons_ne_nil (first :: head) _

/-! ### Trimming -/

private theorem dropWhile_of_none {removable : Char → Bool} {text : List Char}
    (kept : ∀ character ∈ text, removable character = false) :
    text.dropWhile removable = text := by
  cases text with
  | nil => rfl
  | cons first rest =>
      exact List.dropWhile_cons_of_neg (Bool.eq_false_iff.mp (kept first List.mem_cons_self))

theorem trimWith_of_none {removable : Char → Bool} {text : List Char}
    (kept : ∀ character ∈ text, removable character = false) :
    trimWith removable text = text := by
  have reversed : ∀ character ∈ text.reverse, removable character = false :=
    fun character inside => kept character (List.mem_reverse.mp inside)
  rw [trimWith, dropWhile_of_none kept, dropWhile_of_none reversed, List.reverse_reverse]

theorem trim_of_visible {text : List Char} (visible : Visible text) : trim text = text :=
  trimWith_of_none visible

/-- Trimming a text leaves a part without removable characters, and what stands before that part is
removed if it is made of them. -/
theorem exists_trimWith_append {removable : Char → Bool} {margin opening : List Char}
    (removed : ∀ character ∈ margin, removable character = true) (nonempty : opening ≠ [])
    (kept : ∀ character ∈ opening, removable character = false) (rest : List Char) :
    ∃ tail, trimWith removable (margin ++ (opening ++ rest)) = opening ++ tail := by
  obtain ⟨first, others, rfl⟩ := List.exists_cons_of_ne_nil nonempty
  have left : ((first :: others) ++ rest).dropWhile removable = (first :: others) ++ rest :=
    List.dropWhile_cons_of_neg (Bool.eq_false_iff.mp (kept first List.mem_cons_self))
  have right : (first :: others).reverse.dropWhile removable = (first :: others).reverse :=
    dropWhile_of_none fun character inside => kept character (List.mem_reverse.mp inside)
  unfold trimWith
  rw [List.dropWhile_append_of_pos removed, left, List.reverse_append, List.dropWhile_append, right]
  split
  · refine ⟨[], ?_⟩
    rw [List.reverse_reverse, List.append_nil]
  · refine ⟨(rest.reverse.dropWhile removable).reverse, ?_⟩
    rw [List.reverse_append, List.reverse_reverse]

/-- What is removable around a text makes no difference to what trimming leaves of it. -/
theorem trimWith_append_append {removable : Char → Bool} {left right : List Char}
    (opening : ∀ character ∈ left, removable character = true)
    (closing : ∀ character ∈ right, removable character = true) (text : List Char) :
    trimWith removable (left ++ (text ++ right)) = trimWith removable text := by
  unfold trimWith
  rw [List.dropWhile_append_of_pos opening, List.dropWhile_append]
  split
  · next empty => rw [List.isEmpty_iff.mp empty, List.dropWhile_eq_nil_iff.mpr closing]
  · rw [List.reverse_append, List.dropWhile_append_of_pos]
    exact fun character inside => closing character (List.mem_reverse.mp inside)

private theorem trimWith_prefix_dropWhile (removable : Char → Bool) (text : List Char) :
    trimWith removable text <+: text.dropWhile removable := by
  rw [← List.reverse_suffix, trimWith, List.reverse_reverse]
  exact List.dropWhile_suffix removable

theorem trimWith_infix (removable : Char → Bool) (text : List Char) :
    trimWith removable text <:+: text :=
  (trimWith_prefix_dropWhile removable text).isInfix.trans (List.dropWhile_suffix removable).isInfix

private theorem dropWhile_of_opening {removable : Char → Bool} {part text : List Char}
    (opening : part <+: text.dropWhile removable) : part.dropWhile removable = part := by
  obtain ⟨behind, whole⟩ := opening
  cases part with
  | nil => rfl
  | cons first rest =>
      have kept := List.head?_dropWhile_not removable text
      rw [← whole] at kept
      exact List.dropWhile_cons_of_neg (Bool.eq_false_iff.mp kept)

theorem trimWith_trimWith (removable : Char → Bool) (text : List Char) :
    trimWith removable (trimWith removable text) = trimWith removable text := by
  rw [trimWith, dropWhile_of_opening (trimWith_prefix_dropWhile removable text)]
  unfold trimWith
  rw [List.reverse_reverse, dropWhile_of_opening (List.prefix_refl _)]

private theorem kept_of_head?_dropWhile {removable : Char → Bool} {text : List Char}
    {first : Char} (opening : (text.dropWhile removable).head? = some first) :
    removable first = false := by
  have kept := List.head?_dropWhile_not removable text
  rw [opening] at kept
  exact kept

/-- A text is left alone by trimming if and only if it neither starts nor ends with a blank. -/
theorem trim_eq_self_iff (text : List Char) :
    trim text = text ↔ (∀ first ∈ text.head?, isBlank first = false) ∧
      ∀ last ∈ text.getLast?, isBlank last = false := by
  constructor
  · intro trimmed
    obtain ⟨behind, whole⟩ := trimWith_prefix_dropWhile isBlank text
    rw [← trim, trimmed] at whole
    constructor
    · intro first opening
      apply kept_of_head?_dropWhile
      rw [← whole, List.head?_append, show text.head? = some first from opening, Option.some_or]
    · intro last closing
      apply kept_of_head?_dropWhile
      rw [← List.getLast?_reverse, ← trimWith, ← trim, trimmed]
      exact closing
  · rintro ⟨opens, closes⟩
    have left : text.dropWhile isBlank = text := by
      cases text with
      | nil => rfl
      | cons first rest =>
          exact List.dropWhile_cons_of_neg (Bool.eq_false_iff.mp (opens first rfl))
    have right : text.reverse.dropWhile isBlank = text.reverse := by
      cases shape : text.reverse with
      | nil => rfl
      | cons last rest =>
          refine List.dropWhile_cons_of_neg (Bool.eq_false_iff.mp (closes last ?_))
          rw [← List.head?_reverse, shape]
          rfl
    rw [trim, trimWith, left, right, List.reverse_reverse]

/-- A text that starts and ends with a visible part is left alone by trimming. -/
theorem trim_of_visible_ends {left right : List Char} (leftVisible : Visible left)
    (leftNonempty : left ≠ []) (middle : List Char) (rightVisible : Visible right)
    (rightNonempty : right ≠ []) : trim (left ++ (middle ++ right)) = left ++ (middle ++ right) := by
  rw [trim_eq_self_iff]
  constructor
  · intro first opening
    rw [List.head?_append_of_ne_nil left leftNonempty] at opening
    exact leftVisible first (List.mem_of_mem_head? opening)
  · intro last closing
    rw [← List.append_assoc, List.getLast?_append_of_ne_nil _ rightNonempty] at closing
    exact rightVisible last (List.mem_of_getLast? closing)

private theorem exists_append_of_pieces {text head : List Char} {others : List (List Char)}
    (cut : pieces text = head :: others) : ∃ rest, text = head ++ rest := by
  induction text generalizing head others with
  | nil =>
      rw [← (List.cons.inj cut).1]
      exact ⟨[], rfl⟩
  | cons first rest previous =>
      rw [pieces] at cut
      split at cut
      · rw [← (List.cons.inj cut).1]
        exact ⟨first :: rest, rfl⟩
      · obtain ⟨piece, later, shape⟩ := List.exists_cons_of_ne_nil (pieces_ne_nil rest)
        obtain ⟨behind, split⟩ := previous shape
        rw [shape, List.modifyHead_cons] at cut
        rw [← (List.cons.inj cut).1]
        exact ⟨behind, congrArg (first :: ·) split⟩

/-- The first word of a text stands behind blanks only. -/
theorem exists_append_of_words {text word : List Char} {others : List (List Char)}
    (parted : words text = word :: others) :
    ∃ margin rest, text = margin ++ (word ++ rest) ∧
      ∀ character ∈ margin, isBlank character = true := by
  induction text with
  | nil => contradiction
  | cons first rest previous =>
      by_cases blank : isBlank first = true
      · have split := words_append_blank blank [] rest
        rw [List.nil_append, parted] at split
        obtain ⟨margin, behind, shape, blanks⟩ := previous split.symm
        refine ⟨first :: margin, behind, congrArg (first :: ·) shape, ?_⟩
        intro character inside
        rcases List.mem_cons.mp inside with rfl | later
        · exact blank
        · exact blanks character later
      · obtain ⟨head, later, shape⟩ := List.exists_cons_of_ne_nil (pieces_ne_nil rest)
        obtain ⟨behind, split⟩ := exists_append_of_pieces shape
        rw [words, pieces, if_neg blank, shape] at parted
        rw [← (List.cons.inj parted).1]
        refine ⟨[], behind, congrArg (first :: ·) split, ?_⟩
        intro character inside
        contradiction

/-- The first word of a text is visible and not empty. -/
theorem visible_of_words {text word : List Char} {others : List (List Char)}
    (parted : words text = word :: others) : Visible word ∧ word ≠ [] := by
  have member : word ∈ words text := by
    rw [parted]
    exact List.mem_cons_self
  exact ⟨visible_of_mem_words member, word_ne_nil member⟩

theorem exists_trim_of_words {text word : List Char} {others : List (List Char)}
    (parted : words text = word :: others) : ∃ tail, trim text = word ++ tail := by
  obtain ⟨visible, nonempty⟩ := visible_of_words parted
  obtain ⟨margin, rest, shape, blanks⟩ := exists_append_of_words parted
  rw [shape]
  exact exists_trimWith_append blanks nonempty visible rest

/-- A text with words in it is not blank. -/
theorem isEmpty_trim_of_words {text word : List Char} {others : List (List Char)}
    (parted : words text = word :: others) : (trim text).isEmpty = false := by
  obtain ⟨tail, trimmed⟩ := exists_trim_of_words parted
  rw [trimmed, List.isEmpty_eq_false_iff]
  exact List.append_ne_nil_of_left_ne_nil (visible_of_words parted).2 tail

/-- What trimming leaves of a text ends with a visible character. -/
theorem exists_visible_mem_trim {text : List Char} (nonempty : trim text ≠ []) :
    ∃ character ∈ trim text, isBlank character = false := by
  have remains : (text.dropWhile isBlank).reverse.dropWhile isBlank ≠ [] := by
    intro empty
    exact nonempty (by rw [trim, trimWith, empty, List.reverse_nil])
  refine ⟨_, List.mem_reverse.mpr (List.head_mem remains), ?_⟩
  exact List.head_dropWhile_not isBlank remains

end Text

namespace Assembly

open Text (words)

theorem words_programLine_ne_nil {source line : List Char} (among : line ∈ programLines source) :
    words line ≠ [] := by
  obtain ⟨present, kept⟩ := List.mem_filter.mp among
  obtain ⟨raw, _, trimmed⟩ := List.mem_map.mp present
  have nonempty : Text.trim (beforeComment raw) ≠ [] := by
    intro empty
    rw [← trimmed, empty] at kept
    contradiction
  obtain ⟨character, inside, visible⟩ := Text.exists_visible_mem_trim nonempty
  rw [← trimmed]
  exact Text.words_ne_nil_of_visible_mem inside visible

end Assembly

end Accumulator
