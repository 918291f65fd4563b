import Accumulator.Assembly.Variable
import Accumulator.Proofs.Text.Capital

set_option autoImplicit false

/-!
The letters of the variables. Six words name a variable, a capital and a small one for each, and no
text beyond ASCII does. What a variable is worth is in the last binding under one of its letters.
-/

namespace Accumulator.Assembly

open Text (upper)

/-- The variable that a word is the letter of. -/
def letterOf? : List Char → Option Variable
  | ['X'] => some .x
  | ['x'] => some .x
  | ['Y'] => some .y
  | ['y'] => some .y
  | ['Z'] => some .z
  | ['z'] => some .z
  | _ => none

theorem Variable.eq_of_index_eq {left right : Variable} (same : left.index = right.index) :
    left = right := by
  revert same
  cases left <;> cases right <;> decide

/-- The number in the last binding of a variable, zero if it has none. -/
def boundValue (bindings : Bindings) (letter : Variable) : Int :=
  match bindings.reverse.find? fun binding => letterOf? binding.1.toList == some letter with
  | some binding => binding.2.word
  | none => 0

private theorem ofWord?_of_letterOf? {word : List Char} {letter : Variable}
    (named : letterOf? word = some letter) : Variable.ofWord? word = some letter := by
  unfold letterOf? at named
  split at named
  case h_7 => contradiction
  all_goals
    rw [← named]
    decide

private theorem letterOf?_of_ofWord? {word : List Char} {letter : Variable}
    (named : Variable.ofWord? word = some letter) : letterOf? word = some letter := by
  have same : (letter.name == String.ofList (upper word)) = true :=
    @List.find?_some Variable _ letter Variable.all named
  have spelt : upper word = letter.name.toList := by
    rw [eq_of_beq same, String.toList_ofList]
  cases letter
  case x =>
    rcases Text.eq_last_of_upper_eq (by decide) (by decide) spelt with rfl | rfl <;> rfl
  case y =>
    rcases Text.eq_last_of_upper_eq (by decide) (by decide) spelt with rfl | rfl <;> rfl
  case z =>
    rcases Text.eq_last_of_upper_eq (by decide) (by decide) spelt with rfl | rfl <;> rfl

theorem ofWord?_eq_letterOf? (word : List Char) : Variable.ofWord? word = letterOf? word := by
  apply Option.ext
  intro letter
  exact ⟨letterOf?_of_ofWord?, ofWord?_of_letterOf?⟩

def Valuation.bound (valuation : Valuation) (binding : String × Cell) : Valuation :=
  match letterOf? binding.1.toList with
  | some letter => valuation.set letter binding.2.word
  | none => valuation

private theorem valuation_eq_foldl (bindings : Bindings) :
    bindings.valuation = bindings.foldl Valuation.bound {} := by
  unfold Bindings.valuation
  congr 1
  funext valuation ⟨name, cell⟩
  dsimp only
  rw [ofWord?_eq_letterOf?]
  rfl

theorem ofWord?_name (letter : Variable) : Variable.ofWord? letter.name.toList = some letter := by
  cases letter <;> decide +kernel

/-- Of all bindings the last one counts, so it can be made by itself. -/
theorem valuation_append_name (bindings : Bindings) (letter : Variable) (value : Int) :
    Bindings.valuation (bindings ++ [(letter.name, .int value)]) =
      bindings.valuation.set letter value := by
  unfold Bindings.valuation
  rw [List.foldl_append, List.foldl_cons, List.foldl_nil]
  dsimp only
  rw [ofWord?_name]
  rfl

theorem get_set (valuation : Valuation) (written letter : Variable) (value : Int) :
    (valuation.set written value).get letter =
      if written = letter then value else valuation.get letter := by
  cases written <;> cases letter <;> rfl

private theorem get_bound (valuation : Valuation) (binding : String × Cell) (letter : Variable) :
    (valuation.bound binding).get letter =
      if letterOf? binding.1.toList = some letter then binding.2.word
      else valuation.get letter := by
  unfold Valuation.bound
  cases letterOf? binding.1.toList with
  | none => rfl
  | some written =>
      dsimp only
      rw [get_set]
      simp only [Option.some.injEq]

/-- Folding in the bindings leaves the number of the last one, or what was there before. -/
private theorem get_foldl (bindings : Bindings) (start : Valuation) (letter : Variable) :
    (bindings.foldl Valuation.bound start).get letter =
      match bindings.reverse.find? fun binding => letterOf? binding.1.toList == some letter with
      | some binding => binding.2.word
      | none => start.get letter := by
  induction bindings generalizing start with
  | nil => rfl
  | cons binding rest previous =>
      -- The first binding comes last in the reversed list: it counts if no later one is found.
      rw [List.foldl_cons, previous, List.reverse_cons, List.find?_append]
      cases rest.reverse.find? fun binding => letterOf? binding.1.toList == some letter with
      | some later => rfl
      | none =>
          rw [Option.none_or, get_bound]
          by_cases named : letterOf? binding.1.toList = some letter <;> simp [named]

theorem get_valuation (bindings : Bindings) (letter : Variable) :
    bindings.valuation.get letter = boundValue bindings letter := by
  rw [valuation_eq_foldl, get_foldl]
  cases letter <;> rfl

end Accumulator.Assembly
