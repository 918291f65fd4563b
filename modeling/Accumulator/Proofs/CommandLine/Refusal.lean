import Accumulator.Proofs.CommandLine.Argument
import Mathlib.Data.List.TakeWhile

set_option autoImplicit false

/-!
Refused command lines. The error that is told is one that the command line has: the parameter it is
about can have such an error, the value it quotes cannot be read, and the arguments it quotes are
there.
-/

namespace Accumulator.CommandLine

/-! ### Errors that a command line has -/

/-- What an error says of a command line. -/
def UsageError.Applies (arguments : List String) : UsageError → Prop
  | .ambiguous argument spellings =>
    argument ∈ arguments ∧ 2 ≤ spellings.length ∧
      ∀ spelling, spelling ∈ spellings ↔
        (Argument.splitEquals argument.toList).1 <+: spelling.toList ∧
          ∃ parameter, (spelling, parameter) ∈ Parameter.spellings
  | .expectedValue parameter => parameter.takesValue = true
  | .invalidInteger parameter value =>
    parameter.takesValue = true ∧ Numeral.decimalLiteral? value.toList = none
  | .invalidLevel parameter value => parameter = .level ∧ Level.ofName? value = none
  | .ignoredValue parameter _ => parameter.takesValue = false
  | .unrecognized texts => texts ≠ [] ∧ texts ⊆ arguments
  | .noProgram => separator ∉ arguments

/-- A step of reading a command line that comes to a value with a property, or to an error that the
command line has. -/
def Explained {Value : Type} (arguments : List String) (property : Value → Prop) :
    Except Refusal Value → Prop
  | .ok value => property value
  | .error .help => True
  | .error (.usage error) => error.Applies arguments

namespace Explained

variable {First Second : Type} {arguments : List String}

theorem bind {property : First → Prop} {result : Second → Prop} {made : Except Refusal First}
    {rest : First → Except Refusal Second} (explained : Explained arguments property made)
    (goes : ∀ value, property value → Explained arguments result (rest value)) :
    Explained arguments result (made >>= rest) := by
  rcases made with (_ | error) | value
  · exact explained
  · exact explained
  · exact goes value explained

theorem map {property : First → Prop} {result : Second → Prop} {made : Except Refusal First}
    {change : First → Second} (explained : Explained arguments property made)
    (goes : ∀ value, property value → result (change value)) :
    Explained arguments result (made.map change) := by
  rcases made with (_ | error) | value
  · exact explained
  · exact explained
  · exact goes value explained

end Explained

/-! ### Arguments and their texts -/

namespace Argument

/-- The text of an argument that names no parameter. -/
def text? : Argument → Option String
  | .plain text => some text
  | .unknown text => some text
  | .ambiguous text _ => some text
  | .named _ _ _ => none

theorem text?_ofCompound {text : List Char} {own : String}
    (held : (ofCompound text).text? = some own) : own = String.ofList text := by
  unfold ofCompound at held
  dsimp only at held
  repeat' split at held
  all_goals cases held
  all_goals rfl

theorem text?_ofText {argument own : String} (held : (ofText argument).text? = some own) :
    own = argument := by
  have whole : String.ofList argument.toList = argument := String.ofList_toList
  unfold ofText at held
  dsimp only at held
  repeat' split at held
  all_goals first
    | exact (Option.some.inj held).symm
    | contradiction
    | exact (text?_ofCompound held).trans whole

theorem mem_withLongStart_iff (start : List Char) (spelling : String) :
    spelling ∈ (Parameter.withLongStart start).map Prod.fst ↔
      start <+: spelling.toList ∧ ∃ parameter, (spelling, parameter) ∈ Parameter.spellings := by
  rw [List.mem_map]
  constructor
  · rintro ⟨⟨_, parameter⟩, among, rfl⟩
    obtain ⟨listed, begins⟩ := List.mem_filter.mp among
    exact ⟨List.isPrefixOf_iff_prefix.mp begins, parameter, listed⟩
  · rintro ⟨begins, parameter, listed⟩
    exact ⟨_, List.mem_filter.mpr ⟨listed, List.isPrefixOf_iff_prefix.mpr begins⟩, rfl⟩

theorem spellings_of_ofCompound {text : List Char} {own : String} {spellings : List String}
    (form : ofCompound text = .ambiguous own spellings) :
    2 ≤ spellings.length ∧
      spellings = (Parameter.withLongStart (splitEquals text).1).map Prod.fst := by
  unfold ofCompound at form
  dsimp only at form
  split at form
  · split at form
    · split at form
      · contradiction
      · contradiction
    · contradiction
    · next several nonempty single =>
        cases form
        refine ⟨?_, rfl⟩
        rw [List.length_map]
        rcases listed : Parameter.withLongStart _ with _ | ⟨first, _ | ⟨second, rest⟩⟩
        · exact absurd listed nonempty
        · exact absurd listed (single first.1 first.2)
        · exact Nat.le_add_left 2 rest.length
  · repeat' split at form
    all_goals contradiction
  · split at form
    · contradiction
    · contradiction

/-- An ambiguous argument is the beginning of several spellings. -/
theorem spellings_of_ambiguous {argument text : String} {spellings : List String}
    (form : ofText argument = .ambiguous text spellings) :
    2 ≤ spellings.length ∧
      spellings = (Parameter.withLongStart (splitEquals argument.toList).1).map Prod.fst := by
  unfold ofText at form
  dsimp only at form
  repeat' split at form
  all_goals first
    | contradiction
    | exact spellings_of_ofCompound form

end Argument

/-! ### The steps of reading -/

section Steps

variable (arguments : List String)

theorem explained_raise (options : Options) (flag : Parameter) :
    Explained arguments (fun _ => True) (options.raise flag) := by
  cases flag with
  | help => exact trivial
  | trace => exact trivial
  | quiet => exact trivial
  | _ => rfl

theorem explained_foldlM_raise (options : Options) (flags : List Parameter) :
    Explained arguments (fun _ => True) (flags.foldlM Options.raise options) := by
  induction flags generalizing options with
  | nil => exact trivial
  | cons flag rest previous =>
      exact (explained_raise arguments options flag).bind fun changed _ => previous changed

theorem explained_integerValue {parameter : Parameter} (takes : parameter.takesValue = true)
    (value : String) :
    Explained arguments (fun _ => True) (Options.integerValue parameter value) := by
  unfold Options.integerValue
  split
  · exact trivial
  · next unread => exact ⟨takes, unread⟩

theorem explained_levelValue (value : String) :
    Explained arguments (fun _ => True) (Options.levelValue .level value) := by
  unfold Options.levelValue
  split
  · exact trivial
  · next unread => exact ⟨rfl, unread⟩

theorem explained_assign (options : Options) (parameter : Parameter) (value : String) :
    Explained arguments (fun _ => True) (options.assign parameter value) := by
  unfold Options.assign
  split
  · cases parameter with
    | help => rfl
    | trace => rfl
    | quiet => rfl
    | _ => exact trivial
  · have number {other : Parameter} (takes : other.takesValue = true)
        (change : Int → Options) :
        Explained arguments (fun _ => True) ((Options.integerValue other value).map change) :=
      (explained_integerValue arguments takes value).map fun _ _ => trivial
    cases parameter with
    | program => exact trivial
    | inline => exact trivial
    | level => exact (explained_levelValue arguments value).map fun _ _ => trivial
    | help => rfl
    | trace => rfl
    | quiet => rfl
    | _ => exact number rfl _

theorem explained_ofLetters (letters : List Char) (parameter : Parameter) :
    Explained arguments (fun _ => True) (Cluster.ofLetters letters parameter) := by
  induction letters generalizing parameter with
  | nil =>
      unfold Cluster.ofLetters
      split
      · exact trivial
      · next flag => exact Bool.eq_false_iff.mpr flag
  | cons letter rest previous =>
      unfold Cluster.ofLetters
      split
      · exact trivial
      · next flag =>
          split
          · exact Bool.eq_false_iff.mpr flag
          · exact trivial
          · next next _ _ => exact (previous next).map fun _ _ => trivial

theorem explained_ofNamed (parameter : Parameter) (short : Bool)
    (attached? : Option (List Char)) :
    Explained arguments (fun _ => True) (Cluster.ofNamed parameter short attached?) := by
  cases attached? with
  | none => exact trivial
  | some attached =>
      rw [Cluster.ofNamed]
      split
      · exact explained_ofLetters arguments attached parameter
      · next unused =>
          rw [Bool.or_eq_true, not_or] at unused
          exact Bool.eq_false_iff.mpr unused.1

/-- An argument that an order leaves unused is one of the command line. -/
def Order.LeavesFrom (order : Order) : Prop :=
  ∀ argument, order = .leave argument → argument ∈ arguments

theorem explained_order {argument : String} (among : argument ∈ arguments)
    (rest : List Argument) :
    Explained arguments (fun told => told.1.LeavesFrom arguments ∧ told.2 <:+ rest)
      ((Argument.ofText argument).order rest) := by
  cases form : Argument.ofText argument with
  | plain text =>
      obtain rfl := Argument.text?_ofText (congrArg Argument.text? form)
      refine ⟨?_, List.suffix_rfl⟩
      intro left same
      cases same
      exact among
  | unknown text =>
      obtain rfl := Argument.text?_ofText (congrArg Argument.text? form)
      refine ⟨?_, List.suffix_rfl⟩
      intro left same
      cases same
      exact among
  | ambiguous text spellings =>
      obtain rfl := Argument.text?_ofText (congrArg Argument.text? form)
      obtain ⟨several, rfl⟩ := Argument.spellings_of_ambiguous form
      exact ⟨among, several, Argument.mem_withLongStart_iff _⟩
  | named parameter short attached? =>
      refine (explained_ofNamed arguments parameter short attached?).bind ?_
      rintro ⟨flags, last, _ | value⟩ _
      · dsimp only
        split
        · rcases rest with _ | ⟨_ | _ | _ | _, later⟩
          case cons.plain value => exact ⟨nofun, List.suffix_cons _ _⟩
          all_goals assumption
        · exact ⟨nofun, List.suffix_rfl⟩
      · exact ⟨nofun, List.suffix_rfl⟩

theorem explained_obey {progress : Progress} (unused : progress.unused ⊆ arguments)
    {order : Order} (leaves : order.LeavesFrom arguments) :
    Explained arguments (fun reached => reached.unused ⊆ arguments) (progress.obey order) := by
  have raised (flags : List Parameter) :
      Explained arguments (fun reached : Progress => reached.unused ⊆ arguments)
        (progress.raiseAll flags) :=
    (explained_foldlM_raise arguments progress.options flags).bind fun _ _ => unused
  cases order with
  | leave argument =>
      intro text among
      rcases List.mem_append.mp among with old | new
      · exact unused old
      · rw [List.mem_singleton.mp new]
        exact leaves argument rfl
  | raise flags => exact raised flags
  | give flags last value =>
      refine (raised flags).bind ?_
      intro reached kept
      exact (explained_assign arguments reached.options last value).bind fun _ _ => kept

theorem explained_take {given : List String} (among : given ⊆ arguments) {progress : Progress}
    (unused : progress.unused ⊆ arguments) :
    Explained arguments (fun final => final.unused ⊆ arguments)
      (progress.take (given.map Argument.ofText)) := by
  induction given using suffix_induction generalizing progress with
  | nil => exact unused
  | cons argument rest previous =>
      obtain ⟨own, others⟩ := List.cons_subset.mp among
      rw [List.map_cons, Progress.take_cons]
      refine (explained_order arguments own _).bind ?_
      rintro ⟨order, left⟩ ⟨leaves, suffix⟩
      refine (explained_obey arguments unused leaves).bind ?_
      intro reached kept
      obtain ⟨taken, parts⟩ := suffix
      obtain ⟨first, later, rfl, _, rfl⟩ := List.map_eq_append_iff.mp parts.symm
      have inside : later ⊆ arguments := fun _ held => others (List.mem_append_right first held)
      exact previous later (List.suffix_append first later) inside kept

theorem explained_conclude {progress : Progress} (unused : progress.unused ⊆ arguments)
    {given separated : List String} (parted : splitSeparator arguments = (given, separated)) :
    Explained arguments (fun _ => True) (progress.conclude separated) := by
  cases parted
  unfold Progress.conclude
  dsimp only
  split
  · next filled =>
      refine ⟨?_, ?_⟩
      · intro empty
        rw [empty] at filled
        contradiction
      · exact List.append_subset.mpr ⟨unused, (List.dropWhile_sublist _).subset⟩
  · next empty =>
      split
      · intro among
        rw [Bool.not_eq_true', Bool.not_eq_false, List.isEmpty_iff] at empty
        have passed := List.dropWhile_eq_nil_iff.mp (List.append_eq_nil_iff.mp empty).2
        exact bne_iff_ne.mp (passed separator among) rfl
      · exact trivial

theorem explained_parseOptions :
    Explained arguments (fun _ => True) (parseOptions arguments) := by
  have kept : arguments.takeWhile (· != separator) ⊆ arguments :=
    (List.takeWhile_sublist _).subset
  unfold parseOptions splitSeparator
  dsimp only
  split
  · next error ambiguous =>
      obtain ⟨form, among, known⟩ := List.exists_of_findSome?_eq_some ambiguous
      obtain ⟨argument, inside, rfl⟩ := List.mem_map.mp among
      have told := explained_order arguments (kept inside) []
      cases form : Argument.ofText argument with
      | ambiguous text spellings =>
          rw [form] at known told
          cases known
          exact told
      | _ =>
          rw [form] at known
          contradiction
  · refine (explained_take arguments kept (List.nil_subset _)).bind ?_
    intro progress unused
    exact explained_conclude arguments unused rfl

end Steps

/-- The error that refuses a command line is one that the command line has. -/
theorem refused_for_an_error_that_applies {arguments : List String} {error : UsageError}
    (refused : parseOptions arguments = .error (.usage error)) : error.Applies arguments := by
  have explained := explained_parseOptions arguments
  rw [refused] at explained
  exact explained

/-- All spellings of a parameter are told, and the value is quoted. -/
example : (UsageError.ignoredValue .trace "it\x27s").message =
    "argument --trace/-t: ignored explicit argument \"it\x27s\"" := by
  decide +kernel

end Accumulator.CommandLine
