import Accumulator.Proofs.CommandLine.Argument

set_option autoImplicit false

/-!
The arguments around a source. A command line names its program in a file or as a text. Arguments
that name neither are taken in the same way whatever the source is, so the same arguments around two
sources come to the same options, and to the same refusal where they are refused. Behind a separator
no source is named at all, and the refusal tells what stands there.
-/

namespace Accumulator.CommandLine

def Parameter.isSource : Parameter → Bool
  | .program => true
  | .inline => true
  | _ => false

/-- An argument that names neither of the two sources. -/
def Argument.Sourceless (argument : Argument) : Prop :=
  ∀ parameter ∈ argument.parameters, parameter.isSource = false

/-! ### Arguments that name no source -/

def Options.withSource (options : Options) (program inline : String) : Options :=
  { options with program := program, inline := inline }

def Progress.withSource (progress : Progress) (program inline : String) : Progress :=
  { progress with options := progress.options.withSource program inline }

section Sourceless

variable (program inline : String)

theorem Options.raise_withSource (options : Options) (flag : Parameter) :
    (options.withSource program inline).raise flag =
      (·.withSource program inline) <$> options.raise flag := by
  cases flag <;> rfl

theorem Options.assign_withSource (options : Options) {parameter : Parameter}
    (other : parameter.isSource = false) (value : String) :
    (options.withSource program inline).assign parameter value =
      (·.withSource program inline) <$> options.assign parameter value := by
  unfold assign
  split
  · cases parameter with
    | program => contradiction
    | inline => contradiction
    | _ => rfl
  · unfold read
    cases parameter with
    | program => contradiction
    | inline => contradiction
    | level => cases levelValue .level value <;> rfl
    | x => cases integerValue .x value <;> rfl
    | y => cases integerValue .y value <;> rfl
    | z => cases integerValue .z value <;> rfl
    | memorySize => cases integerValue .memorySize value <;> rfl
    | stepLimit => cases integerValue .stepLimit value <;> rfl
    | _ => rfl

theorem Options.foldlM_raise_withSource (options : Options) (flags : List Parameter) :
    flags.foldlM raise (options.withSource program inline) =
      (·.withSource program inline) <$> flags.foldlM raise options := by
  induction flags generalizing options with
  | nil => rfl
  | cons flag rest previous =>
      rw [List.foldlM_cons, List.foldlM_cons, raise_withSource, bind_map_left, map_bind]
      exact bind_congr previous

namespace Progress

theorem raiseAll_withSource (progress : Progress) (flags : List Parameter) :
    (progress.withSource program inline).raiseAll flags =
      (·.withSource program inline) <$> progress.raiseAll flags := by
  change (flags.foldlM Options.raise (progress.options.withSource program inline) >>= _) = _
  rw [Options.foldlM_raise_withSource, bind_map_left, raiseAll, map_bind]
  rfl

theorem obey_withSource (progress : Progress) {order : Order}
    (sourceless : ∀ parameter ∈ order.parameters, parameter.isSource = false) :
    (progress.withSource program inline).obey order =
      (·.withSource program inline) <$> progress.obey order := by
  cases order with
  | leave argument => rfl
  | raise flags => exact progress.raiseAll_withSource program inline flags
  | give flags last value =>
      rw [obey, obey, raiseAll_withSource, bind_map_left, map_bind]
      apply bind_congr
      intro raised
      change ((raised.options.withSource program inline).assign last value >>= _) = _
      have other := sourceless last (List.mem_append_right flags List.mem_cons_self)
      rw [Options.assign_withSource program inline _ other, bind_map_left, assign, map_bind]
      rfl

theorem take_withSource {arguments : List Argument}
    (sourceless : ∀ argument ∈ arguments, argument.Sourceless) (progress : Progress) :
    (progress.withSource program inline).take arguments =
      (·.withSource program inline) <$> progress.take arguments := by
  induction arguments using suffix_induction generalizing progress with
  | nil => rfl
  | cons argument rest previous =>
      rw [take_cons, take_cons, map_bind]
      cases told : argument.order rest with
      | error refusal => rfl
      | ok result =>
          obtain ⟨order, left⟩ := result
          obtain ⟨suffix, about⟩ := Argument.of_order told
          have others : ∀ later ∈ left, later.Sourceless := fun later among =>
            sourceless later (List.mem_cons_of_mem argument (suffix.mem among))
          have first : ∀ parameter ∈ order.parameters, parameter.isSource = false := by
            rw [about]
            exact sourceless argument List.mem_cons_self
          change (_ >>= fun reached : Progress => reached.take left) =
            _ <$> (progress.obey order >>= fun reached => reached.take left)
          rw [obey_withSource program inline progress first, bind_map_left, map_bind]
          exact bind_congr fun reached => previous left suffix others reached

end Progress

end Sourceless

/-! ### Arguments around a source -/

/-- Arguments are taken in two goes if the second one does not begin with a value. -/
theorem Progress.take_append (before : List Argument) {next : Argument}
    (named : ∀ text, next ≠ .plain text) (after : List Argument) (progress : Progress) :
    progress.take (before ++ next :: after) =
      (progress.take before >>= fun reached => reached.take (next :: after)) := by
  induction before using suffix_induction generalizing progress with
  | nil => rfl
  | cons argument rest previous =>
      rw [List.cons_append, take_cons, take_cons, Argument.order_append named, bind_map_left,
        bind_assoc]
      cases told : argument.order rest with
      | error refusal => rfl
      | ok result =>
          obtain ⟨order, left⟩ := result
          change (progress.obey order >>= _) = ((progress.obey order >>= _) >>= _)
          rw [bind_assoc]
          exact bind_congr fun reached => previous left (Argument.of_order told).1 reached

/-- The arguments name one source and nothing else. -/
structure Selects (spelled : List String) (program inline : String) : Prop where
  unseparated : separator ∉ spelled
  unambiguous : (spelled.map Argument.ofText).findSome? Argument.ambiguity? = none
  begins : ∃ next values, spelled.map Argument.ofText = next :: values ∧
    ∀ text, next ≠ .plain text
  taken : ∀ (progress : Progress) (after : List Argument),
    (progress.withSource "" "").take (spelled.map Argument.ofText ++ after) =
      (progress.withSource program inline).take after
  present : (program.isEmpty && inline.isEmpty) = false

/-- What is made of the arguments before a source and after it. -/
def takeAround (before after : List Argument) : Except Refusal Progress := do
  (← ({} : Progress).take before).take after

theorem take_around {spelled : List String} {program inline : String}
    (selects : Selects spelled program inline) {before after : List Argument}
    (sourceless : ∀ argument ∈ before ++ after, argument.Sourceless) :
    ({} : Progress).take (before ++ spelled.map Argument.ofText ++ after) =
      (·.withSource program inline) <$> takeAround before after := by
  have first : ∀ argument ∈ before, argument.Sourceless := fun argument among =>
    sourceless argument (List.mem_append_left after among)
  have second : ∀ argument ∈ after, argument.Sourceless := fun argument among =>
    sourceless argument (List.mem_append_right before among)
  obtain ⟨next, values, forms, named⟩ := selects.begins
  have unset : ({} : Progress).take before =
      (·.withSource "" "") <$> ({} : Progress).take before :=
    Progress.take_withSource "" "" first {}
  -- No source is set before this one, so setting it replaces nothing.
  rw [forms, List.append_assoc, List.cons_append, Progress.take_append before named, unset,
    bind_map_left, takeAround, map_bind]
  apply bind_congr
  intro reached
  rw [← List.cons_append, ← forms, selects.taken]
  exact Progress.take_withSource program inline second reached

theorem splitSeparator_append {before : List String} (unseparated : separator ∉ before)
    (after : List String) :
    splitSeparator (before ++ after) =
      (before ++ (splitSeparator after).1, (splitSeparator after).2) := by
  have kept : ∀ argument ∈ before, (argument != separator) = true := by
    intro argument among
    exact bne_iff_ne.mpr fun same => unseparated (same ▸ among)
  unfold splitSeparator
  rw [List.takeWhile_append_of_pos kept, List.dropWhile_append_of_pos kept]

theorem splitSeparator_separator (after : List String) :
    splitSeparator (separator :: after) = ([], separator :: after) := by
  unfold splitSeparator
  rw [List.takeWhile_cons, List.dropWhile_cons, bne_self_eq_false]
  rfl

theorem parseOptions_eq {arguments given separated : List String}
    (parted : splitSeparator arguments = (given, separated)) :
    parseOptions arguments =
      match (given.map Argument.ofText).findSome? Argument.ambiguity? with
      | some error => .error (.usage error)
      | none => ({} : Progress).take (given.map Argument.ofText) >>= (·.conclude separated) := by
  cases parted
  rfl

/-- A separator ends the arguments. Those before it are refused, or else it is refused itself with
all that follows. -/
theorem refused_of_separator {before : List String} (unseparated : separator ∉ before) :
    (∃ refusal, ∀ after, parseOptions (before ++ separator :: after) = .error refusal) ∨
      ∃ unused, ∀ after, parseOptions (before ++ separator :: after) =
        .error (.usage (.unrecognized (unused ++ separator :: after))) := by
  have parted (after : List String) :
      splitSeparator (before ++ separator :: after) = (before, separator :: after) := by
    rw [splitSeparator_append unseparated, splitSeparator_separator, List.append_nil]
  have ended (progress : Progress) (after : List String) :
      progress.conclude (separator :: after) =
        .error (.usage (.unrecognized (progress.unused ++ separator :: after))) := by
    have filled : (progress.unused ++ separator :: after).isEmpty = false :=
      List.isEmpty_eq_false_iff.mpr (List.append_ne_nil_of_right_ne_nil _ (List.cons_ne_nil _ _))
    unfold Progress.conclude
    dsimp only
    rw [filled]
    rfl
  have equation (after : List String) := parseOptions_eq (parted after)
  cases ambiguous : (before.map Argument.ofText).findSome? Argument.ambiguity? with
  | some error =>
      rw [ambiguous] at equation
      exact .inl ⟨.usage error, equation⟩
  | none =>
      rw [ambiguous] at equation
      cases taken : ({} : Progress).take (before.map Argument.ofText) with
      | error refusal =>
          rw [taken] at equation
          exact .inl ⟨refusal, equation⟩
      | ok progress =>
          rw [taken] at equation
          exact .inr ⟨progress.unused, fun after => (equation after).trans (ended progress after)⟩

/-- The options, unless something is left, without asking for a source. -/
def Progress.settle (progress : Progress) (separated : List String) : Except Refusal Options :=
  let unused := progress.unused ++ separated
  if !unused.isEmpty then .error (.usage (.unrecognized unused)) else .ok progress.options

theorem conclude_withSource {spelled : List String} {program inline : String}
    (selects : Selects spelled program inline) (separated : List String) (progress : Progress) :
    (progress.withSource program inline).conclude separated =
      (·.withSource program inline) <$> progress.settle separated := by
  unfold Progress.settle Progress.conclude
  change (if !(progress.unused ++ separated).isEmpty then _
    else if program.isEmpty && inline.isEmpty then _ else _) = _
  rw [selects.present, if_neg Bool.false_ne_true]
  dsimp only
  split <;> rfl

theorem ambiguity_around {spelled : List String} {program inline : String}
    (selects : Selects spelled program inline) (first second : List Argument) :
    (first ++ spelled.map Argument.ofText ++ second).findSome? Argument.ambiguity? =
      (first ++ second).findSome? Argument.ambiguity? := by
  rw [List.findSome?_append, List.findSome?_append, List.findSome?_append, selects.unambiguous,
    Option.or_none]

/-- The arguments around a source come to the same options for every source, unless a separator
stands before it. -/
theorem parseOptions_around {before after : List String}
    (sourceless : ∀ argument ∈ before ++ after, (Argument.ofText argument).Sourceless) :
    (∃ common : Except Refusal Options, ∀ spelled program inline,
      Selects spelled program inline →
        parseOptions (before ++ spelled ++ after) = (·.withSource program inline) <$> common) ∨
      separator ∈ before ∧ ∃ unused, ∀ spelled, parseOptions (before ++ spelled ++ after) =
        .error (.usage (.unrecognized (unused ++ spelled ++ after))) := by
  by_cases early : separator ∈ before
  · obtain ⟨first, rest, rfl, unseparated⟩ := List.eq_append_cons_of_mem early
    have parted (spelled : List String) :
        first ++ separator :: rest ++ spelled ++ after =
          first ++ separator :: (rest ++ spelled ++ after) := by
      rw [List.append_assoc, List.append_assoc, List.cons_append, ← List.append_assoc rest]
    rcases refused_of_separator unseparated with ⟨refusal, refused⟩ | ⟨unused, refused⟩
    · refine .inl ⟨.error refusal, ?_⟩
      intro spelled program inline _
      rw [parted, refused]
      rfl
    · refine .inr ⟨early, unused ++ separator :: rest, ?_⟩
      intro spelled
      rw [parted, refused, List.append_assoc unused, List.append_assoc unused, List.cons_append,
        List.cons_append, List.append_assoc rest]
  · left
    let given := (splitSeparator after).1
    let separated := (splitSeparator after).2
    let first := before.map Argument.ofText
    let second := given.map Argument.ofText
    have unnamed : ∀ argument ∈ first ++ second, argument.Sourceless := by
      intro argument among
      rw [← List.map_append] at among
      obtain ⟨text, inside, rfl⟩ := List.mem_map.mp among
      have kept : given.Sublist after := List.takeWhile_sublist _
      exact sourceless text (((List.Sublist.refl before).append kept).mem inside)
    refine ⟨match (first ++ second).findSome? Argument.ambiguity? with
      | some error => .error (.usage error)
      | none => takeAround first second >>= (·.settle separated), ?_⟩
    intro spelled program inline selects
    have unseparated : separator ∉ before ++ spelled := by
      rw [List.mem_append]
      rintro (inside | inside)
      · exact early inside
      · exact selects.unseparated inside
    have forms : (before ++ spelled ++ given).map Argument.ofText =
        first ++ spelled.map Argument.ofText ++ second := by
      rw [List.map_append, List.map_append]
    rw [parseOptions_eq (splitSeparator_append unseparated after), forms,
      ambiguity_around selects]
    split
    · rfl
    · rw [take_around selects unnamed, bind_map_left, map_bind]
      exact bind_congr (conclude_withSource selects separated)

/-! ### Spellings of a source -/

/-- No spelling holds an equals sign. -/
theorem ofSpelling?_of_equals {text : List Char} (equals : '=' ∈ text) :
    Parameter.ofSpelling? text = none := by
  have plain : ∀ known ∈ Parameter.spellings, '=' ∉ known.1.toList := by decide
  unfold Parameter.ofSpelling?
  rw [List.lookup_eq_none_iff]
  intro known among
  rw [bne_iff_ne]
  intro same
  apply plain known among
  rw [← same, String.toList_ofList]
  exact equals

theorem splitEquals_append {spelling : List Char} (plain : '=' ∉ spelling) (value : List Char) :
    Argument.splitEquals (spelling ++ '=' :: value) = (spelling, some value) := by
  induction spelling with
  | nil => rfl
  | cons first rest previous =>
      have other : first ≠ '=' := fun same => plain (same ▸ List.mem_cons_self)
      rw [List.cons_append, Argument.splitEquals,
        previous fun inside => plain (List.mem_cons_of_mem first inside)]
      exact other

/-- A long spelling with its value attached. -/
theorem ofText_attached {spelling : String} {parameter : Parameter}
    (long : ['-', '-'].isPrefixOf spelling.toList = true) (plain : '=' ∉ spelling.toList)
    (known : Parameter.ofSpelling? spelling.toList = some parameter) (value : String) :
    Argument.ofText (spelling ++ "=" ++ value) = .named parameter false (some value.toList) := by
  have text : (spelling ++ "=" ++ value).toList = spelling.toList ++ '=' :: value.toList := by
    rw [String.toList_append, String.toList_append, List.append_assoc]
    rfl
  obtain ⟨tail, dashes⟩ := List.isPrefixOf_iff_prefix.mp long
  have unknown := @ofSpelling?_of_equals (spelling.toList ++ '=' :: value.toList)
    (List.mem_append_right _ List.mem_cons_self)
  unfold Argument.ofText
  dsimp only
  rw [text, unknown, splitEquals_append plain]
  dsimp only
  rw [known, ← dashes]
  rfl

/-- A value attached to a parameter is given to it. -/
theorem take_attached {parameter : Parameter} (takes : parameter.takesValue = true)
    (progress : Progress) (value : String) (after : List Argument) :
    progress.take (.named parameter false (some value.toList) :: after) =
      (progress.assign parameter value >>= (·.take after)) := by
  have cluster : Cluster.ofNamed parameter false (some value.toList) =
      .ok { flags := [], last := parameter, value? := some value } := by
    have whole : String.ofList value.toList = value := String.ofList_toList
    rw [Cluster.ofNamed, takes, Bool.true_or, if_pos rfl]
    cases letters : value.toList with
    | nil =>
        rw [letters] at whole
        rw [Cluster.ofLetters, if_pos takes, ← whole]
    | cons letter rest =>
        rw [letters] at whole
        unfold Cluster.ofLetters
        rw [if_pos takes, whole]
  rw [Progress.take, cluster]
  rfl

/-- So is a value in the next argument. -/
theorem take_next {parameter : Parameter} (takes : parameter.takesValue = true)
    (progress : Progress) (value : String) (after : List Argument) :
    progress.take (.named parameter false none :: .plain value :: after) =
      (progress.assign parameter value >>= (·.take after)) := by
  rw [Progress.take]
  change (if parameter.takesValue = true then _ else _) = _
  rw [if_pos takes]
  rfl

theorem Progress.assign_of_ne_separator {value : String} (given : value ≠ separator)
    (progress : Progress) (parameter : Parameter) :
    progress.assign parameter value =
      ({ progress with options := · }) <$> progress.options.read parameter value := by
  rw [Progress.assign, Options.assign, if_neg given]
  cases progress.options.read parameter value <;> rfl

theorem selects_attached {spelling value program inline : String} {parameter : Parameter}
    (long : ['-', '-'].isPrefixOf spelling.toList = true) (plain : '=' ∉ spelling.toList)
    (known : Parameter.ofSpelling? spelling.toList = some parameter)
    (takes : parameter.takesValue = true)
    (assigned : ∀ progress : Progress, (progress.withSource "" "").assign parameter value =
      .ok (progress.withSource program inline))
    (present : (program.isEmpty && inline.isEmpty) = false) :
    Selects [spelling ++ "=" ++ value] program inline := by
  have form := ofText_attached long plain known value
  have equals : '=' ∈ (spelling ++ "=" ++ value).toList := by
    rw [String.toList_append, String.toList_append]
    exact List.mem_append_left _ (List.mem_append_right _ List.mem_cons_self)
  refine ⟨?_, ?_, ⟨_, [], congrArg (· :: []) form, nofun⟩, ?_, present⟩
  · intro among
    rw [← List.mem_singleton.mp among] at equals
    contradiction
  · rw [List.map_singleton, form]
    rfl
  · intro progress after
    rw [List.map_singleton, form, List.singleton_append, take_attached takes, assigned]
    rfl

theorem isEmpty_of_ne {text : String} (nonempty : text ≠ "") : text.isEmpty = false :=
  Bool.eq_false_iff.mpr fun empty => nonempty (String.isEmpty_iff.mp empty)

theorem selects_inline {inline : String} (nonempty : inline ≠ "") (given : inline ≠ separator) :
    Selects ["--inline=" ++ inline] "" inline := by
  apply @selects_attached "--inline" inline "" inline .inline
  · decide
  · decide
  · decide
  · rfl
  · intro progress
    rw [Progress.assign_of_ne_separator given]
    rfl
  · rw [isEmpty_of_ne nonempty, Bool.and_false]

/-- A file is named by one argument, or by two if its name cannot be taken for a parameter. -/
theorem selects_program {name : String} (nonempty : name ≠ "") (given : name ≠ separator)
    {spelled : List String}
    (spells : spelled = ["--program=" ++ name] ∨
      spelled = ["--program", name] ∧ Argument.ofText name = .plain name) :
    Selects spelled name "" := by
  have present : (name.isEmpty && "".isEmpty) = false := by
    rw [isEmpty_of_ne nonempty, Bool.false_and]
  rcases spells with rfl | ⟨rfl, plain⟩
  · apply @selects_attached "--program" name name "" .program
    · decide
    · decide
    · decide
    · rfl
    · intro progress
      rw [Progress.assign_of_ne_separator given]
      rfl
    · exact present
  · have form : ["--program", name].map Argument.ofText =
        [.named .program false none, .plain name] := by
      rw [List.map_cons, List.map_singleton, plain]
      rfl
    refine ⟨?_, ?_, ⟨_, _, form, nofun⟩, ?_, present⟩
    · intro among
      rcases List.mem_cons.mp among with first | second
      · exact absurd first (by decide)
      · exact given (List.mem_singleton.mp second).symm
    · rw [form]
      rfl
    · intro progress after
      rw [form, List.cons_append, List.singleton_append, take_next rfl,
        Progress.assign_of_ne_separator given]
      rfl

end Accumulator.CommandLine
