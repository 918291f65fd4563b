import Accumulator.Proofs.Machine.Unchecked

set_option autoImplicit false

/-!
Registries in use. Whatever is asked of a registry, its table only grows at the end, and not at all
once it is frozen, so what a name was registered for first is what it stands for. Decoding answers
none but the names that the table starts with, so no further entry changes what a cell means.
-/

namespace Accumulator

namespace Registry

inductive Request
  | register (name : String) (primitive : Primitive)
  | freeze
  | execute (record : Record) (call : Call)

/-- The registry after a request. An execution looks up a primitive and changes nothing. -/
def after (registry : Registry) : Request → Registry
  | .register name primitive => (registry.register name primitive).1
  | .freeze => registry.freeze
  | .execute _ _ => registry

def afterAll (registry : Registry) (requests : List Request) : Registry :=
  requests.foldl after registry

/-! ### Registrations -/

section Register

variable {registry : Registry} {name : String}

theorem register_of_frozen (frozen : registry.frozen = true) (primitive : Primitive) :
    registry.register name primitive = (registry, .error .frozen) := by
  rw [register, if_pos frozen]

theorem register_of_present (thawed : registry.frozen = false) {old : Primitive}
    (present : registry.find? name = some old) (primitive : Primitive) :
    registry.register name primitive = (registry, .error (.alreadyRegistered name)) := by
  rw [register, if_neg (Bool.eq_false_iff.mp thawed), present]

theorem register_of_absent (thawed : registry.frozen = false)
    (absent : registry.find? name = none) (primitive : Primitive) :
    registry.register name primitive =
      ({ registry with entries := registry.entries ++ [(name, primitive)] }, .ok ()) := by
  rw [register, if_neg (Bool.eq_false_iff.mp thawed), absent]

/-- A registration is refused by a frozen registry and for a name that is taken, or it adds an
entry. -/
theorem register_cases (registry : Registry) (name : String) (primitive : Primitive) :
    (∃ fault, registry.register name primitive = (registry, .error fault)) ∨
      registry.frozen = false ∧ registry.find? name = none ∧
        registry.register name primitive =
          ({ registry with entries := registry.entries ++ [(name, primitive)] }, .ok ()) := by
  by_cases frozen : registry.frozen = true
  · exact .inl ⟨_, register_of_frozen frozen primitive⟩
  · have thawed : registry.frozen = false := Bool.eq_false_iff.mpr frozen
    cases found : registry.find? name with
    | some old => exact .inl ⟨_, register_of_present thawed found primitive⟩
    | none => exact .inr ⟨thawed, rfl, register_of_absent thawed found primitive⟩

/-- A registration that fails leaves the registry as it was. -/
theorem register_of_fault {primitive : Primitive} {fault : Fault}
    (refused : (registry.register name primitive).2 = .error fault) :
    (registry.register name primitive).1 = registry := by
  rcases registry.register_cases name primitive with ⟨_, kept⟩ | ⟨_, _, taken⟩
  · rw [kept]
  · rw [taken] at refused
    contradiction

/-- A new entry is found by its name alone. -/
theorem find?_append (absent : registry.find? name = none) (primitive : Primitive)
    (other : String) :
    ({ registry with entries := registry.entries ++ [(name, primitive)] } : Registry).find? other =
      if other = name then some primitive else registry.find? other := by
  change (registry.entries ++ [(name, primitive)]).lookup other = _
  rw [List.lookup_append]
  by_cases same : other = name
  · subst same
    have unlisted : registry.entries.lookup other = none := absent
    rw [unlisted, if_pos rfl, List.lookup_cons_self]
    rfl
  · have unlike : (other == name) = false := beq_false_of_ne same
    rw [if_neg same, List.lookup_cons, unlike]
    exact Option.or_none

end Register

/-! ### Growth -/

/-- The table of the one is the beginning of the table of the other. If the first is frozen, nothing
is behind it. -/
structure Extends (earlier later : Registry) : Prop where
  entries : earlier.entries <+: later.entries
  closed : earlier.frozen = true → later = earlier

theorem Extends.refl (registry : Registry) : registry.Extends registry where
  entries := List.prefix_refl registry.entries
  closed _ := rfl

theorem Extends.trans {earlier middle later : Registry} (first : earlier.Extends middle)
    (second : middle.Extends later) : earlier.Extends later where
  entries := first.entries.trans second.entries
  closed frozen := by
    have same := first.closed frozen
    rw [← same] at frozen
    rw [second.closed frozen, same]

theorem Extends.find? {earlier later : Registry} (extended : earlier.Extends later)
    {name : String} {primitive : Primitive} (present : earlier.find? name = some primitive) :
    later.find? name = some primitive := by
  obtain ⟨grown, entries⟩ := extended.entries
  have listed : earlier.entries.lookup name = some primitive := present
  rw [Registry.find?, ← entries, List.lookup_append, listed]
  rfl

/-- One request. -/
theorem extends_after (registry : Registry) (request : Request) :
    registry.Extends (registry.after request) := by
  cases request with
  | register name primitive =>
      change registry.Extends (registry.register name primitive).1
      rcases registry.register_cases name primitive with ⟨_, kept⟩ | ⟨thawed, _, taken⟩
      · rw [kept]
        exact .refl registry
      · rw [taken]
        refine ⟨List.prefix_append _ _, ?_⟩
        intro closed
        rw [thawed] at closed
        contradiction
  | freeze =>
      refine ⟨List.prefix_refl _, ?_⟩
      intro frozen
      rw [after, freeze, ← frozen]
  | execute record call => exact .refl registry

theorem extends_afterAll (registry : Registry) (requests : List Request) :
    registry.Extends (registry.afterAll requests) := by
  induction requests generalizing registry with
  | nil => exact .refl registry
  | cons request rest previous =>
      exact (registry.extends_after request).trans (previous (registry.after request))

/-! ### Execution -/

/-- The registry has the primitive of every opcode under its name. -/
def Covers [Provision] (registry : Registry) : Prop :=
  ∀ opcode : Opcode, registry.find? opcode.name = some opcode.primitive

section Covers

variable {registry : Registry}

/-- What a cell is decoded to is executed as by the registry that machines share. -/
theorem Covers.execute_eq [Provision] (covers : registry.Covers) (record : Record) (cell : Cell) :
    registry.execute record (decode cell).toCall =
      standard.execute record (decode cell).toCall := by
  have found : registry.find? (decode cell).toCall.name =
      some (decode cell).operation.opcode.primitive := covers _
  have shared : standard.find? (decode cell).toCall.name =
      some (decode cell).operation.opcode.primitive := find?_standard _
  rw [execute, execute, found, shared]

theorem Covers.step_eq [Provision] (covers : registry.Covers) (record : Record) :
    registry.step record = standard.step record := by
  have completed : registry.complete record = standard.complete record := by
    simp only [complete, covers.execute_eq]
  unfold step
  rw [completed]

theorem Covers.steps_eq [Provision] (covers : registry.Covers) (count : Nat) (record : Record) :
    registry.steps count record = standard.steps count record := by
  induction count generalizing record with
  | zero => rfl
  | succ count previous =>
      unfold steps
      rw [covers.step_eq]
      cases standard.step record with
      | error fault => rfl
      | ok made =>
          dsimp only
          rw [previous]

end Covers

/-- Whatever was asked of a registry, frozen from the start or not: a name keeps its primitive, a
registration is refused when the registry is frozen or has the name already and otherwise adds just
that name, a frozen registry stays the same, and whatever a cell is decoded to is executed as by
the registry that machines share, so that every machine runs alike. -/
theorem table_grows_until_it_is_frozen [Provision] (frozen : Bool) (requests : List Request) :
    let registry := ({ standard with frozen := frozen } : Registry).afterAll requests
    (∀ (later : List Request) (name : String) (primitive : Primitive),
      registry.find? name = some primitive →
        (registry.afterAll later).find? name = some primitive) ∧
    (∀ (name : String) (primitive : Primitive),
      (registry.frozen = true →
        (registry.register name primitive).2 = .error .frozen) ∧
      (registry.frozen = false → (registry.find? name).isSome = true →
        (registry.register name primitive).2 = .error (.alreadyRegistered name)) ∧
      (registry.frozen = false → registry.find? name = none →
        ∃ grown, registry.register name primitive = (grown, .ok ()) ∧ grown.frozen = false ∧
          ∀ other, grown.find? other =
            if other = name then some primitive else registry.find? other) ∧
      ∀ fault, (registry.register name primitive).2 = .error fault →
        (registry.register name primitive).1 = registry) ∧
    (registry.frozen = true → ∀ later, registry.afterAll later = registry) ∧
    (∀ (record : Record) (cell : Cell),
      registry.execute record (decode cell).toCall =
        standard.execute record (decode cell).toCall) ∧
    (∀ (state : State) (cell : Cell), state.size < Numeral.decimalBound →
      registry.execute (Record.ofState state) (decode cell).toCall =
        .ok (Record.ofState (state.execute (decode cell)), (state.report (decode cell)).line)) ∧
    ∀ (count : Nat) (record : Record),
      registry.steps count record = standard.steps count record := by
  intro registry
  have covers : registry.Covers := by
    intro opcode
    exact (extends_afterAll _ requests).find? (find?_standard opcode)
  refine ⟨?_, ?_, ?_, covers.execute_eq, ?_, covers.steps_eq⟩
  · intro later name primitive present
    exact (registry.extends_afterAll later).find? present
  · intro name primitive
    refine ⟨?_, ?_, ?_, fun _ refused => register_of_fault refused⟩
    · intro closed
      rw [register_of_frozen closed]
    · intro thawed present
      obtain ⟨old, found⟩ := Option.isSome_iff_exists.mp present
      rw [register_of_present thawed found]
    · intro thawed absent
      exact ⟨_, register_of_absent thawed absent primitive, thawed,
        find?_append absent primitive⟩
  · intro closed later
    exact (registry.extends_afterAll later).closed closed
  · intro state cell room
    rw [covers.execute_eq, execute_ofState state room]

section

open scoped Provision

/-- A thawed registry does not take another `LOAD`, but an entry of its own; once it is frozen, that
entry stays and no other follows. -/
theorem thawed_registry_takes_one_entry :
    let idle : Primitive := fun record _ => .ok (record, "idle")
    let thawed := ({ standard with frozen := false } : Registry)
    let requests : List Request :=
      [.register "LOAD" idle, .register "SLEEP" idle,
        .execute (Record.ofState (State.initial [])) (decode (.text "LOAD 3")).toCall, .freeze]
    let closed := thawed.afterAll requests
    (thawed.register "LOAD" idle).2 = .error (.alreadyRegistered "LOAD") ∧
      (∃ grown, thawed.register "SLEEP" idle = (grown, .ok ()) ∧
        grown.find? "SLEEP" = some idle) ∧
      (closed.register "load" idle).2 = .error .frozen ∧
      (∀ later, closed.afterAll later = closed) ∧
      (closed.afterAll [.register "SLEEP" Opcode.halt.primitive]).find? "SLEEP" = some idle ∧
      closed.execute (Record.ofState (State.initial [.int 7])) (decode (.text " load 3")).toCall =
        .ok (Record.ofState ((State.initial [.int 7]).execute (decode (.text " load 3"))),
          ((State.initial [.int 7]).report (decode (.text " load 3"))).line) := by
  intro idle thawed requests closed
  obtain ⟨_, adds, _, _, _, _⟩ := table_grows_until_it_is_frozen false []
  obtain ⟨kept, shut, unchanged, _, executes, _⟩ := table_grows_until_it_is_frozen false requests
  obtain ⟨_, present, _, _⟩ := adds "LOAD" idle
  obtain ⟨_, _, absent, _⟩ := adds "SLEEP" idle
  obtain ⟨refused, _, _, _⟩ := shut "load" idle
  obtain ⟨grown, taken, _, finds⟩ := absent rfl rfl
  have found : closed.find? "SLEEP" = some idle := rfl
  have room : (State.initial [.int 7]).size < Numeral.decimalBound := by decide +kernel
  exact ⟨present rfl rfl, ⟨grown, taken, finds "SLEEP"⟩, refused rfl, unchanged rfl,
    kept _ "SLEEP" idle found, executes _ _ room⟩

end

end Registry

end Accumulator
