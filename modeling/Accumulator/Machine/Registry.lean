import Accumulator.Machine.Record

set_option autoImplicit false

/-!
The registry: a table from opcode names to the primitives that execute them. It starts with one
primitive for every opcode. Until it is frozen it accepts further names; an entry is never removed
or replaced.
-/

namespace Accumulator

/-- The effect of a call on a record, with a description of it. -/
abbrev Primitive := Record → Call → Except Fault (Record × String)

def Opcode.primitive [Provision] (opcode : Opcode) : Primitive := fun record call => do
  let (changed, event) ← Record.perform opcode record call
  let line ← event.checkedLine
  pure (changed, line)

structure Registry where
  entries : List (String × Primitive)
  frozen : Bool

namespace Registry

/-- The table that machines share: every opcode, and closed. -/
def standard [Provision] : Registry :=
  { entries := Opcode.all.map fun opcode => (opcode.name, opcode.primitive)
    frozen := true }

def find? (registry : Registry) (name : String) : Option Primitive :=
  registry.entries.lookup name

/-- The registry after a registration, and whether it was refused. -/
def register (registry : Registry) (name : String) (primitive : Primitive) :
    Registry × Except Fault Unit :=
  if registry.frozen then (registry, .error .frozen)
  else
    match registry.find? name with
    | some _ => (registry, .error (.alreadyRegistered name))
    | none => ({ registry with entries := registry.entries ++ [(name, primitive)] }, .ok ())

def freeze (registry : Registry) : Registry :=
  { registry with frozen := true }

def thaw (registry : Registry) : Registry :=
  { registry with frozen := false }

def names (registry : Registry) : List String :=
  (registry.entries.map Prod.fst).mergeSort fun left right => left ≤ right

/-- Executes a call by the primitive of its name and counts a cycle. -/
def execute (registry : Registry) (record : Record) (call : Call) :
    Except Fault (Record × String) :=
  match registry.find? call.name with
  | none => .error (.unknownOpcode call.name)
  | some primitive => do
    let (changed, description) ← primitive record call
    pure (changed.completeCycle, description)

def fetch (record : Record) : Except Fault (Record × String) := do
  let item := (← record.read record.pc).latch
  let pc ← Record.written record.pc
  let cell ← item.shown
  pure ({ record with ir := item, phase := .known .fetch }, (Event.fetched pc cell).line)

def decodeOnly (record : Record) : Except Fault (Record × String) := do
  let cell ← record.ir.decodable
  pure ({ record with phase := .known .decode }, (Event.decoded (decode cell).toCall).line)

def complete (registry : Registry) (record : Record) : Except Fault (Record × String) := do
  let cell ← record.ir.decodable
  let (changed, description) ← registry.execute record (decode cell).toCall
  pure ({ changed with phase := .known .execute }, description)

/-- One transition of a record, with its description. An unknown phase counts as decoded. -/
def step (registry : Registry) (record : Record) : Except Fault (Record × String) :=
  if record.halted then .ok (record, Event.rest.line)
  else
    match record.phase with
    | .known .idle | .known .execute => fetch record
    | .known .fetch => decodeOnly record
    | .known .decode => registry.complete record
    | .unknown _ => registry.complete record

/-- A number of transitions, with the descriptions of all of them. A fault ends them; the record is
what the transitions before it made. -/
def steps (registry : Registry) : Nat → Record → Record × Except Fault (List String)
  | 0, record => (record, .ok [])
  | count + 1, record =>
    match registry.step record with
    | .error fault => (record, .error fault)
    | .ok (changed, description) =>
      let (final, later) := registry.steps count changed
      (final, later.map (description :: ·))

end Registry

end Accumulator
