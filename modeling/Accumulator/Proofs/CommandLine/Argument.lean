import Accumulator.CommandLine.Options
import Accumulator.Proofs.Fallible

set_option autoImplicit false

/-!
Arguments one by one. Each argument gives one order, which may use up the next argument as a value
and does not depend on anything behind that; carrying out the orders one after the other is the same
as taking the whole list.
-/

namespace Accumulator.CommandLine

/-- Induction along arguments of which one may use up the next: what holds of every end of the rest
is carried over to the whole. -/
@[elab_as_elim]
theorem suffix_induction {Element : Type} {motive : List Element → Prop} (nil : motive [])
    (cons : ∀ first rest, (∀ left, left <:+ rest → motive left) → motive (first :: rest))
    (arguments : List Element) : motive arguments := by
  have ends : ∀ left, left <:+ arguments → motive left := by
    induction arguments with
    | nil =>
        intro left suffix
        rw [List.suffix_nil.mp suffix]
        exact nil
    | cons first rest previous =>
        intro left suffix
        rcases List.suffix_cons_iff.mp suffix with rfl | inside
        · exact cons first rest previous
        · exact previous left inside
  exact ends arguments List.suffix_rfl

namespace Argument

/-- The parameters that an argument gives a value to or raises. -/
def parameters : Argument → List Parameter
  | .named parameter short attached? =>
    match Cluster.ofNamed parameter short attached? with
    | .ok cluster => cluster.flags ++ [cluster.last]
    | .error _ => []
  | _ => []

theorem parameters_of_named {parameter : Parameter} {short : Bool} {attached? : Option (List Char)}
    {cluster : Cluster} (read : Cluster.ofNamed parameter short attached? = .ok cluster) :
    (Argument.named parameter short attached?).parameters = cluster.flags ++ [cluster.last] := by
  change (match Cluster.ofNamed parameter short attached? with | .ok _ => _ | .error _ => _) = _
  rw [read]

end Argument

/-- What a single argument, with its value if that is the next one, tells to do. -/
inductive Order
  | leave (argument : String)
  | raise (flags : List Parameter)
  | give (flags : List Parameter) (last : Parameter) (value : String)

/-- The order of the first argument, and the arguments that are left behind it and its value. -/
def Argument.order (rest : List Argument) : Argument → Except Refusal (Order × List Argument)
  | .plain text => .ok (.leave text, rest)
  | .unknown text => .ok (.leave text, rest)
  | .ambiguous text spellings => .error (.usage (.ambiguous text spellings))
  | .named parameter short attached? =>
    Cluster.ofNamed parameter short attached? >>= fun cluster =>
      match cluster.value? with
      | some value => .ok (.give cluster.flags cluster.last value, rest)
      | none =>
        if cluster.last.takesValue then
          match rest with
          | .plain value :: later => .ok (.give cluster.flags cluster.last value, later)
          | _ => .error (.usage (.expectedValue cluster.last))
        else .ok (.raise (cluster.flags ++ [cluster.last]), rest)

def Progress.obey (progress : Progress) : Order → Except Refusal Progress
  | .leave argument => .ok (progress.leave argument)
  | .raise flags => progress.raiseAll flags
  | .give flags last value => do (← progress.raiseAll flags).assign last value

theorem Progress.take_cons (progress : Progress) (argument : Argument) (rest : List Argument) :
    progress.take (argument :: rest) =
      (do
        let told ← argument.order rest
        (← progress.obey told.1).take told.2) := by
  cases argument with
  | named parameter short attached? =>
      rw [take, Argument.order, bind_assoc]
      apply bind_congr
      rintro ⟨flags, last, _ | value⟩
      · dsimp only
        split
        · rcases rest with _ | ⟨_ | _ | _ | _, later⟩
          case cons.plain value => exact (bind_assoc _ _ _).symm
          all_goals rfl
        · rfl
      · exact (bind_assoc _ _ _).symm
  | _ => rfl

def Order.parameters : Order → List Parameter
  | .leave _ => []
  | .raise flags => flags
  | .give flags last _ => flags ++ [last]

/-- The arguments that are left end the list, and the order is about the parameters of the argument
that gave it. -/
theorem Argument.of_order {argument : Argument} {rest left : List Argument} {given : Order}
    (told : argument.order rest = .ok (given, left)) :
    left <:+ rest ∧ given.parameters = argument.parameters := by
  cases argument with
  | named parameter short attached? =>
      obtain ⟨⟨flags, last, _ | value⟩, read, told⟩ := exists_of_bind told
      · rw [Argument.parameters_of_named read]
        dsimp only at told
        split at told
        · rcases rest with _ | ⟨_ | _ | _ | _, later⟩
          case cons.plain value =>
            cases told
            exact ⟨List.suffix_cons _ _, rfl⟩
          all_goals contradiction
        · cases told
          exact ⟨List.suffix_rfl, rfl⟩
      · rw [Argument.parameters_of_named read]
        cases told
        exact ⟨List.suffix_rfl, rfl⟩
  | ambiguous => contradiction
  | _ =>
      cases told
      exact ⟨List.suffix_rfl, rfl⟩

/-- An argument that is no value itself may follow without a change to the order. -/
theorem Argument.order_append {next : Argument} (named : ∀ text, next ≠ .plain text)
    (argument : Argument) (rest after : List Argument) :
    argument.order (rest ++ next :: after) =
      (fun told => (told.1, told.2 ++ next :: after)) <$> argument.order rest := by
  cases argument with
  | named parameter short attached? =>
      unfold Argument.order
      rw [map_bind]
      apply bind_congr
      rintro ⟨flags, last, _ | value⟩
      · dsimp only
        split
        · rcases rest with _ | ⟨_ | _ | _ | _, later⟩
          -- A parameter at the end waits for a value, and what follows is none.
          case nil =>
            cases next with
            | plain text => exact absurd rfl (named text)
            | _ => rfl
          all_goals rfl
        · rfl
      · rfl
  | _ => rfl

end Accumulator.CommandLine
