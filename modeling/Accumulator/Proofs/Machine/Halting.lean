import Accumulator.Proofs.Machine.Transition

set_option autoImplicit false

/-!
When a machine halts, counted in transitions. Halting is final, so there is at most one first time;
with a budget of transitions a machine uses the whole budget or stops at that time.
-/

namespace Accumulator

namespace State

theorem after_add (state : State) (first second : Nat) :
    state.after (first + second) = (state.after first).after second := by
  induction first generalizing state with
  | zero => rw [Nat.zero_add, after]
  | succ first previous => rw [Nat.succ_add, after, after, previous]

theorem after_succ (state : State) (count : Nat) :
    state.after (count + 1) = (state.after count).next :=
  after_add state count 1

theorem after_of_halted {state : State} (halted : state.halted = true) (count : Nat) :
    state.after count = state := by
  induction count with
  | zero => rfl
  | succ count previous => rw [after_succ, previous, next_of_halted halted]

theorem after_of_halted_before {state : State} {first second : Nat} (order : first ≤ second)
    (halted : (state.after first).halted = true) : state.after second = state.after first := by
  obtain ⟨more, rfl⟩ := Nat.exists_eq_add_of_le order
  rw [after_add, after_of_halted halted]

theorem running_before {state : State} {first second : Nat} (order : first ≤ second)
    (running : (state.after second).halted = false) : (state.after first).halted = false := by
  rcases Bool.eq_false_or_eq_true (state.after first).halted with halted | going
  · rw [after_of_halted_before order halted, halted] at running
    contradiction
  · exact going

/-- The machine halts with the last of that many transitions. -/
structure HaltsAfter (state : State) (count : Nat) : Prop where
  halted : (state.after count).halted = true
  running : ∀ earlier, earlier < count → (state.after earlier).halted = false

/-- What a machine makes of a budget: it runs until the budget is used up or it halts. -/
structure Spends (state : State) (budget count : Nat) : Prop where
  within : count ≤ budget
  running : ∀ earlier, earlier < count → (state.after earlier).halted = false
  stopped : count = budget ∨ (state.after count).halted = true

variable {state : State} {budget count : Nat}

theorem Spends.next (spends : state.Spends (budget + 1) (count + 1)) :
    state.next.Spends budget count where
  within := Nat.le_of_succ_le_succ spends.within
  running earlier sooner := spends.running (earlier + 1) (Nat.succ_lt_succ sooner)
  stopped := spends.stopped.imp_left Nat.succ.inj

theorem Spends.running_of_succ (spends : state.Spends budget (count + 1)) : state.halted = false :=
  spends.running 0 (Nat.zero_lt_succ count)

theorem Spends.halted_of_zero (spends : state.Spends (budget + 1) 0) : state.halted = true := by
  rcases spends.stopped with used | halted
  · contradiction
  · exact halted

/-- What is left of the budget changes nothing. -/
theorem Spends.after_eq (spends : state.Spends budget count) :
    state.after count = state.after budget := by
  rcases spends.stopped with used | halted
  · rw [used]
  · exact (after_of_halted_before spends.within halted).symm

theorem HaltsAfter.spends (halts : state.HaltsAfter count) (budget : Nat) :
    state.Spends budget (min budget count) where
  within := Nat.min_le_left budget count
  running earlier sooner :=
    halts.running earlier (Nat.lt_of_lt_of_le sooner (Nat.min_le_right budget count))
  stopped := by
    rcases Nat.le_total budget count with short | enough
    · exact .inl (Nat.min_eq_left short)
    · rw [Nat.min_eq_right enough]
      exact .inr halts.halted

/-- A machine that has halted within a budget did so at a first time. -/
theorem exists_haltsAfter (halted : (state.after budget).halted = true) :
    ∃ count, count ≤ budget ∧ state.HaltsAfter count := by
  induction budget with
  | zero =>
      refine ⟨0, Nat.le_refl 0, halted, ?_⟩
      intro earlier sooner
      exact absurd sooner (Nat.not_lt_zero earlier)
  | succ budget previous =>
      rcases Bool.eq_false_or_eq_true (state.after budget).halted with before | running
      · obtain ⟨count, within, halts⟩ := previous before
        exact ⟨count, Nat.le_succ_of_le within, halts⟩
      · refine ⟨budget + 1, Nat.le_refl _, halted, ?_⟩
        intro earlier sooner
        exact running_before (Nat.le_of_lt_succ sooner) running

theorem spends_of_running (running : (state.after budget).halted = false) :
    state.Spends budget budget where
  within := Nat.le_refl budget
  running _ sooner := running_before (Nat.le_of_lt sooner) running
  stopped := .inl rfl

theorem exists_spends (state : State) (budget : Nat) : ∃ count, state.Spends budget count := by
  rcases Bool.eq_false_or_eq_true (state.after budget).halted with halted | running
  · obtain ⟨count, _, halts⟩ := exists_haltsAfter halted
    exact ⟨min budget count, halts.spends budget⟩
  · exact ⟨budget, spends_of_running running⟩

/-- What is left of two budgets in a row is what is left of their sum. -/
theorem Spends.add {first second made more : Nat} (spends : state.Spends first made)
    (later : (state.after made).Spends second more) :
    state.Spends (first + second) (made + more) where
  within := Nat.add_le_add spends.within later.within
  running earlier sooner := by
    rcases Nat.lt_or_ge earlier made with before | behind
    · exact spends.running earlier before
    · obtain ⟨rest, rfl⟩ := Nat.exists_eq_add_of_le behind
      rw [after_add]
      exact later.running rest (Nat.lt_of_add_lt_add_left sooner)
  stopped := by
    rw [after_add]
    rcases later.stopped with used | halted
    · rcases spends.stopped with all | halted
      · exact .inl (by rw [all, used])
      · rw [after_of_halted halted]
        exact .inr halted
    · exact .inr halted

end State

end Accumulator
