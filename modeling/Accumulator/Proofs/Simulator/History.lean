import Mathlib.Data.List.Chain
import Accumulator.Proofs.Machine.Output
import Accumulator.Proofs.Machine.Provenance
import Accumulator.Proofs.Simulator.Clock

set_option autoImplicit false

/-!
The history is a window of the transitions since the last restart. Only a single step records
anything, so the history holds the recent part of what the single steps answered; the steps are
numbered in order, and the registers do not change between them.
-/

namespace Accumulator

/-! ### What a step records -/

namespace State

/-- Nothing moves the program counter but an execution that does not halt the machine. -/
theorem executes_of_pc_next_ne {state : State} (moved : state.next.pc ≠ state.pc) :
    state.next.phase = .execute ∧ state.next.halted = false := by
  rcases next_cases state with ⟨_, same⟩ | ⟨_, _, same⟩ | ⟨_, _, same⟩ | ⟨running, _, same⟩
  · rw [same] at moved
    contradiction
  · rw [same] at moved
    contradiction
  · rw [same] at moved
    contradiction
  · rw [same] at moved ⊢
    refine ⟨rfl, ?_⟩
    rcases Bool.eq_false_or_eq_true (decode state.ir).operation.opcode.stops with stops | passes
    · rw [execute, apply_of_stops state stops] at moved
      contradiction
    · exact (halted_apply state passes).trans running

end State

/-- From one entry to the next, the program counter has moved only if the earlier one is that of an
execution which did not halt the machine. -/
def Entry.LeadsTo (earlier later : Entry) : Prop :=
  later.pc ≠ earlier.pc → earlier.phase = .execute ∧ earlier.halted = false

/-- A single step, an edit or a restart: the commands that are moves themselves. -/
def Command.isSingle (command : Command) : Bool :=
  command.isMove || command.restarts

theorem Command.isSingle_of_mem_moves {simulator : Simulator} {command move : Command}
    (among : move ∈ command.moves simulator) : move.isSingle = true := by
  cases command with
  | stepInstruction =>
      rw [(List.mem_replicate.mp among).2]
      rfl
  | run limit? =>
      rw [(List.mem_replicate.mp among).2]
      rfl
  | _ =>
      rw [List.mem_singleton.mp among]
      rfl

namespace Simulator

theorem history_of_loadCells {simulator : Simulator} {cells : List Cell} {action : Action}
    (succeeded : (simulator.settled (simulator.loadCells cells action)).answer = .ok []) :
    (simulator.settled (simulator.loadCells cells action)).simulator.history = {} := by
  unfold loadCells at succeeded ⊢
  split at succeeded
  · contradiction
  · rw [if_neg ‹_›]
    rfl

section Sessions

variable [Provision]

/-- The commands that would restart the machine fail when they are performed. -/
def Continues (simulator : Simulator) : List Command → Prop
  | [] => True
  | command :: rest =>
    (command.restarts = true → ∃ fault, (simulator.perform command).answer = .error fault) ∧
      (simulator.perform command).simulator.Continues rest

/-- The entries that a session answers, in order. A command that fails answers none. -/
def answered (simulator : Simulator) : List Command → List Entry
  | [] => []
  | command :: rest =>
    (simulator.perform command).answer.toOption.getD [] ++
      (simulator.perform command).simulator.answered rest

/-- A move that answers no entry and changes nothing but the memory and the last action. -/
structure Quiet (simulator : Simulator) (move : Command) : Prop where
  other : move ≠ .step
  silent : (simulator.perform move).answer.toOption.getD [] = []
  kept : ∃ memory action, (simulator.perform move).simulator =
    { simulator with
      state := { simulator.state with memory := memory }
      lastAction := action }

/-- Single steps and quiet moves, one after the other. -/
inductive Unbroken : Simulator → List Command → Prop
  | nil (simulator : Simulator) : Unbroken simulator []
  | step {simulator : Simulator} {rest : List Command}
      (later : Unbroken simulator.step.1 rest) : Unbroken simulator (.step :: rest)
  | quiet {simulator : Simulator} {move : Command} {rest : List Command}
      (quiet : simulator.Quiet move)
      (later : Unbroken (simulator.perform move).simulator rest) :
      Unbroken simulator (move :: rest)

variable {simulator : Simulator} {moves : List Command}

/-! ### Sessions without a restart -/

theorem continues_append {first second : List Command} :
    simulator.Continues (first ++ second) ↔
      simulator.Continues first ∧ (simulator.session first).Continues second := by
  induction first generalizing simulator with
  | nil => exact (iff_of_eq (true_and _)).symm
  | cons command rest previous => exact (and_congr_right fun _ => previous).trans and_assoc.symm

theorem continues_of_no_restart (between : ∀ move ∈ moves, move.restarts = false) :
    simulator.Continues moves := by
  induction moves generalizing simulator with
  | nil => trivial
  | cons move rest previous =>
      refine ⟨?_, previous fun later among => between later (List.mem_cons_of_mem move among)⟩
      intro restarts
      rw [between move List.mem_cons_self] at restarts
      contradiction

theorem continues_moves_command {command : Command}
    (fails : command.restarts = true →
      ∃ fault, (simulator.perform command).answer = .error fault) :
    simulator.Continues (command.moves simulator) := by
  have steps (count : Nat) : simulator.Continues (List.replicate count .step) := by
    apply continues_of_no_restart
    intro move among
    rw [(List.mem_replicate.mp among).2]
    rfl
  cases command with
  | stepInstruction => exact steps _
  | run limit? => exact steps _
  | _ => exact ⟨fails, trivial⟩

theorem continues_moves {commands : List Command} (continues : simulator.Continues commands) :
    simulator.Continues (simulator.moves commands) := by
  induction commands generalizing simulator with
  | nil => trivial
  | cons command rest previous =>
      obtain ⟨fails, later⟩ := continues
      rw [moves, continues_append, session_moves_command]
      exact ⟨continues_moves_command fails, previous later⟩

theorem isSingle_of_mem_session_moves {commands : List Command} {move : Command}
    (among : move ∈ simulator.moves commands) : move.isSingle = true := by
  induction commands generalizing simulator with
  | nil => contradiction
  | cons command rest previous =>
      rcases List.mem_append.mp among with first | later
      · exact Command.isSingle_of_mem_moves first
      · exact previous later

theorem quiet_edit (simulator : Simulator) (address : Int) (entered : Cell) :
    simulator.Quiet (.editCell address entered) where
  other := nofun
  silent := by
    unfold perform editCell
    dsimp only
    cases enteredText? entered with
    | some text => rfl
    | none => rfl
  kept := by
    obtain ⟨memory, edited⟩ := simulator.exists_memory_of_edit address entered
    exact ⟨memory, simulator.lastAction, edited⟩

/-- A restart that fails leaves everything but the last action. -/
theorem quiet_of_failed {start : Command} (restarts : start.restarts = true) {fault : Fault}
    (failed : (simulator.perform start).answer = .error fault) : simulator.Quiet start where
  other := by
    rintro rfl
    contradiction
  silent := by
    rw [failed]
    rfl
  kept := by
    refine ⟨simulator.state.memory, ?_⟩
    have refused (cells : List Cell) (action : Action)
        (failed : (simulator.settled (simulator.loadCells cells action)).answer = .error fault) :
        (simulator.settled (simulator.loadCells cells action)).simulator = simulator := by
      unfold loadCells at failed ⊢
      split at failed
      · rw [if_pos ‹_›]
        rfl
      · contradiction
    cases start with
    | loadMemory cells => exact ⟨_, refused cells .memoryLoaded failed⟩
    | loadSample => exact ⟨_, refused Assembly.sample .sampleLoaded failed⟩
    | loadProgram source bindings =>
        have unmet : (simulator.loadProgram source bindings).answer = .error fault := by
          change Except.map _ _ = _ at failed
          cases answer : (simulator.loadProgram source bindings).answer with
          | ok nothing =>
              rw [answer] at failed
              contradiction
          | error reason =>
              rw [answer] at failed
              exact congrArg Except.error (Except.error.inj failed)
        rcases loadProgram_failed unmet with ⟨same, _⟩ | ⟨_, same⟩
        · exact ⟨simulator.lastAction, same⟩
        · exact ⟨.rejected fault, same⟩
    | _ => contradiction

theorem unbroken_of_continues (single : ∀ move ∈ moves, move.isSingle = true)
    (continues : simulator.Continues moves) : simulator.Unbroken moves := by
  induction moves generalizing simulator with
  | nil => exact .nil simulator
  | cons move rest previous =>
      obtain ⟨fails, later⟩ := continues
      have unbroken := previous (fun other among => single other (List.mem_cons_of_mem move among))
        later
      have first := single move List.mem_cons_self
      rcases Bool.eq_false_or_eq_true move.restarts with restarts | between
      · obtain ⟨fault, failed⟩ := fails restarts
        exact .quiet (quiet_of_failed restarts failed) unbroken
      · cases move with
        | step => exact .step unbroken
        | editCell address entered => exact .quiet (simulator.quiet_edit address entered) unbroken
        | _ => contradiction

/-! ### What an unbroken session records -/

theorem answered_append (first second : List Command) :
    simulator.answered (first ++ second) =
      simulator.answered first ++ (simulator.session first).answered second := by
  induction first generalizing simulator with
  | nil => rfl
  | cons command rest previous =>
      change _ ++ Simulator.answered _ (rest ++ second) = _
      rw [previous, ← List.append_assoc]
      rfl

theorem Unbroken.of_append {earlier later : List Command}
    (unbroken : simulator.Unbroken (earlier ++ later)) : simulator.Unbroken earlier := by
  induction earlier generalizing simulator with
  | nil => exact .nil simulator
  | cons move rest previous =>
      cases unbroken with
      | step unbroken => exact .step (previous unbroken)
      | quiet quiet unbroken => exact .quiet quiet (previous unbroken)

theorem Unbroken.steps_session (unbroken : simulator.Unbroken moves) :
    (simulator.session moves).steps = simulator.steps + moves.count .step := by
  induction unbroken with
  | nil simulator => rfl
  | @step simulator rest later previous =>
      have stepped : simulator.step.1.steps = simulator.steps + 1 := rfl
      rw [List.count_cons_self, ← Nat.add_assoc, Nat.add_right_comm, ← stepped, ← previous]
      rfl
  | quiet quiet later previous =>
      obtain ⟨memory, action, same⟩ := quiet.kept
      rw [session_cons, previous, same, List.count_cons_of_ne quiet.other]

theorem Unbroken.length_answered (unbroken : simulator.Unbroken moves) :
    (simulator.answered moves).length = moves.count .step := by
  induction unbroken with
  | nil simulator => rfl
  | step later previous =>
      rw [List.count_cons_self, ← previous]
      rfl
  | quiet quiet later previous =>
      rw [answered, quiet.silent, List.count_cons_of_ne quiet.other]
      exact previous

/-- The history is the recent part of what the steps answered. -/
theorem Unbroken.history_session (unbroken : simulator.Unbroken moves)
    (few : simulator.history.toList.length ≤ historyLimit) :
    (simulator.session moves).history.toList =
      lastOf historyLimit (simulator.history.toList ++ simulator.answered moves) := by
  induction unbroken with
  | nil simulator =>
      rw [answered, List.append_nil, lastOf_of_length_le few]
      rfl
  | @step simulator rest later previous =>
      have recorded : simulator.step.1.history.toList =
          lastOf historyLimit (simulator.history.toList ++ [simulator.step.2.entry]) :=
        History.toList_record simulator.history simulator.step.2.entry
      have few : simulator.step.1.history.toList.length ≤ historyLimit := by
        rw [recorded]
        exact length_lastOf_le historyLimit _
      rw [session_cons]
      change (simulator.step.1.session rest).history.toList = _
      rw [previous few, recorded, lastOf_lastOf_append, List.append_assoc]
      rfl
  | quiet quiet later previous =>
      obtain ⟨memory, action, same⟩ := quiet.kept
      rw [session_cons, answered, quiet.silent, List.nil_append, previous]
      · rw [same]
      · rw [same]
        exact few

/-- The entries go on counting where the simulator is. -/
theorem Unbroken.indices_answered (unbroken : simulator.Unbroken moves) :
    (simulator.answered moves).map Entry.index =
      List.range' simulator.steps (moves.count .step) := by
  induction unbroken with
  | nil simulator => rfl
  | @step simulator rest later previous =>
      rw [List.count_cons_self, List.range'_succ]
      exact congrArg (simulator.steps :: ·) previous
  | quiet quiet later previous =>
      obtain ⟨memory, action, same⟩ := quiet.kept
      rw [answered, quiet.silent, List.nil_append, List.count_cons_of_ne quiet.other, previous,
        same]

theorem Unbroken.pc_of_head_answered (unbroken : simulator.Unbroken moves) {entry : Entry}
    (first : entry ∈ (simulator.answered moves).head?) : entry.pc = simulator.state.pc := by
  induction unbroken with
  | nil simulator => contradiction
  | step later previous =>
      cases first
      rfl
  | quiet quiet later previous =>
      obtain ⟨memory, action, same⟩ := quiet.kept
      rw [answered, quiet.silent, List.nil_append] at first
      have found := previous first
      rw [same] at found
      exact found

theorem Unbroken.isChain_answered (unbroken : simulator.Unbroken moves) :
    (simulator.answered moves).IsChain Entry.LeadsTo := by
  induction unbroken with
  | nil simulator => exact .nil
  | @step simulator rest later previous =>
      apply List.IsChain.cons previous
      intro entry first moved
      rw [later.pc_of_head_answered first] at moved
      exact State.executes_of_pc_next_ne moved
  | quiet quiet later previous =>
      rw [answered, quiet.silent]
      exact previous

/-- What the single step between two parts of an unbroken session answers. -/
theorem Unbroken.exists_entry {earlier later : List Command}
    (unbroken : simulator.Unbroken (earlier ++ .step :: later)) :
    let before := simulator.session earlier
    ∃ entry, (simulator.answered (earlier ++ .step :: later))[earlier.count .step]? = some entry ∧
      (before.perform .step).answer = .ok [entry] ∧
      entry.index = simulator.steps + earlier.count .step ∧
      entry.pc = before.state.pc ∧
      entry.phase = before.state.next.phase ∧
      entry.halted = before.state.next.halted ∧
      entry.description = before.state.step.2.line := by
  intro before
  have reached := unbroken.of_append
  refine ⟨before.step.2.entry, ?_, rfl, reached.steps_session, rfl, rfl, rfl, rfl⟩
  rw [answered_append, ← reached.length_answered, List.getElem?_append_right (Nat.le_refl _),
    Nat.sub_self]
  rfl

theorem history_of_restart {start : Command} (restarts : start.restarts = true)
    (succeeded : (simulator.perform start).answer = .ok []) :
    (simulator.perform start).simulator.history = {} := by
  cases start with
  | loadMemory cells => exact history_of_loadCells succeeded
  | loadSample => exact history_of_loadCells succeeded
  | clearMemory => rfl
  | reset => rfl
  | loadProgram source bindings =>
      unfold perform at succeeded ⊢
      dsimp only at succeeded ⊢
      rcases Assembly.assemble_cases source bindings simulator.memorySize with
        ⟨image, made⟩ | ⟨required, size, refused⟩ | ⟨fault, refused, other⟩
      · rw [loadProgram_of_assembled simulator made]
        rfl
      · rw [loadProgram_of_scarce simulator refused] at succeeded
        contradiction
      · rw [loadProgram_of_refused simulator refused other] at succeeded
        contradiction
  | _ => contradiction

/-- After a load, clearing or reset, as long as no other one succeeds, the history is the recent
part of what the single steps answered, whichever commands made them. -/
theorem history_is_the_window_of_recent_steps (simulator : Simulator) (start : Command)
    (restarts : start.restarts = true) (succeeded : (simulator.perform start).answer = .ok [])
    (commands : List Command)
    (continues : (simulator.perform start).simulator.Continues commands) :
    let begun := (simulator.perform start).simulator
    let driven := begun.session commands
    let moves := begun.moves commands
    let steps := moves.count .step
    let entries := begun.answered moves
    let window := driven.history.toList
    begun.session moves = driven ∧ begun.Continues moves ∧
      (∀ move ∈ moves, move = .step ∨ (∃ address entered, move = .editCell address entered) ∨
        move.restarts = true) ∧
      driven.steps = steps ∧ entries.length = steps ∧
      window.length = min steps 1000 ∧ window = entries.drop (steps - 1000) ∧
      window.map Entry.index = (List.range steps).drop (steps - 1000) ∧
      (∀ earlier later, moves = earlier ++ .step :: later →
        let index := earlier.count .step
        let before := begun.session earlier
        let after := (before.perform .step).simulator
        ∃ entry, entries[index]? = some entry ∧
          (before.perform .step).answer = .ok [entry] ∧
          entry.index = index ∧
          entry.pc = before.state.pc ∧
          entry.phase = after.state.phase ∧
          entry.halted = after.state.halted ∧
          entry.description = before.state.step.2.line) ∧
      window.IsChain fun earlier later =>
        later.pc ≠ earlier.pc → earlier.phase = .execute ∧ earlier.halted = false := by
  intro begun driven moves steps entries window
  have single : ∀ move ∈ moves, move.isSingle = true := fun _ => isSingle_of_mem_session_moves
  have resumed : begun.Continues moves := continues_moves continues
  have unbroken : begun.Unbroken moves := unbroken_of_continues single resumed
  have same : begun.session moves = driven := begun.session_moves commands
  have fresh : begun.steps = 0 := (timed_of_restart restarts succeeded).counted
  have empty : begun.history.toList = [] :=
    congrArg History.toList (history_of_restart restarts succeeded)
  have counted : entries.length = steps := unbroken.length_answered
  have recent : window = entries.drop (steps - 1000) := by
    have recorded := unbroken.history_session (by rw [empty]; exact Nat.zero_le historyLimit)
    rw [same, empty, List.nil_append, lastOf] at recorded
    rw [← counted]
    exact recorded
  refine ⟨same, resumed, ?_, ?_, counted, ?_, recent, ?_, ?_, ?_⟩
  · intro move among
    have alone := single move among
    cases move with
    | step => exact .inl rfl
    | editCell address entered => exact .inr (.inl ⟨address, entered, rfl⟩)
    | _ => exact .inr (.inr alone)
  · have numbered := unbroken.steps_session
    rw [same, fresh, Nat.zero_add] at numbered
    exact numbered
  · rw [recent, List.length_drop, counted]
    omega
  · rw [recent, List.map_drop, unbroken.indices_answered, fresh, List.range_eq_range']
  · intro earlier later parted index before after
    rw [parted] at unbroken
    obtain ⟨entry, found, answer, number, fields⟩ := unbroken.exists_entry
    -- The list of moves is parted for the lemma only; the statement is about the whole.
    rw [← parted] at found
    rw [fresh, Nat.zero_add] at number
    exact ⟨entry, found, answer, number, fields⟩
  · rw [recent]
    apply List.IsChain.drop
    exact unbroken.isChain_answered

end Sessions

section

open scoped Provision

/-- A run that is cut off, a program that does not fit, an edit that puts a halt in the way of the
second run, and a step of the halted machine. -/
theorem interrupted_session_is_numbered_through :
    let start : Command := .loadMemory [.text "LOAD 1", .text "JMP 0"]
    let begun := ((new 3 4).perform start).simulator
    let commands : List Command :=
      [.run none, .loadProgram "NOP" [], .editCell 1 (.text "HLT"), .stepInstruction,
        .run (some 9), .step]
    let driven := begun.session commands
    start.restarts = true ∧ ((new 3 4).perform start).answer = .ok [] ∧
      begun.Continues commands ∧ driven.state.halted = true ∧ driven.steps = 13 ∧
      driven.history.toList.map Entry.index = [0, 1, 2, 3, 4, 5, 6, 7, 8, 9, 10, 11, 12] := by
  intro start begun commands driven
  have succeeded : ((new 3 4).perform start).answer = .ok [] := rfl
  have continues : begun.Continues commands := by
    refine ⟨nofun, ?_, nofun, nofun, nofun, nofun, trivial⟩
    intro _
    exact ⟨.capacity 4 3, by decide +kernel⟩
  have halted : driven.state.halted = true := by decide +kernel
  have made : driven.steps = 13 := by decide +kernel
  -- With the two names unfolded, nothing below is compared by running the simulator.
  dsimp only [driven, begun] at halted made continues ⊢
  obtain ⟨-, -, -, steps, -, -, -, indices, -, -⟩ :=
    history_is_the_window_of_recent_steps (new 3 4) start rfl succeeded commands continues
  rw [← steps, made] at indices
  exact ⟨rfl, succeeded, continues, halted, made, indices⟩

end

end Simulator

end Accumulator
