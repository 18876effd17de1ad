/-
This file proves that the phase of a task has its grounds in the tasks before it, in every state. A
task that has begun was given its turn with a prompt that its predecessors determine, and these are
over, so nothing that happens later takes the grounds away. A task that was skipped has a failed
predecessor. How an attempt ends is up to the model, the prompt and the providers of that moment.
-/

import Triage.Proofs.Ensemble.Transition

namespace Triage

/-- The endings that the attempt of a model with a prompt can have, when it is answered by some of
the given providers. -/
inductive Model.Ends (tables : Providers → Prop) (isOpen : Bool) (model : Model) (prompt : String) :
    Ending → Prop where
  | refused {fault : Fault} (refused : model.refusal? isOpen = some fault) :
      Ends tables isOpen model prompt (.refused fault)
  | attempted {providers : Providers} {now duration : Nat} {ending : Ending}
      (welcome : model.refusal? isOpen = none) (known : tables providers)
      (attempt : model.attempt providers prompt now = (ending, duration)) :
      Ends tables isOpen model prompt ending

namespace Run

/-! ### Turns -/

theorem turn_eq_never_iff (run : Run) (task : Task) :
    run.turn task = .never ↔
      task.isChained = true ∧ (run.before task).any (·.hasFailed) = true := by
  unfold turn
  simp only
  split
  · rename_i stopped
    exact iff_of_true rfl (Bool.and_eq_true_iff.mp stopped)
  · rename_i going
    refine iff_of_false ?_ fun both => going (Bool.and_eq_true_iff.mpr both)
    split <;> exact nofun

theorem turn_eq_now_iff (run : Run) (task : Task) (prompt : String) :
    run.turn task = .now prompt ↔
      ¬ (task.isChained = true ∧ (run.before task).any (·.hasFailed) = true) ∧
        (run.before task).all (·.phase.isOver) = true ∧
        promptAfter task (run.before task) = prompt := by
  unfold turn
  simp only
  split
  · rename_i stopped
    exact iff_of_false nofun fun both => both.1 (Bool.and_eq_true_iff.mp stopped)
  · rename_i going
    split
    · rename_i done
      refine ⟨fun same => ⟨fun both => going (Bool.and_eq_true_iff.mpr both), done, ?_⟩,
        fun grounds => ?_⟩
      · exact Turn.now.inj same
      · rw [grounds.2.2]
    · rename_i undone
      exact iff_of_false nofun fun grounds => undone grounds.2.1

/-- The turn of a task of the first stage has come from the start. -/
theorem turn_of_first_stage (run : Run) {task : Task} (early : task.stage = 0) :
    run.turn task = .now task.prompt := by
  have nobody : run.before task = [] := List.filter_eq_nil_iff.mpr fun other _ isBefore => by
    rw [early, Bool.and_eq_true, decide_eq_true_eq] at isBefore
    exact Nat.not_lt_zero _ isBefore.2
  refine (run.turn_eq_now_iff task task.prompt).mpr ?_
  rw [nobody]
  refine ⟨fun stopped => Bool.noConfusion stopped.2, rfl, ?_⟩
  unfold promptAfter
  split <;> rfl

theorem isOver_of_hasFailed {task : Task} (failed : task.hasFailed = true) :
    task.phase.isOver = true := by
  unfold Task.hasFailed at failed
  cases current : task.phase <;> rw [current] at failed
  case ended => rfl
  all_goals exact Bool.noConfusion failed

section

variable {run : Run} {position : Nat} {task : Task} {phase : Phase} {gate : Gate} {peak : Nat}

/-- Once all tasks before a task are over, nothing changes among them. -/
theorem Transition.before_eq (transition : run.Transition task phase gate peak)
    (found : run.tasks[position]? = some task) (other : Task)
    (done : (run.before other).all (·.phase.isOver) = true) :
    (run.become position task phase gate peak).before other = run.before other := by
  obtain ⟨first, last, split, changed⟩ := run.become_tasks phase gate peak found
  unfold before at done ⊢
  rw [split] at done ⊢
  rw [changed]
  simp only [List.filter_append, List.filter_cons] at done ⊢
  cases isBefore : task.batch == other.batch && decide (task.stage < other.stage) with
  | false => rfl
  | true =>
    simp only [isBefore, if_true, List.all_append, List.all_cons, transition.isOver_eq_false,
      Bool.false_and, Bool.and_false] at done
    exact Bool.noConfusion done

/-- A task that has failed stays among those before another one. -/
theorem Transition.any_hasFailed (transition : run.Transition task phase gate peak)
    (found : run.tasks[position]? = some task) (other : Task)
    (failed : (run.before other).any (·.hasFailed) = true) :
    ((run.become position task phase gate peak).before other).any (·.hasFailed) = true := by
  obtain ⟨first, last, split, changed⟩ := run.become_tasks phase gate peak found
  obtain ⟨culprit, member, failed⟩ := List.any_eq_true.mp failed
  obtain ⟨member, isBefore⟩ := List.mem_filter.mp member
  refine List.any_eq_true.mpr ⟨culprit, List.mem_filter.mpr ⟨?_, isBefore⟩, failed⟩
  rw [split] at member
  rw [changed]
  rcases List.mem_append.mp member with member | member
  · exact List.mem_append_left _ member
  · rcases List.mem_cons.mp member with rfl | member
    · have unfinished := transition.isOver_eq_false
      rw [isOver_of_hasFailed failed] at unfinished
      exact Bool.noConfusion unfinished
    · exact List.mem_append_right _ (List.mem_cons_of_mem _ member)

theorem Transition.turn_now (transition : run.Transition task phase gate peak)
    (found : run.tasks[position]? = some task) {other : Task} {prompt : String}
    (turn : run.turn other = .now prompt) :
    (run.become position task phase gate peak).turn other = .now prompt := by
  have grounds := (run.turn_eq_now_iff other prompt).mp turn
  rw [turn_eq_now_iff, transition.before_eq found other grounds.2.1]
  exact grounds

theorem Transition.turn_never (transition : run.Transition task phase gate peak)
    (found : run.tasks[position]? = some task) {other : Task} (turn : run.turn other = .never) :
    (run.become position task phase gate peak).turn other = .never := by
  rw [turn_eq_never_iff] at turn ⊢
  exact ⟨turn.1, transition.any_hasFailed found other turn.2⟩

end

/-! ### Grounds -/

/-- The grounds that a task has for its phase. -/
def HasGrounds (tables : Providers → Prop) (run : Run) (task : Task) : Prop :=
  match task.phase with
  | .held => True
  | .waiting prompt _ =>
    run.turn task = .now prompt ∧ task.model.refusal? run.gate.isOpen = none
  | .calling ending _ =>
    ∃ prompt, run.turn task = .now prompt ∧
      task.model.Ends tables run.gate.isOpen prompt ending
  | .ended ending =>
    ∃ prompt, run.turn task = .now prompt ∧
      task.model.Ends tables run.gate.isOpen prompt ending
  | .skipped => run.turn task = .never

/-- The providers are some of the given ones, and all tasks have grounds. -/
structure Grounded (tables : Providers → Prop) (run : Run) : Prop where
  known : tables run.providers
  grounds : ∀ task ∈ run.tasks, run.HasGrounds tables task

variable {tables : Providers → Prop}

/-- Grounds are not lost when a task is taken further. -/
theorem Transition.keeps_grounds {run : Run} {position : Nat} {task : Task} {phase : Phase}
    {gate : Gate} {peak : Nat} (transition : run.Transition task phase gate peak)
    (found : run.tasks[position]? = some task) {other : Task}
    (grounds : run.HasGrounds tables other) :
    (run.become position task phase gate peak).HasGrounds tables other := by
  have isOpen : (run.become position task phase gate peak).gate.isOpen = run.gate.isOpen :=
    transition.gate_fixed.2
  unfold HasGrounds at grounds ⊢
  rw [isOpen]
  cases current : other.phase <;> simp only [current] at grounds ⊢
  case waiting => exact ⟨transition.turn_now found grounds.1, grounds.2⟩
  case calling =>
    obtain ⟨prompt, turn, ends⟩ := grounds
    exact ⟨prompt, transition.turn_now found turn, ends⟩
  case ended =>
    obtain ⟨prompt, turn, ends⟩ := grounds
    exact ⟨prompt, transition.turn_now found turn, ends⟩
  case skipped => exact transition.turn_never found grounds

/-- Whoever passes the gate has had a turn and has not been turned away. -/
theorem Passes.turn {run : Run} {task : Task} {prompt : String} {gate : Gate}
    (passes : run.Passes task prompt gate) (grounds : run.HasGrounds tables task) :
    run.turn task = .now prompt ∧ task.model.refusal? run.gate.isOpen = none := by
  cases passes with
  | atOnce _ turn welcome _ => exact ⟨turn, welcome⟩
  | withTicket waiting _ =>
    unfold HasGrounds at grounds
    rw [waiting] at grounds
    exact grounds

/-- A transition gives the task that is taken further grounds for its new phase. -/
theorem Transition.gives_grounds {run : Run} {position : Nat} {task : Task} {phase : Phase}
    {gate : Gate} {peak : Nat} (transition : run.Transition task phase gate peak)
    (found : run.tasks[position]? = some task) (known : tables run.providers)
    (grounds : run.HasGrounds tables task) :
    (run.become position task phase gate peak).HasGrounds tables { task with phase } := by
  have now {prompt : String} (turn : run.turn { task with phase } = .now prompt) :=
    transition.turn_now found turn
  have never (turn : run.turn { task with phase } = .never) := transition.turn_never found turn
  have isOpen : (run.become position task phase gate peak).gate.isOpen = run.gate.isOpen :=
    transition.gate_fixed.2
  unfold HasGrounds
  rw [isOpen]
  cases transition with
  | skip _ turn => exact never turn
  | refuse _ turn refused => exact ⟨_, now turn, .refused refused⟩
  | queue _ turn welcome _ => exact ⟨now turn, welcome⟩
  | call passes attempt _ =>
    obtain ⟨turn, welcome⟩ := passes.turn grounds
    exact ⟨_, now turn, .attempted welcome known attempt⟩
  | settle passes attempt =>
    obtain ⟨turn, welcome⟩ := passes.turn grounds
    exact ⟨_, now turn, .attempted welcome known attempt⟩
  | conclude calling _ =>
    unfold HasGrounds at grounds
    rw [calling] at grounds
    obtain ⟨prompt, turn, ends⟩ := grounds
    exact ⟨prompt, now turn, ends⟩

theorem Grounded.become {run : Run} (grounded : run.Grounded tables) {position : Nat} {task : Task}
    {phase : Phase} {gate : Gate} {peak : Nat} (found : run.tasks[position]? = some task)
    (transition : run.Transition task phase gate peak) :
    (run.become position task phase gate peak).Grounded tables where
  known := grounded.known
  grounds := by
    intro other member
    have own := grounded.grounds task (List.mem_of_getElem? found)
    obtain ⟨others, same, changed⟩ := run.become_perm phase gate peak found
    rcases List.mem_cons.mp (changed.mem_iff.mp member) with rfl | member
    · exact transition.gives_grounds found grounded.known own
    · exact transition.keeps_grounds found
        (grounded.grounds other (same.mem_iff.mpr (List.mem_cons_of_mem _ member)))

theorem Grounded.play {run : Run} (grounded : run.Grounded tables) (moves : List Move)
    (within : ∀ move ∈ moves, move.Within tables) : (run.play moves).Grounded tables :=
  play_invariant tables
    (fun _ _ _ _ _ _ holds found transition => holds.become found transition)
    (fun _ _ holds _ => ⟨holds.known, holds.grounds⟩)
    (fun _ _ holds known => ⟨known, holds.grounds⟩) moves within run grounded

theorem grounded_start {providers : Providers} (known : tables providers) (gate : Gate) (now : Nat)
    (batches : List Batch) : (start providers gate now batches).Grounded tables where
  known := known
  grounds := by
    intro task member
    unfold HasGrounds
    rw [start_phase member]
    trivial

end Run

end Triage
