/-
This file proves that a run on a gate with a permit comes to its end. Every transition leaves less
work, and as long as a task is not over there is a transition, if need be after the clock has moved:
when no call is under way then all permits are free or belong to tasks that wait to be taken
further, so nobody is kept at the gate, and of the tasks that have not begun those of the earliest
stage are not kept by any other.
-/

import Triage.Proofs.Ensemble.Permits

namespace Triage

namespace Run

/-! ### Work -/

theorem workLeft_pos {phase : Phase} (unfinished : phase.isOver = false) : 0 < workLeft phase := by
  cases phase <;> first | exact Nat.succ_pos _ | exact absurd unfinished Bool.noConfusion

theorem Passes.workLeft_ge {run : Run} {task : Task} {prompt : String} {gate : Gate}
    (passes : run.Passes task prompt gate) : 2 ≤ workLeft task.phase := by
  cases passes with
  | atOnce held _ _ _ => rw [held]; decide
  | withTicket waiting _ => rw [waiting]; exact Nat.le_refl 2

theorem Transition.workLeft_lt {run : Run} {task : Task} {phase : Phase} {gate : Gate} {peak : Nat}
    (transition : run.Transition task phase gate peak) : workLeft phase < workLeft task.phase := by
  cases transition with
  | skip held _ => rw [held]; exact Nat.succ_pos 2
  | refuse held _ _ => rw [held]; exact Nat.succ_pos 2
  | queue held _ _ _ => rw [held]; exact Nat.lt_succ_self 2
  | call passes _ _ => exact passes.workLeft_ge
  | settle passes _ => exact Nat.lt_of_lt_of_le Nat.two_pos passes.workLeft_ge
  | conclude calling _ => rw [calling]; exact Nat.one_pos

theorem foldr_add (values : List Nat) (base : Nat) :
    values.foldr (· + ·) base = values.foldr (· + ·) 0 + base := by
  induction values with
  | nil => exact (Nat.zero_add base).symm
  | cons value rest inductionHypothesis =>
    rw [List.foldr_cons, List.foldr_cons, inductionHypothesis, Nat.add_assoc]

theorem totalWork_become_lt (run : Run) {position : Nat} {task : Task} {phase : Phase} {gate : Gate}
    {peak : Nat} (found : run.tasks[position]? = some task)
    (transition : run.Transition task phase gate peak) :
    (run.become position task phase gate peak).totalWork < run.totalWork := by
  obtain ⟨before, after, split, changed⟩ := run.become_tasks phase gate peak found
  have less := transition.workLeft_lt
  unfold totalWork
  rw [split, changed, List.map_append, List.map_append, List.foldr_append, List.foldr_append,
    List.map_cons, List.map_cons, List.foldr_cons, List.foldr_cons,
    foldr_add _ (workLeft phase + _), foldr_add _ (workLeft task.phase + _)]
  omega

/-- A step that is no transition changes nothing, and all others leave less work. -/
theorem step_eq_or_totalWork_lt (run : Run) (position : Nat) :
    run.step position = run ∨ (run.step position).totalWork < run.totalWork := by
  rcases run.step_cases position with
    ⟨same, _⟩ | ⟨task, phase, gate, peak, found, transition, result⟩
  · exact Or.inl same
  · rw [result]
    exact Or.inr (run.totalWork_become_lt found transition)

theorem totalWork_foldl_step_le (run : Run) (positions : List Nat) :
    (positions.foldl step run).totalWork ≤ run.totalWork := by
  induction positions generalizing run with
  | nil => exact Nat.le_refl _
  | cons position rest inductionHypothesis =>
    refine Nat.le_trans (inductionHypothesis (run.step position)) ?_
    rcases run.step_eq_or_totalWork_lt position with same | less
    · exact Nat.le_of_eq (congrArg totalWork same)
    · exact Nat.le_of_lt less

/-- A pass over a task that is ready leaves less work: either the task is still ready when the pass
comes to it, or another task has been taken further before. -/
theorem totalWork_foldl_step_lt (run : Run) (positions : List Nat) {position : Nat} {task : Task}
    (member : position ∈ positions) (found : run.tasks[position]? = some task)
    (ready : run.isReady task = true) :
    (positions.foldl step run).totalWork < run.totalWork := by
  induction positions with
  | nil => exact absurd member List.not_mem_nil
  | cons first rest inductionHypothesis =>
    rw [List.foldl_cons]
    rcases run.step_cases first with
      ⟨same, idle⟩ | ⟨other, phase, gate, peak, foundOther, transition, result⟩
    · rw [same]
      refine inductionHypothesis ((List.mem_cons.mp member).resolve_left ?_)
      rintro rfl
      rw [idle task found] at ready
      exact Bool.noConfusion ready
    · refine Nat.lt_of_le_of_lt (totalWork_foldl_step_le _ rest) ?_
      rw [result]
      exact run.totalWork_become_lt foundOther transition

theorem totalWork_pass_lt (run : Run) {task : Task} (member : task ∈ run.tasks)
    (ready : run.isReady task = true) : run.pass.totalWork < run.totalWork := by
  obtain ⟨position, inside, found⟩ := List.getElem_of_mem member
  exact run.totalWork_foldl_step_lt _ (List.mem_range.mpr inside)
    (List.getElem?_eq_some_iff.mpr ⟨inside, found⟩) ready

theorem isOver_of_totalWork_eq_zero (run : Run) (nothing : run.totalWork = 0) :
    run.isOver = true := by
  unfold totalWork at nothing
  unfold isOver
  generalize run.tasks = tasks at nothing ⊢
  induction tasks with
  | nil => rfl
  | cons task rest inductionHypothesis =>
    rw [List.map_cons, List.foldr_cons] at nothing
    have allOver : task.phase.isOver = true := by
      cases unfinished : task.phase.isOver with
      | true => rfl
      | false =>
        have positive := workLeft_pos unfinished
        omega
    rw [List.all_cons, allOver, inductionHypothesis (by omega)]
    rfl

/-! ### There is always a next transition -/

/-- Of the tasks that are not over there is one in the earliest stage. -/
theorem exists_earliest (tasks : List Task) (unfinished : tasks.all (·.phase.isOver) = false) :
    ∃ task ∈ tasks, task.phase.isOver = false ∧
      ∀ other ∈ tasks, other.phase.isOver = false → task.stage ≤ other.stage := by
  induction tasks with
  | nil => exact Bool.noConfusion unfinished
  | cons head rest inductionHypothesis =>
    cases restUnfinished : rest.all (·.phase.isOver) with
    | true =>
      rw [List.all_cons, restUnfinished, Bool.and_true] at unfinished
      refine ⟨head, List.mem_cons_self, unfinished, fun other member unended => ?_⟩
      rcases List.mem_cons.mp member with rfl | member
      · exact Nat.le_refl _
      · rw [List.all_eq_true.mp restUnfinished other member] at unended
        exact Bool.noConfusion unended
    | false =>
      obtain ⟨task, member, unended, earliest⟩ := inductionHypothesis restUnfinished
      by_cases sooner : head.phase.isOver = false ∧ head.stage ≤ task.stage
      · refine ⟨head, List.mem_cons_self, sooner.1, fun other otherMember unended => ?_⟩
        rcases List.mem_cons.mp otherMember with rfl | otherMember
        · exact Nat.le_refl _
        · exact Nat.le_trans sooner.2 (earliest other otherMember unended)
      · refine ⟨task, List.mem_cons_of_mem _ member, unended, fun other otherMember unended => ?_⟩
        rcases List.mem_cons.mp otherMember with rfl | otherMember
        · have later : ¬ other.stage ≤ task.stage := fun early => sooner ⟨unended, early⟩
          omega
        · exact earliest other otherMember unended

/-- When all tasks before it are over, the turn of a task has come or will never come. -/
theorem turn_ne_later (run : Run) (task : Task)
    (done : (run.before task).all (·.phase.isOver) = true) : run.turn task ≠ .later := by
  unfold turn
  simp only [done, if_true]
  split <;> exact nofun

/-- Unless all tasks are over, one of them is ready or a call is under way. -/
theorem Balanced.exists_ready_or_calling {run : Run} (balanced : run.Balanced)
    (positive : 0 < run.gate.capacity) (unfinished : run.isOver = false) :
    (∃ task ∈ run.tasks, run.isReady task = true) ∨
      ∃ task ∈ run.tasks, task.phase.isCalling = true := by
  by_cases calling : ∃ task ∈ run.tasks, task.phase.isCalling = true
  · exact Or.inr calling
  refine Or.inl ?_
  by_cases queued : ∃ task ∈ run.tasks, ∃ prompt ticket, task.phase = .waiting prompt ticket
  · obtain ⟨task, member, prompt, ticket, waiting⟩ := queued
    by_cases taken : run.gate.free = 0
    · -- All permits are held, but not by calls, so the holder of one is ready.
      have total := balanced.free_add_holders
      obtain ⟨holder, holderMember, holds⟩ :=
        List.countP_pos_iff.mp (show 0 < run.holders by omega)
      refine ⟨holder, holderMember, ?_⟩
      unfold holdsPermit at holds
      unfold isReady
      cases current : holder.phase <;> rw [current] at holds
      case waiting => exact holds
      case calling =>
        exact absurd ⟨holder, holderMember, by rw [current]; rfl⟩ calling
      all_goals exact Bool.noConfusion holds
    · refine ⟨task, member, ?_⟩
      have admitted := balanced.not_isQueued_of_free (Nat.pos_of_ne_zero taken) member
      simp only [isQueued, waiting, Bool.not_eq_false'] at admitted
      simp only [isReady, waiting, admitted]
  · obtain ⟨task, member, unended, earliest⟩ := exists_earliest run.tasks unfinished
    refine ⟨task, member, ?_⟩
    have held : task.phase = .held := by
      cases current : task.phase with
      | held => rfl
      | waiting prompt ticket => exact absurd ⟨task, member, prompt, ticket, current⟩ queued
      | calling ending time => exact absurd ⟨task, member, by rw [current]; rfl⟩ calling
      | ended ending => rw [current] at unended; exact Bool.noConfusion unended
      | skipped => rw [current] at unended; exact Bool.noConfusion unended
    have done : (run.before task).all (·.phase.isOver) = true := by
      refine List.all_eq_true.mpr fun other otherMember => ?_
      obtain ⟨otherMember, isBefore⟩ := List.mem_filter.mp otherMember
      have earlier : other.stage < task.stage := by
        rw [Bool.and_eq_true, decide_eq_true_eq] at isBefore
        exact isBefore.2
      cases unended : other.phase.isOver with
      | true => rfl
      | false => exact absurd (earliest other otherMember unended) (Nat.not_le.mpr earlier)
    have come := run.turn_ne_later task done
    unfold isReady
    rw [held]
    cases turn : run.turn task with
    | later => exact absurd turn come
    | never => rfl
    | now prompt => rfl

/-- When a call is under way, the clock moves to a moment at which one of them ends. -/
theorem exists_ready_advance (run : Run) {task : Task} (member : task ∈ run.tasks)
    (calling : task.phase.isCalling = true) :
    ∃ other ∈ run.advance.tasks, run.advance.isReady other = true := by
  have time_mem : ∀ time, time ∈ run.endings ↔
      ∃ other ∈ run.tasks, ∃ ending, other.phase = .calling ending time := by
    intro time
    unfold endings
    rw [List.mem_filterMap]
    refine exists_congr fun other => and_congr_right fun _ => ?_
    cases current : other.phase <;> simp
  cases first : run.endings.min? with
  | none =>
    obtain ⟨ending, time, current⟩ : ∃ ending time, task.phase = .calling ending time := by
      cases current : task.phase <;> rw [current] at calling
      case calling ending time => exact ⟨ending, time, rfl⟩
      all_goals exact Bool.noConfusion calling
    have some_ending := (time_mem time).mpr ⟨task, member, ending, current⟩
    rw [List.min?_eq_none_iff.mp first] at some_ending
    exact absurd some_ending List.not_mem_nil
  | some time =>
    obtain ⟨other, otherMember, ending, current⟩ := (time_mem time).mp (List.min?_mem first)
    have moved : run.advance = { run with now := max run.now time } := by
      unfold advance
      rw [first]
    refine ⟨other, by rw [moved]; exact otherMember, ?_⟩
    rw [moved]
    simp only [isReady, current, decide_eq_true_eq]
    exact Nat.le_max_right _ _

/-- The run at the moment of its next pass. -/
def awake (run : Run) : Run :=
  if run.isSettled then run.advance else run

theorem awake_tasks (run : Run) : run.awake.tasks = run.tasks := by
  unfold awake advance
  split
  · split <;> rfl
  · rfl

theorem awake_totalWork (run : Run) : run.awake.totalWork = run.totalWork := by
  unfold totalWork
  rw [awake_tasks]

/-- Unless all tasks are over, one of them is ready at the moment of the next pass. -/
theorem Balanced.exists_ready_awake {run : Run} (balanced : run.Balanced)
    (positive : 0 < run.gate.capacity) (unfinished : run.isOver = false) :
    ∃ task ∈ run.awake.tasks, run.awake.isReady task = true := by
  have next := balanced.exists_ready_or_calling positive unfinished
  unfold awake
  cases settled : run.isSettled with
  | true =>
    rw [if_pos rfl]
    have idle : ¬ ∃ task ∈ run.tasks, run.isReady task = true := by
      rintro ⟨task, member, ready⟩
      have unready := List.all_eq_true.mp settled task member
      rw [ready] at unready
      exact Bool.noConfusion unready
    obtain ⟨task, member, calling⟩ := next.resolve_left idle
    exact run.exists_ready_advance member calling
  | false =>
    rw [if_neg Bool.false_ne_true]
    obtain ⟨task, member, unsettled⟩ := List.all_eq_false.mp settled
    rw [Bool.not_eq_true', Bool.not_eq_false] at unsettled
    exact ⟨task, member, unsettled⟩

theorem Balanced.totalWork_round_lt {run : Run} (balanced : run.Balanced)
    (positive : 0 < run.gate.capacity) (unfinished : run.isOver = false) :
    run.round.totalWork < run.totalWork := by
  obtain ⟨task, member, ready⟩ := balanced.exists_ready_awake positive unfinished
  rw [← run.awake_totalWork]
  exact run.awake.totalWork_pass_lt member ready

/-! ### The end -/

theorem Leads.balanced {first last : Run} (leads : first.Leads last) (balanced : first.Balanced) :
    last.Balanced := by
  obtain ⟨moves, _, rfl⟩ := leads
  exact balanced.play moves

theorem Leads.capacity {first last : Run} (leads : first.Leads last) :
    last.gate.capacity = first.gate.capacity := by
  obtain ⟨moves, _, rfl⟩ := leads
  exact (play_gate_fixed first moves).1

theorem rounds_isOver (count : Nat) (run : Run) (balanced : run.Balanced)
    (positive : 0 < run.gate.capacity) (enough : run.totalWork ≤ count) :
    (rounds count run).isOver = true := by
  induction count generalizing run with
  | zero => exact run.isOver_of_totalWork_eq_zero (Nat.le_zero.mp enough)
  | succ count inductionHypothesis =>
    rw [rounds]
    cases allOver : run.isOver with
    | true =>
      rw [if_pos rfl]
      exact allOver
    | false =>
      rw [if_neg Bool.false_ne_true]
      have less := balanced.totalWork_round_lt positive allOver
      exact inductionHypothesis run.round ((leads_round run).balanced balanced)
        ((leads_round run).capacity ▸ positive) (by omega)

/-- From every state in which the books are in order a run can be completed, if there is a permit
at all. -/
theorem Balanced.complete_isOver {run : Run} (balanced : run.Balanced)
    (positive : 0 < run.gate.capacity) : run.complete.isOver = true :=
  rounds_isOver _ run balanced positive (Nat.le_refl _)

end Run

end Triage
