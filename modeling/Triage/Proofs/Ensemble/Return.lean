/-
This file proves that every batch returns. No state of a run is stuck: as long as a batch has not
returned, a task can be taken further at once, or a call is under way and its task can be taken
further when the call has ended. No run goes on for ever either, since a task can be taken further
three times at most. And a schedule need not be a good one to bring all batches back: it is enough
that it looks at every task again and again and that time passes.
-/

import Triage.Proofs.Ensemble.Arrangement

namespace Triage

namespace Run

/-- Have all tasks of a batch come to their end? -/
def hasReturned (run : Run) (number : Nat) : Bool :=
  (run.tasksOf number).all (·.phase.isOver)

/-- A run goes on to another state: after some time, and whoever answers by then, a task is taken
further. -/
inductive GoesOn (run : Run) : Run → Prop where
  | take {later : Run} {position : Nat} {task : Task} {phase : Phase} {gate : Gate} {peak : Nat}
      (milliseconds : Nat) (providers : Providers)
      (same : later = { run with now := run.now + milliseconds, providers })
      (found : later.tasks[position]? = some task)
      (transition : later.Transition task phase gate peak) :
      GoesOn run (later.become position task phase gate peak)

/-- The state of a run after some of the moves of an endless schedule. -/
def stateAt (run : Run) (schedule : Nat → Move) : Nat → Run
  | 0 => run
  | count + 1 => (run.stateAt schedule count).act (schedule count)

/-- An endless schedule is fair to a run: it looks at every task again and again, and lets time pass
beyond every moment. -/
structure IsFair (run : Run) (schedule : Nat → Move) : Prop where
  attentive : ∀ position < run.tasks.length, ∀ count,
    ∃ later, count ≤ later ∧ schedule later = .step position
  timely : ∀ time, ∃ count, time ≤ (run.stateAt schedule count).now

theorem isOver_iff_hasReturned (run : Run) :
    run.isOver = true ↔ ∀ number, run.hasReturned number = true := by
  unfold isOver hasReturned
  simp only [List.all_eq_true]
  constructor
  · exact fun all number task member => all task (List.mem_filter.mp member).1
  · intro all task member
    exact all task.batch task (List.mem_filter.mpr ⟨member, beq_self_eq_true _⟩)

/-! ### Work that is left -/

theorem totalWork_eq_zero_of_isOver {run : Run} (allOver : run.isOver = true) :
    run.totalWork = 0 := by
  unfold totalWork
  unfold isOver at allOver
  generalize run.tasks = tasks at allOver ⊢
  induction tasks with
  | nil => rfl
  | cons task rest inductionHypothesis =>
    rw [List.all_cons, Bool.and_eq_true] at allOver
    rw [List.map_cons, List.foldr_cons, inductionHypothesis allOver.2]
    cases current : task.phase <;> rw [current] at allOver <;>
      first | rfl | exact absurd allOver.1 Bool.false_ne_true

/-- A move takes a task further, or all tasks and the gate stay as they are. -/
theorem act_cases (run : Run) (move : Move) :
    (run.act move).totalWork < run.totalWork ∨
      ((run.act move).tasks = run.tasks ∧ (run.act move).gate = run.gate) := by
  cases move with
  | step position =>
    rw [act]
    rcases run.step_cases position with
      ⟨same, _⟩ | ⟨task, phase, gate, peak, found, transition, result⟩
    · exact Or.inr ⟨congrArg tasks same, congrArg Run.gate same⟩
    · rw [result]
      exact Or.inl (run.totalWork_become_lt found transition)
  | wait _ => exact Or.inr ⟨rfl, rfl⟩
  | answer _ => exact Or.inr ⟨rfl, rfl⟩

theorem now_le_act (run : Run) (move : Move) : run.now ≤ (run.act move).now := by
  cases move with
  | step position =>
    rw [act]
    rcases run.step_cases position with ⟨same, _⟩ | ⟨_, _, _, _, _, _, result⟩
    · exact Nat.le_of_eq (congrArg now same).symm
    · rw [result]
      exact Nat.le_refl _
  | wait _ => exact Nat.le_add_right _ _
  | answer _ => exact Nat.le_refl _

theorem totalWork_act_le (run : Run) (move : Move) : (run.act move).totalWork ≤ run.totalWork := by
  rcases run.act_cases move with less | ⟨same, _⟩
  · exact Nat.le_of_lt less
  · unfold totalWork
    exact Nat.le_of_eq (by rw [same])

theorem totalWork_play_le (run : Run) (moves : List Move) :
    (run.play moves).totalWork ≤ run.totalWork :=
  play_keeps (motive := fun other => other.totalWork ≤ run.totalWork) (fun _ => True)
    (fun other move _ less => Nat.le_trans (other.totalWork_act_le move) less) moves
    (fun _ _ => trivial) run (Nat.le_refl _)

/-- A step of a ready task takes it further. -/
theorem totalWork_step_lt {run : Run} {position : Nat} {task : Task}
    (found : run.tasks[position]? = some task) (ready : run.isReady task = true) :
    (run.step position).totalWork < run.totalWork := by
  rcases run.step_cases position with
    ⟨_, idle⟩ | ⟨_, phase, gate, peak, foundOther, transition, result⟩
  · rw [idle task found] at ready
    exact Bool.noConfusion ready
  · rw [result]
    exact run.totalWork_become_lt foundOther transition

theorem length_start_tasks (providers : Providers) (gate : Gate) (now : Nat)
    (batches : List Batch) :
    (start providers gate now batches).tasks.length = (batches.flatMap (·.models)).length := by
  unfold start
  have numbered : ∀ first, ((batches.zipIdx first).flatMap fun pair => pair.1.tasks pair.2).length =
      (batches.flatMap (·.models)).length := by
    induction batches with
    | nil => exact fun _ => rfl
    | cons batch rest inductionHypothesis =>
      intro first
      have own : (batch.tasks first).length = batch.models.length := by
        rw [← List.length_map (·.model), batch.tasks_model, batch.lineup_perm.length_eq]
      rw [List.zipIdx_cons, List.flatMap_cons, List.flatMap_cons, List.length_append,
        List.length_append, inductionHypothesis, own]
  exact numbered 0

theorem totalWork_start (providers : Providers) (gate : Gate) (now : Nat) (batches : List Batch) :
    (start providers gate now batches).totalWork =
      3 * (batches.flatMap (·.models)).length := by
  rw [← length_start_tasks providers gate now batches]
  have held : ∀ task ∈ (start providers gate now batches).tasks, workLeft task.phase = 3 :=
    fun task member => by rw [start_phase member]; rfl
  unfold totalWork
  generalize (start providers gate now batches).tasks = tasks at held
  induction tasks with
  | nil => rfl
  | cons task rest inductionHypothesis =>
    rw [List.map_cons, List.foldr_cons, held task List.mem_cons_self, List.length_cons,
      inductionHypothesis fun other member => held other (List.mem_cons_of_mem _ member)]
    omega

/-! ### No state is stuck -/

theorem GoesOn.totalWork_lt {run next : Run} (goesOn : run.GoesOn next) :
    next.totalWork < run.totalWork := by
  cases goesOn with
  | take _ _ same found transition =>
    have less := totalWork_become_lt _ found transition
    subst same
    exact less

/-- The books do not depend on the time or on who answers. -/
theorem Balanced.later {run : Run} (balanced : run.Balanced) (now : Nat) (providers : Providers) :
    ({ run with now, providers }).Balanced :=
  ⟨balanced.books, balanced.peak⟩

theorem GoesOn.balanced {run next : Run} (goesOn : run.GoesOn next) (balanced : run.Balanced) :
    next.Balanced := by
  cases goesOn with
  | take _ _ same found transition =>
    subst same
    exact (balanced.later _ _).become found transition

theorem GoesOn.capacity {run next : Run} (goesOn : run.GoesOn next) :
    next.gate.capacity = run.gate.capacity := by
  cases goesOn with
  | take _ _ same _ transition =>
    subst same
    exact transition.gate_fixed.1

/-- A call that is under way can be waited for. -/
theorem isReady_of_calling {run : Run} {task : Task} {ending : Ending} {time : Nat}
    (calling : task.phase = .calling ending time) (due : time ≤ run.now) :
    run.isReady task = true := by
  unfold isReady
  rw [calling]
  exact decide_eq_true due

theorem goesOn_of_isReady {run : Run} (milliseconds : Nat) {task : Task} (member : task ∈ run.tasks)
    (ready : ({ run with now := run.now + milliseconds }).isReady task = true) :
    ∃ next, run.GoesOn next := by
  obtain ⟨position, inside, found⟩ := List.getElem_of_mem member
  have found := List.getElem?_eq_some_iff.mpr ⟨inside, found⟩
  rcases step_cases { run with now := run.now + milliseconds } position with
    ⟨_, idle⟩ | ⟨_, phase, gate, peak, foundOther, transition, _⟩
  · rw [idle task found] at ready
    exact Bool.noConfusion ready
  · exact ⟨_, .take milliseconds run.providers rfl foundOther transition⟩

theorem Balanced.exists_goesOn {run : Run} (balanced : run.Balanced)
    (positive : 0 < run.gate.capacity) (unfinished : run.isOver = false) :
    ∃ next, run.GoesOn next := by
  rcases balanced.exists_ready_or_calling positive unfinished with
    ⟨task, member, ready⟩ | ⟨task, member, calling⟩
  · exact goesOn_of_isReady 0 member ready
  · cases current : task.phase <;> rw [current] at calling
    case calling ending time =>
      exact goesOn_of_isReady time member
        (isReady_of_calling current (Nat.le_add_left time run.now))
    all_goals exact Bool.noConfusion calling

/-- When no task can be taken further at the present moment, a call is under way. -/
theorem Balanced.inFlight_pos_of_isSettled {run : Run} (balanced : run.Balanced)
    (positive : 0 < run.gate.capacity) (unfinished : run.isOver = false)
    (settled : run.isSettled = true) : 0 < run.inFlight := by
  rcases balanced.exists_ready_or_calling positive unfinished with
    ⟨task, member, ready⟩ | ⟨task, member, calling⟩
  · have unready := List.all_eq_true.mp settled task member
    rw [ready] at unready
    exact Bool.noConfusion unready
  · exact List.countP_pos_iff.mpr ⟨task, member, calling⟩

theorem goesOn_path {run : Run} (balanced : run.Balanced) (states : Nat → Run) (count : Nat)
    (first : states 0 = run)
    (path : ∀ index < count, (states index).GoesOn (states (index + 1))) :
    (states count).Balanced ∧ (states count).gate.capacity = run.gate.capacity ∧
      (states count).totalWork + count ≤ run.totalWork := by
  induction count with
  | zero =>
    rw [first]
    exact ⟨balanced, rfl, Nat.le_refl _⟩
  | succ count inductionHypothesis =>
    obtain ⟨kept, capacity, less⟩ :=
      inductionHypothesis fun index early => path index (Nat.lt_succ_of_lt early)
    have next := path count (Nat.lt_succ_self count)
    have step := next.totalWork_lt
    exact ⟨next.balanced kept, next.capacity.trans capacity, by omega⟩

/-! ### Fair schedules -/

section

variable {run : Run} {schedule : Nat → Move}

theorem stateAt_eq_play (run : Run) (schedule : Nat → Move) (count : Nat) :
    run.stateAt schedule count = run.play ((List.range count).map schedule) := by
  induction count with
  | zero => rfl
  | succ count inductionHypothesis =>
    rw [stateAt, inductionHypothesis, List.range_succ, List.map_append, play_append]
    rfl

theorem totalWork_stateAt_antitone (run : Run) (schedule : Nat → Move) {early late : Nat}
    (order : early ≤ late) :
    (run.stateAt schedule late).totalWork ≤ (run.stateAt schedule early).totalWork := by
  induction order with
  | refl => exact Nat.le_refl _
  | step _ inductionHypothesis =>
    exact Nat.le_trans (totalWork_act_le _ _) inductionHypothesis

theorem now_stateAt_mono (run : Run) (schedule : Nat → Move) {early late : Nat}
    (order : early ≤ late) :
    (run.stateAt schedule early).now ≤ (run.stateAt schedule late).now := by
  induction order with
  | refl => exact Nat.le_refl _
  | step _ inductionHypothesis => exact Nat.le_trans inductionHypothesis (now_le_act _ _)

/-- As long as no work is done, all tasks and the gate stay as they are. -/
theorem stateAt_eq_of_totalWork_eq {early late : Nat} (order : early ≤ late)
    (same : (run.stateAt schedule late).totalWork = (run.stateAt schedule early).totalWork) :
    (run.stateAt schedule late).tasks = (run.stateAt schedule early).tasks ∧
      (run.stateAt schedule late).gate = (run.stateAt schedule early).gate := by
  induction order with
  | refl => exact ⟨rfl, rfl⟩
  | @step late order inductionHypothesis =>
    have before := run.totalWork_stateAt_antitone schedule order
    rcases (run.stateAt schedule late).act_cases (schedule late) with less | ⟨tasks, gate⟩
    · rw [stateAt] at same
      omega
    · have after := (run.stateAt schedule late).totalWork_act_le (schedule late)
      rw [stateAt] at same
      obtain ⟨oldTasks, oldGate⟩ := inductionHypothesis (by omega)
      exact ⟨tasks.trans oldTasks, gate.trans oldGate⟩

/-- What is ready stays ready while tasks and gate stay as they are. -/
theorem isReady_of_same {first last : Run} (tasks : last.tasks = first.tasks)
    (gate : last.gate = first.gate) (order : first.now ≤ last.now) {task : Task}
    (ready : first.isReady task = true) : last.isReady task = true := by
  unfold isReady turn before at ready ⊢
  rw [tasks, gate]
  cases current : task.phase <;> simp only [current] at ready ⊢
  case calling =>
    rw [decide_eq_true_eq] at ready ⊢
    exact Nat.le_trans ready order
  all_goals exact ready

/-- From every state on, a fair schedule comes to one with less work, unless all tasks are over. -/
theorem IsFair.exists_totalWork_lt (fair : run.IsFair schedule) (balanced : run.Balanced)
    (positive : 0 < run.gate.capacity) (count : Nat)
    (unfinished : (run.stateAt schedule count).isOver = false) :
    ∃ later, (run.stateAt schedule later).totalWork < (run.stateAt schedule count).totalWork := by
  have kept : (run.stateAt schedule count).Balanced := stateAt_eq_play run schedule count ▸
    balanced.play _
  have capacity : (run.stateAt schedule count).gate.capacity = run.gate.capacity := by
    rw [stateAt_eq_play]
    exact (play_gate_fixed run _).1
  -- Whoever is ready now or at a later moment is taken further when its turn comes then.
  have taken {task : Task} (member : task ∈ (run.stateAt schedule count).tasks) (moment : Nat)
      (ready : ∀ later : Run, later.tasks = (run.stateAt schedule count).tasks →
        later.gate = (run.stateAt schedule count).gate →
          (run.stateAt schedule count).now ≤ later.now → moment ≤ later.now →
            later.isReady task = true) :
      ∃ later, (run.stateAt schedule later).totalWork <
        (run.stateAt schedule count).totalWork := by
    obtain ⟨position, inside, found⟩ := List.getElem_of_mem member
    have found := List.getElem?_eq_some_iff.mpr ⟨inside, found⟩
    have length : (run.stateAt schedule count).tasks.length = run.tasks.length := by
      have fixed := congrArg List.length (play_plan run ((List.range count).map schedule))
      unfold plan at fixed
      rwa [List.length_map, List.length_map, ← stateAt_eq_play] at fixed
    obtain ⟨past, passed⟩ := fair.timely moment
    obtain ⟨later, order, step⟩ := fair.attentive position (length ▸ inside) (max count past)
    have after : count ≤ later := Nat.le_trans (Nat.le_max_left _ _) order
    have less := run.totalWork_stateAt_antitone schedule after
    by_cases same : (run.stateAt schedule later).totalWork = (run.stateAt schedule count).totalWork
    · obtain ⟨tasks, gate⟩ := stateAt_eq_of_totalWork_eq after same
      have due := run.now_stateAt_mono schedule (Nat.le_trans (Nat.le_max_right _ _) order)
      refine ⟨later + 1, same ▸ ?_⟩
      rw [stateAt, step]
      exact totalWork_step_lt (tasks ▸ found) (ready _ tasks gate
        (run.now_stateAt_mono schedule after) (Nat.le_trans passed due))
    · exact ⟨later, Nat.lt_of_le_of_ne less same⟩
  rcases kept.exists_ready_or_calling (capacity ▸ positive) unfinished with
    ⟨task, member, ready⟩ | ⟨task, member, calling⟩
  · exact taken member 0 fun later tasks gate order _ => isReady_of_same tasks gate order ready
  · cases current : task.phase <;> rw [current] at calling
    case calling ending time =>
      exact taken member time fun later _ _ _ due => isReady_of_calling current due
    all_goals exact Bool.noConfusion calling

theorem IsFair.exists_isOver (fair : run.IsFair schedule) (balanced : run.Balanced)
    (positive : 0 < run.gate.capacity) :
    ∃ count, (run.stateAt schedule count).isOver = true := by
  have reached : ∀ work count, (run.stateAt schedule count).totalWork ≤ work →
      ∃ count, (run.stateAt schedule count).isOver = true := by
    intro work
    induction work with
    | zero =>
      intro count nothing
      exact ⟨count, isOver_of_totalWork_eq_zero _ (Nat.le_zero.mp nothing)⟩
    | succ work inductionHypothesis =>
      intro count enough
      cases unfinished : (run.stateAt schedule count).isOver with
      | true => exact ⟨count, unfinished⟩
      | false =>
        obtain ⟨later, less⟩ := fair.exists_totalWork_lt balanced positive count unfinished
        exact inductionHypothesis later (by omega)
  exact reached _ 0 (Nat.le_refl _)

/-- What is over stays over. -/
theorem isOver_stateAt {early late : Nat} (order : early ≤ late)
    (allOver : (run.stateAt schedule early).isOver = true) :
    (run.stateAt schedule late).isOver = true := by
  have less := run.totalWork_stateAt_antitone schedule order
  rw [totalWork_eq_zero_of_isOver allOver] at less
  exact isOver_of_totalWork_eq_zero _ (Nat.le_zero.mp less)

end

/-- The schedule that looks at all tasks in turn and then lets a millisecond pass, again and
again. -/
def roundRobin (run : Run) (index : Nat) : Move :=
  if index % (run.tasks.length + 1) = run.tasks.length then .wait 1
  else .step (index % (run.tasks.length + 1))

/-- Every run has a fair schedule. -/
theorem isFair_roundRobin (run : Run) : run.IsFair run.roundRobin where
  attentive := by
    intro position inside count
    have place :
        (count * (run.tasks.length + 1) + position) % (run.tasks.length + 1) = position := by
      rw [Nat.mul_add_mod_of_lt (Nat.lt_succ_of_lt inside)]
    refine ⟨count * (run.tasks.length + 1) + position, ?_, ?_⟩
    · exact Nat.le_trans (Nat.le_mul_of_pos_right count (Nat.succ_pos _)) (Nat.le_add_right _ _)
    · unfold roundRobin
      rw [place, if_neg (Nat.ne_of_lt inside)]
  timely := by
    intro time
    induction time with
    | zero => exact ⟨0, Nat.zero_le _⟩
    | succ time inductionHypothesis =>
      obtain ⟨count, reached⟩ := inductionHypothesis
      have later : count ≤ count * (run.tasks.length + 1) + run.tasks.length :=
        Nat.le_trans (Nat.le_mul_of_pos_right count (Nat.succ_pos _)) (Nat.le_add_right _ _)
      refine ⟨count * (run.tasks.length + 1) + run.tasks.length + 1, ?_⟩
      have pause :
          run.roundRobin (count * (run.tasks.length + 1) + run.tasks.length) = .wait 1 := by
        unfold roundRobin
        rw [Nat.mul_add_mod_of_lt (Nat.lt_succ_self _), if_pos rfl]
      rw [stateAt, pause]
      exact Nat.succ_le_succ (Nat.le_trans reached (run.now_stateAt_mono _ later))

/-! ### All batches return -/

/-- Every batch returns. From every state that a run on a gate with a permit can reach: while a
batch has not returned, the run can go on, and if it has to wait for that, a call is under way.
However it goes on, it can do so three times for each model at most, and it stops going on just when
all batches have returned. Every fair schedule brings all batches back in the end, and so does the
way in which runs are completed. -/
theorem every_batch_returns (providers : Providers) {capacity : Nat} (positive : 0 < capacity)
    (now : Nat) (batches : List Batch) (moves : List Move) :
    let run := (start providers (.withPermits capacity) now batches).play moves
    ((∃ number, run.hasReturned number = false) →
      (∃ next, run.GoesOn next) ∧ (run.isSettled = true → 0 < run.inFlight)) ∧
    (∀ (states : Nat → Run) (count : Nat), states 0 = run →
      (∀ index < count, (states index).GoesOn (states (index + 1))) →
        count ≤ 3 * (batches.flatMap (·.models)).length ∧
          ((¬ ∃ next, (states count).GoesOn next) ↔
            ∀ number, (states count).hasReturned number = true)) ∧
    (∀ schedule, run.IsFair schedule → ∃ count, ∀ later, count ≤ later →
      ∀ number, (run.stateAt schedule later).hasReturned number = true) ∧
    ∀ number, run.complete.hasReturned number = true := by
  intro run
  have balanced : run.Balanced :=
    (balanced_start providers (Gate.isWhole_withPermits capacity) now batches).play moves
  have fixed : run.gate.capacity = capacity := (play_gate_fixed _ moves).1
  have some : 0 < run.gate.capacity := fixed ▸ positive
  refine ⟨fun ⟨number, unreturned⟩ => ?_, fun states count first path => ?_,
    fun schedule fair => ?_, ?_⟩
  · have unfinished : run.isOver = false := by
      rw [← Bool.not_eq_true, isOver_iff_hasReturned]
      exact fun all => Bool.noConfusion ((all number).symm.trans unreturned)
    exact ⟨balanced.exists_goesOn some unfinished,
      balanced.inFlight_pos_of_isSettled some unfinished⟩
  · obtain ⟨kept, capacitySame, work⟩ := goesOn_path balanced states count first path
    have total := totalWork_play_le (start providers (.withPermits capacity) now batches) moves
    rw [totalWork_start] at total
    refine ⟨Nat.le_trans (Nat.le_trans (Nat.le_add_left _ _) work) total, ?_⟩
    rw [← isOver_iff_hasReturned]
    constructor
    · intro stuck
      rw [← Bool.not_eq_false]
      exact fun unfinished => stuck (kept.exists_goesOn (capacitySame ▸ some) unfinished)
    · rintro allOver ⟨next, goesOn⟩
      have less := goesOn.totalWork_lt
      rw [totalWork_eq_zero_of_isOver allOver] at less
      exact Nat.not_lt_zero _ less
  · obtain ⟨count, allOver⟩ := fair.exists_isOver balanced some
    exact ⟨count, fun later order =>
      (isOver_iff_hasReturned _).mp (isOver_stateAt order allOver)⟩
  · exact (isOver_iff_hasReturned _).mp (balanced.complete_isOver some)

/-- The case of one permit for a cascade that stops at a model without a provider, a hierarchy with
a model that is not sound, and a call that is cut off. -/
theorem every_batch_returns_with_one_permit :
    let ask (provider : String) (tag : Option String) : Model :=
      { provider, name := "m", kind := .fast, specializedFor := tag }
    let echo : Provider := ⟨"echo", fun request => ⟨5, .ok ⟨request.prompt, "echo", "m"⟩⟩⟩
    let late : Provider := ⟨"late", fun _ => ⟨40000, .ok ⟨"", "late", "m"⟩⟩⟩
    let batches : List Batch := [
      ⟨.cascade, [ask "echo" none, ask "nobody" none, ask "echo" none], "a"⟩,
      ⟨.hierarchical, [(ask "echo" none).set (.maxTokens 0), ask "late" (some "net")], "b"⟩]
    let run := (start (.ofList [echo, late]) (.withPermits 1) 0 batches).play [.step 0, .step 3]
    run.hasReturned 0 = false ∧ (∃ next, run.GoesOn next) ∧ run.complete.hasReturned 0 = true ∧
      ∃ count, (run.stateAt run.roundRobin count).hasReturned 1 = true := by
  intro ask echo late batches run
  obtain ⟨progress, _, fairly, returned⟩ := every_batch_returns (.ofList [echo, late]) Nat.one_pos 0
    batches [.step 0, .step 3]
  have unreturned : run.hasReturned 0 = false := by decide +kernel
  obtain ⟨count, after⟩ := fairly run.roundRobin run.isFair_roundRobin
  exact ⟨unreturned, (progress ⟨0, unreturned⟩).1, returned 0, count, after count (Nat.le_refl _) 1⟩

end Run

end Triage
