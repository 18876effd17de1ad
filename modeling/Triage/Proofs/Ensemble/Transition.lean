/-
This file says once what the step of a task can do. A step either changes nothing, or it brings one
task into a new phase, with a new state of the gate and a new peak; there are six ways in which this
can happen. All that holds of every state of a run is derived from these six ways.
-/

import Triage.Proofs.Ensemble.Schedule

namespace Triage

/-- The fault of a model that is turned away before it takes a ticket. -/
def Model.refusal? (model : Model) (isOpen : Bool) : Option Fault :=
  match model.defect? with
  | some defect => some (model.fault defect)
  | none => if isOpen then none else some .gateClosed

/-- A task that has not been taken further yet. -/
def Task.fresh (task : Task) : Task :=
  { task with phase := .held }

theorem map_fresh_stage (tasks : List Task) :
    (tasks.map Task.fresh).map (·.stage) = tasks.map (·.stage) :=
  List.map_map

@[simp] theorem Gate.admits_issue (gate : Gate) (ticket : Nat) :
    gate.issue.admits ticket = gate.admits ticket := rfl

namespace Run

/-- A task passes the gate with a prompt and leaves it in a new state: at once when its turn comes,
or later with a ticket that has been admitted by then. -/
inductive Passes (run : Run) (task : Task) (prompt : String) : Gate → Prop where
  | atOnce (held : task.phase = .held) (turn : run.turn task = .now prompt)
      (welcome : task.model.refusal? run.gate.isOpen = none)
      (admitted : run.gate.admits run.gate.issued = true) : Passes run task prompt run.gate.issue
  | withTicket {ticket : Nat} (waiting : task.phase = .waiting prompt ticket)
      (admitted : run.gate.admits ticket = true) : Passes run task prompt run.gate

/-- The peak after an attempt that ends in a given way has been started. -/
def peakAfter (run : Run) (ending : Ending) : Nat :=
  if ending.call?.isSome then max run.peak (run.inFlight + 1) else run.peak

/-- The new phase of a task, the new gate and the new peak that a step can bring. -/
inductive Transition (run : Run) (task : Task) : Phase → Gate → Nat → Prop where
  | skip (held : task.phase = .held) (never : run.turn task = .never) :
      Transition run task .skipped run.gate run.peak
  | refuse {prompt : String} {fault : Fault} (held : task.phase = .held)
      (turn : run.turn task = .now prompt)
      (refused : task.model.refusal? run.gate.isOpen = some fault) :
      Transition run task (.ended (.refused fault)) run.gate run.peak
  | queue {prompt : String} (held : task.phase = .held) (turn : run.turn task = .now prompt)
      (welcome : task.model.refusal? run.gate.isOpen = none)
      (full : run.gate.admits run.gate.issued = false) :
      Transition run task (.waiting prompt run.gate.issued) run.gate.issue run.peak
  | call {prompt : String} {gate : Gate} {ending : Ending} {duration : Nat}
      (passes : run.Passes task prompt gate)
      (attempt : task.model.attempt run.providers prompt run.now = (ending, duration))
      (lasting : duration ≠ 0) :
      Transition run task (.calling ending (run.now + duration)) gate (run.peakAfter ending)
  | settle {prompt : String} {gate : Gate} {ending : Ending}
      (passes : run.Passes task prompt gate)
      (attempt : task.model.attempt run.providers prompt run.now = (ending, 0)) :
      Transition run task (.ended ending) gate.giveBack (run.peakAfter ending)
  | conclude {ending : Ending} {time : Nat} (calling : task.phase = .calling ending time)
      (due : time ≤ run.now) : Transition run task (.ended ending) run.gate.giveBack run.peak

/-- The failures of a stage that come into the log when a task reaches a phase. -/
def logged (run : Run) (task : Task) : Phase → List String
  | .ended _ => run.stageFailures task
  | _ => []

/-- The run in which the task at a position has reached a phase. -/
def become (run : Run) (position : Nat) (task : Task) (phase : Phase) (gate : Gate) (peak : Nat) :
    Run :=
  let changed := { run with gate, peak }.setPhase position phase
  { changed with log := run.log ++ changed.logged task phase }

/-! ### Every step is one of the six ways -/

theorem enter_eq_become (run : Run) (position : Nat) (task : Task) (prompt : String) (gate : Gate)
    (ending : Ending) (duration : Nat)
    (attempt : task.model.attempt run.providers prompt run.now = (ending, duration)) :
    { run with gate }.enter position task prompt =
      if duration = 0 then
        run.become position task (.ended ending) gate.giveBack (run.peakAfter ending)
      else
        run.become position task (.calling ending (run.now + duration)) gate
          (run.peakAfter ending) := by
  have noted : (if ending.call?.isSome then { run with gate }.noteCall else { run with gate }) =
      { run with gate, peak := run.peakAfter ending } := by
    unfold peakAfter
    split <;> rfl
  simp only [enter, attempt, noted]
  split
  · rfl
  · simp only [become, logged, setPhase, List.append_nil]

theorem transition_of_passes (run : Run) (position : Nat) (task : Task) (prompt : String)
    (gate : Gate) (passes : run.Passes task prompt gate) :
    ∃ phase gate' peak, run.Transition task phase gate' peak ∧
      { run with gate }.enter position task prompt = run.become position task phase gate' peak := by
  rcases attempt : task.model.attempt run.providers prompt run.now with ⟨ending, duration⟩
  rw [enter_eq_become run position task prompt gate ending duration attempt]
  by_cases instant : duration = 0
  · subst instant
    exact ⟨_, _, _, .settle passes attempt, if_pos rfl⟩
  · exact ⟨_, _, _, .call passes attempt instant, if_neg instant⟩

theorem ask_cases (run : Run) (position : Nat) (task : Task) (prompt : String)
    (held : task.phase = .held) (turn : run.turn task = .now prompt) :
    ∃ phase gate peak, run.Transition task phase gate peak ∧
      run.ask position task prompt = run.become position task phase gate peak := by
  unfold ask
  cases defect : task.model.defect? with
  | some value =>
    exact ⟨_, _, _, .refuse held turn (by rw [Model.refusal?, defect]), rfl⟩
  | none =>
    by_cases isOpen : run.gate.isOpen = true
    · have welcome : task.model.refusal? run.gate.isOpen = none := by
        rw [Model.refusal?, defect, isOpen]
        rfl
      cases admitted : run.gate.admits run.gate.issued with
      | true =>
        obtain ⟨phase, gate, peak, transition, result⟩ := transition_of_passes run position task
          prompt run.gate.issue (.atOnce held turn welcome admitted)
        refine ⟨phase, gate, peak, transition, ?_⟩
        simp only [isOpen, Bool.not_true, Bool.false_eq_true, if_false, Gate.admits_issue,
          admitted, if_true, result]
      | false =>
        refine ⟨_, _, _, .queue held turn welcome admitted, ?_⟩
        simp only [isOpen, Bool.not_true, Bool.false_eq_true, if_false, Gate.admits_issue,
          admitted, become, logged, setPhase, List.append_nil]
    · have closed : run.gate.isOpen = false := Bool.not_eq_true _ ▸ isOpen
      refine ⟨_, _, _, .refuse held turn (by rw [Model.refusal?, defect, closed]; rfl), ?_⟩
      simp only [closed, Bool.not_false, if_true]
      rfl

/-- A step is a transition of the task at its position, unless this task is not ready; then it
changes nothing. -/
theorem step_cases (run : Run) (position : Nat) :
    (run.step position = run ∧
        ∀ task, run.tasks[position]? = some task → run.isReady task = false) ∨
      ∃ task phase gate peak, run.tasks[position]? = some task ∧
        run.Transition task phase gate peak ∧
        run.step position = run.become position task phase gate peak := by
  unfold step
  cases found : run.tasks[position]? with
  | none => exact Or.inl ⟨rfl, fun task absent => absurd absent (Option.some_ne_none task).symm⟩
  | some task =>
    have idle (same : run.isReady task = false) (other : Task) (equal : some task = some other) :
        run.isReady other = false :=
      Option.some.inj equal ▸ same
    cases current : task.phase with
    | held =>
      cases turn : run.turn task with
      | later =>
        refine Or.inl ⟨?_, idle ?_⟩
        · simp only [current, turn]
        · simp only [isReady, current, turn]
      | never =>
        refine Or.inr ⟨task, _, _, _, rfl, .skip current turn, ?_⟩
        simp only [current, turn, become, logged, setPhase, List.append_nil]
      | now prompt =>
        obtain ⟨phase, gate, peak, transition, result⟩ :=
          ask_cases run position task prompt current turn
        refine Or.inr ⟨task, phase, gate, peak, rfl, transition, ?_⟩
        simp only [current, turn, result]
    | waiting prompt ticket =>
      cases admitted : run.gate.admits ticket with
      | true =>
        obtain ⟨phase, gate, peak, transition, result⟩ := transition_of_passes run position task
          prompt run.gate (.withTicket current admitted)
        refine Or.inr ⟨task, phase, gate, peak, rfl, transition, ?_⟩
        simp only [current, admitted, if_true]
        exact result
      | false =>
        refine Or.inl ⟨?_, idle ?_⟩
        · simp only [current, admitted, Bool.false_eq_true, if_false]
        · simp only [isReady, current, admitted]
    | calling ending time =>
      by_cases due : time ≤ run.now
      · refine Or.inr ⟨task, _, _, _, rfl, .conclude current due, ?_⟩
        simp only [current]
        rw [if_pos due]
        rfl
      · refine Or.inl ⟨?_, idle ?_⟩
        · simp only [current]
          exact if_neg due
        · simp only [isReady, current, due, decide_false]
    | ended ending =>
      refine Or.inl ⟨?_, idle ?_⟩
      · simp only [current]
      · simp only [isReady, current]
    | skipped =>
      refine Or.inl ⟨?_, idle ?_⟩
      · simp only [current]
      · simp only [isReady, current]

/-- A task that can be taken further is ready. -/
theorem Transition.isReady {run : Run} {task : Task} {phase : Phase} {gate : Gate} {peak : Nat}
    (transition : run.Transition task phase gate peak) : run.isReady task = true := by
  have passed {prompt : String} {other : Gate} (passes : run.Passes task prompt other) :
      run.isReady task = true := by
    cases passes with
    | atOnce held turn _ _ => simp only [Run.isReady, held, turn]
    | withTicket waiting admitted => simp only [Run.isReady, waiting, admitted]
  cases transition with
  | skip held never => simp only [Run.isReady, held, never]
  | refuse held turn _ => simp only [Run.isReady, held, turn]
  | queue held turn _ _ => simp only [Run.isReady, held, turn]
  | call passes _ _ => exact passed passes
  | settle passes _ => exact passed passes
  | conclude calling due => simp only [Run.isReady, calling, due, decide_true]

/-- A step of a task that is not ready changes nothing. -/
theorem step_eq_self {run : Run} {position : Nat} {task : Task}
    (found : run.tasks[position]? = some task) (unready : run.isReady task = false) :
    run.step position = run := by
  rcases run.step_cases position with ⟨same, _⟩ | ⟨other, _, _, _, foundOther, transition, _⟩
  · exact same
  · obtain rfl : task = other := Option.some.inj (found.symm.trans foundOther)
    rw [transition.isReady] at unready
    exact Bool.noConfusion unready

/-- A task whose turn has come and that is not refused asks the gate for a ticket. -/
theorem step_of_welcome {run : Run} {position : Nat} {task : Task} {prompt : String}
    (found : run.tasks[position]? = some task) (held : task.phase = .held)
    (turn : run.turn task = .now prompt) (welcome : task.model.refusal? run.gate.isOpen = none) :
    run.step position =
      if run.gate.admits run.gate.issued then
        { run with gate := run.gate.issue }.enter position task prompt
      else run.become position task (.waiting prompt run.gate.issued) run.gate.issue run.peak := by
  unfold step
  unfold Model.refusal? at welcome
  cases defect : task.model.defect? with
  | some _ => rw [defect] at welcome; exact nomatch welcome
  | none =>
    have isOpen : run.gate.isOpen = true := by
      rw [defect] at welcome
      cases isOpen : run.gate.isOpen with
      | true => rfl
      | false => rw [isOpen] at welcome; exact nomatch welcome
    simp only [found, held, turn, ask, defect, isOpen, Bool.not_true, Bool.false_eq_true, if_false,
      Gate.admits_issue, become, logged, setPhase, List.append_nil]
    rfl

theorem Passes.step_eq {run : Run} {position : Nat} {task : Task} {prompt : String} {gate : Gate}
    (passes : run.Passes task prompt gate) (found : run.tasks[position]? = some task) :
    run.step position = { run with gate }.enter position task prompt := by
  cases passes with
  | atOnce held turn welcome admitted =>
    rw [step_of_welcome found held turn welcome, if_pos admitted]
  | withTicket waiting admitted =>
    unfold step
    simp only [found, waiting, admitted, if_true]

/-- A task that can be taken further in some way is taken further in this way. -/
theorem Transition.step_eq {run : Run} {position : Nat} {task : Task} {phase : Phase} {gate : Gate}
    {peak : Nat} (transition : run.Transition task phase gate peak)
    (found : run.tasks[position]? = some task) :
    run.step position = run.become position task phase gate peak := by
  cases transition with
  | skip held never =>
    unfold step
    simp only [found, held, never, become, logged, setPhase, List.append_nil]
  | refuse held turn refused =>
    unfold step
    simp only [found, held, turn]
    unfold ask
    unfold Model.refusal? at refused
    cases defect : task.model.defect? with
    | some value =>
      simp only [defect, Option.some.injEq] at refused
      rw [← refused]
      rfl
    | none =>
      cases isOpen : run.gate.isOpen with
      | true => simp only [defect, isOpen, if_true] at refused; exact nomatch refused
      | false =>
        simp only [defect, isOpen, Bool.false_eq_true, if_false, Option.some.injEq] at refused
        rw [← refused]
        rfl
  | queue held turn welcome full =>
    rw [step_of_welcome found held turn welcome, full, if_neg Bool.false_ne_true]
  | call passes attempt lasting =>
    rw [passes.step_eq found, enter_eq_become _ _ _ _ _ _ _ attempt, if_neg lasting]
  | settle passes attempt =>
    rw [passes.step_eq found, enter_eq_become _ _ _ _ _ _ _ attempt, if_pos rfl]
  | conclude calling due =>
    unfold step
    simp only [found, calling]
    rw [if_pos due]
    rfl

/-! ### What a transition leaves as it is -/

/-- Only tasks that are not over yet are taken further. -/
theorem Transition.isOver_eq_false {run : Run} {task : Task} {phase : Phase} {gate : Gate}
    {peak : Nat} (transition : run.Transition task phase gate peak) :
    task.phase.isOver = false := by
  cases transition with
  | skip held _ => rw [held]; rfl
  | refuse held _ _ => rw [held]; rfl
  | queue held _ _ _ => rw [held]; rfl
  | call passes _ _ => cases passes with
    | atOnce held _ _ _ => rw [held]; rfl
    | withTicket waiting _ => rw [waiting]; rfl
  | settle passes _ => cases passes with
    | atOnce held _ _ _ => rw [held]; rfl
    | withTicket waiting _ => rw [waiting]; rfl
  | conclude calling _ => rw [calling]; rfl

theorem Passes.gate_fixed {run : Run} {task : Task} {prompt : String} {gate : Gate}
    (passes : run.Passes task prompt gate) :
    gate.capacity = run.gate.capacity ∧ gate.isOpen = run.gate.isOpen := by
  cases passes <;> exact ⟨rfl, rfl⟩

/-- Nobody changes how many permits there are, and nobody closes the gate. -/
theorem Transition.gate_fixed {run : Run} {task : Task} {phase : Phase} {gate : Gate} {peak : Nat}
    (transition : run.Transition task phase gate peak) :
    gate.capacity = run.gate.capacity ∧ gate.isOpen = run.gate.isOpen := by
  cases transition with
  | call passes _ _ => exact passes.gate_fixed
  | settle passes _ => exact passes.gate_fixed
  | _ => exact ⟨rfl, rfl⟩

/-- A task that is taken further stays in its place, and all others stay as they are. -/
theorem become_tasks (run : Run) {position : Nat} {task : Task} (phase : Phase) (gate : Gate)
    (peak : Nat) (found : run.tasks[position]? = some task) :
    ∃ before after, run.tasks = before ++ task :: after ∧
      (run.become position task phase gate peak).tasks =
        before ++ { task with phase } :: after := by
  obtain ⟨inside, rfl⟩ := List.getElem?_eq_some_iff.mp found
  obtain ⟨before, other, after, split, length, changed⟩ :=
    List.exists_of_modify (fun task => { task with phase }) inside
  have same : run.tasks[position] = other := by
    simp only [split, ← length, List.getElem_append_right (Nat.le_refl _), Nat.sub_self,
      List.getElem_cons_zero]
  rw [same]
  exact ⟨before, after, split, changed⟩

/-- A task that is taken further, seen beside all the others. -/
theorem become_perm (run : Run) {position : Nat} {task : Task} (phase : Phase) (gate : Gate)
    (peak : Nat) (found : run.tasks[position]? = some task) :
    ∃ others, run.tasks.Perm (task :: others) ∧
      (run.become position task phase gate peak).tasks.Perm ({ task with phase } :: others) := by
  obtain ⟨before, after, split, changed⟩ := run.become_tasks phase gate peak found
  refine ⟨before ++ after, ?_, ?_⟩
  · rw [split]
    exact List.perm_middle
  · rw [changed]
    exact List.perm_middle

theorem getElem?_become_self (run : Run) {position : Nat} {task : Task} (phase : Phase) (gate : Gate)
    (peak : Nat) (found : run.tasks[position]? = some task) :
    (run.become position task phase gate peak).tasks[position]? = some { task with phase } := by
  refine (List.getElem?_modify_eq _ _ _).trans ?_
  rw [found]
  rfl

theorem getElem?_become_of_ne (run : Run) {position index : Nat} (task : Task) (phase : Phase)
    (gate : Gate) (peak : Nat) (different : position ≠ index) :
    (run.become position task phase gate peak).tasks[index]? = run.tasks[index]? :=
  List.getElem?_modify_ne _ _ different

/-- A task in the run after a transition is the one that was taken further or was there before. -/
theorem getElem?_become_cases {run : Run} {position index : Nat} {task other : Task} {phase : Phase}
    {gate : Gate} {peak : Nat} (found : run.tasks[position]? = some task)
    (listed : (run.become position task phase gate peak).tasks[index]? = some other) :
    (position = index ∧ other = { task with phase }) ∨
      (position ≠ index ∧ run.tasks[index]? = some other) := by
  by_cases same : position = index
  · subst same
    rw [run.getElem?_become_self phase gate peak found, Option.some.injEq] at listed
    exact Or.inl ⟨rfl, listed.symm⟩
  · rw [run.getElem?_become_of_ne task phase gate peak same] at listed
    exact Or.inr ⟨same, listed⟩

/-- The tasks apart from their phases. -/
def plan (run : Run) : List Task :=
  run.tasks.map Task.fresh

theorem become_plan (run : Run) {position : Nat} {task : Task} (phase : Phase) (gate : Gate)
    (peak : Nat) (found : run.tasks[position]? = some task) :
    (run.become position task phase gate peak).plan = run.plan := by
  obtain ⟨before, after, split, changed⟩ := run.become_tasks phase gate peak found
  simp only [plan, split, changed, List.map_append, List.map_cons, Task.fresh]

/-! ### What holds in every state -/

/-- At the start nothing has begun. -/
theorem start_phase {providers : Providers} {gate : Gate} {now : Nat} {batches : List Batch}
    {task : Task} (member : task ∈ (start providers gate now batches).tasks) :
    task.phase = .held := by
  obtain ⟨_, _, member⟩ := List.mem_flatMap.mp member
  obtain ⟨_, _, member⟩ := List.mem_flatMap.mp member
  obtain ⟨_, _, rfl⟩ := List.mem_map.mp member
  rfl

/-- What every transition, every lapse of time and every allowed change of the providers keep, every
schedule keeps. -/
theorem play_invariant {motive : Run → Prop} (tables : Providers → Prop)
    (taken : ∀ (run : Run) position task phase gate peak, motive run →
      run.tasks[position]? = some task → run.Transition task phase gate peak →
        motive (run.become position task phase gate peak))
    (waited : ∀ (run : Run) now, motive run → run.now ≤ now → motive { run with now })
    (answered : ∀ (run : Run) providers, motive run → tables providers →
      motive { run with providers })
    (moves : List Move) (within : ∀ move ∈ moves, move.Within tables) (run : Run)
    (base : motive run) : motive (run.play moves) := by
  refine play_keeps (Move.Within tables) (fun run move allowed holds => ?_) moves within run base
  cases move with
  | step position =>
    rw [act]
    rcases run.step_cases position with
      ⟨same, _⟩ | ⟨task, phase, gate, peak, found, transition, result⟩
    · rwa [same]
    · rw [result]
      exact taken run position task phase gate peak holds found transition
  | wait milliseconds => exact waited run _ holds (Nat.le_add_right _ _)
  | answer providers => exact answered run providers holds allowed

/-- The case of providers that may answer in any way. -/
theorem play_always {motive : Run → Prop}
    (taken : ∀ (run : Run) position task phase gate peak, motive run →
      run.tasks[position]? = some task → run.Transition task phase gate peak →
        motive (run.become position task phase gate peak))
    (waited : ∀ (run : Run) now, motive run → motive { run with now })
    (answered : ∀ (run : Run) providers, motive run → motive { run with providers })
    (moves : List Move) (run : Run) (base : motive run) : motive (run.play moves) :=
  play_invariant (fun _ => True) taken (fun run now holds _ => waited run now holds)
    (fun run providers holds _ => answered run providers holds) moves
    (fun move _ => move.within_any) run base

theorem play_gate_fixed (run : Run) (moves : List Move) :
    (run.play moves).gate.capacity = run.gate.capacity ∧
      (run.play moves).gate.isOpen = run.gate.isOpen := by
  refine play_always (motive := fun other => other.gate.capacity = run.gate.capacity ∧
      other.gate.isOpen = run.gate.isOpen)
    (fun other position task phase gate peak holds _ transition => ?_) (fun _ _ holds => holds)
    (fun _ _ holds => holds) moves run ⟨rfl, rfl⟩
  exact ⟨transition.gate_fixed.1.trans holds.1, transition.gate_fixed.2.trans holds.2⟩

theorem play_plan (run : Run) (moves : List Move) : (run.play moves).plan = run.plan := by
  refine play_always (motive := fun other => other.plan = run.plan)
    (fun other position task phase gate peak holds found _ => ?_) (fun _ _ holds => holds)
    (fun _ _ holds => holds) moves run rfl
  exact (other.become_plan phase gate peak found).trans holds

end Run

end Triage
