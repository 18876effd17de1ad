/-
This file proves what stands in the log of a run of one batch, in every state. The failures of a
stage come into the log together, when the last of its tasks ends, and they come in the order of
their slots, whichever of them failed first. A stage opens only when all stages before it are over,
so the log as a whole is in the order of the slots as well.

The invariant reads the log off the tasks: the message of a task counts once all tasks of its stage
are over. What has to be shown for a step is that no later stage can have brought a message yet.
-/

import Triage.Proofs.Ensemble.Outcome

namespace Triage

/-! ### The tasks of one batch -/

/-- All tasks belong to one batch, and they stand stage after stage. -/
structure OneBatch (number : Nat) (chained : Bool) (tasks : List Task) : Prop where
  own : ∀ task ∈ tasks, task.batch = number ∧ task.isChained = chained
  ordered : (tasks.map (·.stage)).Pairwise (· ≤ ·)

/-- How far the tasks have come does not matter. -/
theorem oneBatch_map_fresh {number : Nat} {chained : Bool} {tasks : List Task} :
    OneBatch number chained (tasks.map Task.fresh) ↔ OneBatch number chained tasks := by
  constructor
  · rintro ⟨own, ordered⟩
    rw [map_fresh_stage] at ordered
    exact ⟨fun task member => own task.fresh (List.mem_map_of_mem member), ordered⟩
  · rintro ⟨own, ordered⟩
    refine ⟨fun task member => ?_, by rw [map_fresh_stage]; exact ordered⟩
    obtain ⟨other, inside, rfl⟩ := List.mem_map.mp member
    exact own other inside

theorem Batch.oneBatch_tasks (batch : Batch) (number : Nat) :
    OneBatch number batch.strategy.isChained (batch.tasks number) := by
  refine ⟨fun task member => ?_, ?_⟩
  · have known := Batch.of_mem_tasks member
    exact ⟨known.1, known.2.2.1⟩
  · unfold Batch.tasks
    generalize batch.strategy.stages batch.models = stages
    -- The stages are numbered from some number on, and no task has a smaller one.
    have numbered : ∀ first,
        (((stages.zipIdx first).flatMap fun pair =>
          batch.tasksOfStage number pair.2 pair.1).map (·.stage)).Pairwise (· ≤ ·) ∧
        ∀ stage ∈ ((stages.zipIdx first).flatMap fun pair =>
          batch.tasksOfStage number pair.2 pair.1).map (·.stage), first ≤ stage := by
      induction stages with
      | nil => exact fun _ => ⟨List.Pairwise.nil, fun _ member => absurd member List.not_mem_nil⟩
      | cons models rest inductionHypothesis =>
        intro first
        obtain ⟨ordered, late⟩ := inductionHypothesis (first + 1)
        have own : (batch.tasksOfStage number first models).map (·.stage) =
            List.replicate models.length first := by
          unfold tasksOfStage
          rw [List.map_map]
          exact List.map_const'
        rw [List.zipIdx_cons, List.flatMap_cons, List.map_append, own]
        refine ⟨List.pairwise_append.mpr ⟨?_, ordered, fun stage member other otherMember => ?_⟩,
          fun stage member => ?_⟩
        · exact List.pairwise_replicate.mpr (Or.inr (Nat.le_refl first))
        · rw [(List.mem_replicate.mp member).2]
          exact Nat.le_of_succ_le (late other otherMember)
        · rcases List.mem_append.mp member with member | member
          · exact Nat.le_of_eq (List.mem_replicate.mp member).2.symm
          · exact Nat.le_of_succ_le (late stage member)
    exact (numbered 0).1

/-- The tasks before a stage, those of the stage and those behind it. -/
theorem split_at_stage {tasks : List Task} (ordered : (tasks.map (·.stage)).Pairwise (· ≤ ·))
    (stage : Nat) :
    tasks.filter (fun task => decide (task.stage < stage)) ++
      (tasks.filter (fun task => task.stage == stage) ++
        tasks.filter fun task => decide (stage < task.stage)) = tasks := by
  induction tasks with
  | nil => rfl
  | cons head rest inductionHypothesis =>
    rw [List.map_cons, List.pairwise_cons] at ordered
    have behind : ∀ task ∈ rest, head.stage ≤ task.stage := fun task member =>
      ordered.1 task.stage (List.mem_map_of_mem member)
    have further := inductionHypothesis ordered.2
    have none_before (late : stage ≤ head.stage) :
        rest.filter (fun task => decide (task.stage < stage)) = [] :=
      List.filter_eq_nil_iff.mpr fun task member early =>
        Nat.not_lt.mpr (Nat.le_trans late (behind task member)) (of_decide_eq_true early)
    rcases Nat.lt_trichotomy head.stage stage with early | same | late
    · have apart : ¬ head.stage = stage := Nat.ne_of_lt early
      have unlate : ¬ stage < head.stage := Nat.lt_asymm early
      simp only [List.filter_cons, early, decide_true, if_true, beq_false_of_ne apart, unlate,
        decide_false, Bool.false_eq_true, if_false, List.cons_append, further]
    · rw [none_before (Nat.le_of_eq same.symm), List.nil_append] at further
      simp only [List.filter_cons, none_before (Nat.le_of_eq same.symm), same, Nat.lt_irrefl,
        decide_false, Bool.false_eq_true, if_false, beq_self_eq_true, if_true, List.nil_append,
        List.cons_append, further]
    · have apart : ¬ head.stage = stage := Nat.ne_of_gt late
      have unearly : ¬ head.stage < stage := Nat.lt_asymm late
      have none_beside : rest.filter (fun task => task.stage == stage) = [] :=
        List.filter_eq_nil_iff.mpr fun task member same =>
          Nat.ne_of_gt (Nat.lt_of_lt_of_le late (behind task member)) (beq_iff_eq.mp same)
      rw [none_before (Nat.le_of_lt late), none_beside, List.nil_append, List.nil_append] at further
      simp only [List.filter_cons, none_before (Nat.le_of_lt late), none_beside, late, decide_true,
        if_true, beq_false_of_ne apart, unearly, decide_false, Bool.false_eq_true, if_false,
        List.nil_append, further]

/-! ### Messages -/

/-- The message of a failure that stops nothing. -/
def Model.failureMessage (model : Model) (fault : Fault) : String :=
  let retryable := if fault.isRetryable then "true" else "false"
  s!"Model {model.label} failed (retryable: {retryable}): {fault.message}"

/-- The message that the attempt of a model with a prompt leads to, if it fails. -/
def Model.failure? (model : Model) (providers : Providers) (isOpen : Bool) (prompt : String) :
    Option String :=
  match model.outcome providers isOpen prompt with
  | .error fault => some (model.failureMessage fault)
  | .ok _ => none

theorem Task.failureMessage?_of_unchained (task : Task) (unchained : task.isChained = false)
    {ending : Ending} (ended : task.phase = .ended ending) :
    task.failureMessage? =
      match ending.result with
      | .error fault => some (task.model.failureMessage fault)
      | .ok _ => none := by
  unfold failureMessage?
  simp only [ended]
  cases ending.result with
  | ok reply => rfl
  | error fault =>
    have joined : " failed" ++ "" ++ " (retryable: " = " failed (retryable: " := by decide
    simp only [unchained, Bool.false_eq_true, if_false, Model.failureMessage, toString, ← joined,
      String.append_assoc]

namespace Run

/-! ### Stages -/

/-- The tasks of the same stage as a given one. -/
def peers (run : Run) (task : Task) : List Task :=
  run.tasks.filter fun other => other.batch == task.batch && other.stage == task.stage

/-- What a task brings into the log: the message of its failure, once all tasks of its stage are
over. -/
def record? (run : Run) (task : Task) : Option String :=
  if (run.peers task).all (·.phase.isOver) then task.failureMessage? else none

theorem peers_eq_of_mem {run : Run} {task other : Task} (member : other ∈ run.peers task) :
    run.peers other = run.peers task := by
  have same := (List.mem_filter.mp member).2
  rw [Bool.and_eq_true, beq_iff_eq, beq_iff_eq] at same
  unfold peers
  rw [same.1, same.2]

theorem mem_peers {run : Run} {task other : Task} (member : task ∈ run.tasks)
    (peer : other ∈ run.peers task) : task ∈ run.peers other := by
  rw [peers_eq_of_mem peer]
  exact List.mem_filter.mpr ⟨member, by simp⟩

theorem stageFailures_eq (run : Run) (task : Task) :
    run.stageFailures task = (run.peers task).filterMap run.record? := by
  have own : ∀ other ∈ run.peers task, run.record? other =
      if (run.peers task).all (·.phase.isOver) then other.failureMessage? else none := by
    intro other member
    unfold record?
    rw [peers_eq_of_mem member]
  rw [List.filterMap_congr own]
  unfold stageFailures
  show (if (run.peers task).all (·.phase.isOver) then _ else _) = _
  by_cases closed : (run.peers task).all (·.phase.isOver) = true
  · simp only [closed, if_true]
    rfl
  · simp only [closed]
    exact (List.filterMap_eq_nil_iff.mpr fun _ _ => rfl).symm

/-- A stage of which a task is not over yet brings nothing into the log. -/
theorem record?_of_unfinished {run : Run} {task other : Task} (member : task ∈ run.peers other)
    (unfinished : task.phase.isOver = false) : run.record? other = none := by
  refine if_neg fun closed => ?_
  have done := List.all_eq_true.mp closed task member
  rw [unfinished] at done
  exact Bool.noConfusion done

theorem record?_of_silent {run : Run} {task : Task} (silent : task.failureMessage? = none) :
    run.record? task = none := by
  unfold record?
  rw [silent, ite_self]

/-- A task that has not had a turn has no failure. -/
theorem failureMessage?_of_turn {tables : Providers → Prop} {run : Run} {task : Task}
    (grounds : run.HasGrounds tables task) (turnless : ∀ prompt, run.turn task ≠ .now prompt) :
    task.failureMessage? = none := by
  unfold HasGrounds at grounds
  unfold Task.failureMessage?
  cases current : task.phase <;> simp only [current] at grounds ⊢
  case ended ending =>
    obtain ⟨prompt, turn, _⟩ := grounds
    exact absurd turn (turnless prompt)

theorem turn_ne_now_of_unfinished {run : Run} {task other : Task} (member : task ∈ run.before other)
    (unfinished : task.phase.isOver = false) (prompt : String) : run.turn other ≠ .now prompt := by
  intro turn
  have done := List.all_eq_true.mp ((run.turn_eq_now_iff other prompt).mp turn).2.1 task member
  rw [unfinished] at done
  exact Bool.noConfusion done

/-- If the turn of a task never comes, the turns of its peers do not come either. -/
theorem turn_ne_now_of_never {run : Run} {task other : Task} (never : run.turn task = .never)
    (batch : other.batch = task.batch) (stage : other.stage = task.stage)
    (chained : other.isChained = task.isChained) (prompt : String) :
    run.turn other ≠ .now prompt := by
  intro turn
  have same : run.before other = run.before task := by
    unfold before
    rw [batch, stage]
  have going := ((run.turn_eq_now_iff other prompt).mp turn).1
  rw [chained, same] at going
  exact going ((run.turn_eq_never_iff task).mp never)

/-! ### The log in every state -/

/-- The log holds the failures of the stages that are over, in the order of the slots. -/
structure Recorded (number : Nat) (chained : Bool) (run : Run) : Prop where
  grounded : run.Grounded fun _ => True
  plan : OneBatch number chained run.plan
  log : run.log = run.tasks.filterMap run.record?

/-- What the tasks of some stages bring into the log. -/
def recordsOf (run : Run) (stages : Nat → Bool) : List String :=
  (run.tasks.filter fun task => stages task.stage).filterMap run.record?

section

variable {run : Run} {position number : Nat} {chained : Bool} {task : Task} {phase : Phase}
  {gate : Gate} {peak : Nat}

theorem recordsOf_split (one : OneBatch number chained run.tasks) (stage : Nat) :
    run.recordsOf (fun other => decide (other < stage)) ++
      (run.recordsOf (fun other => other == stage) ++
        run.recordsOf fun other => decide (stage < other)) = run.tasks.filterMap run.record? := by
  unfold recordsOf
  rw [← List.filterMap_append, ← List.filterMap_append, split_at_stage one.ordered]

theorem recordsOf_peers (one : OneBatch number chained run.tasks) (own : task.batch = number) :
    run.recordsOf (fun stage => stage == task.stage) =
      (run.peers task).filterMap run.record? := by
  refine congrArg (List.filterMap run.record?) (List.filter_congr fun other member => ?_)
  rw [(one.own other member).1, own, beq_self_eq_true, Bool.true_and]

/-- Tasks that are chosen without the one that is taken further stay as they are. -/
theorem filter_become (found : run.tasks[position]? = some task) (chosen : Task → Bool)
    (unchosen : chosen task = false) (blind : chosen { task with phase } = chosen task) :
    (run.become position task phase gate peak).tasks.filter chosen = run.tasks.filter chosen := by
  obtain ⟨first, last, split, changed⟩ := run.become_tasks phase gate peak found
  have ignored : ¬ chosen task = true := by rw [unchosen]; exact Bool.false_ne_true
  rw [split, changed, List.filter_append, List.filter_append, List.filter_cons_of_neg ignored,
    List.filter_cons_of_neg (by rw [blind]; exact ignored)]

/-- The earlier stages have brought into the log what they bring. -/
theorem recordsOf_earlier (run : Run) (phase : Phase) (gate : Gate) (peak : Nat)
    (found : run.tasks[position]? = some task) :
    (run.become position task phase gate peak).recordsOf
        (fun stage => decide (stage < task.stage)) =
      run.recordsOf fun stage => decide (stage < task.stage) := by
  have same : (run.become position task phase gate peak).tasks.filter (fun other =>
      decide (other.stage < task.stage)) = _ :=
    filter_become found _ (decide_eq_false (Nat.lt_irrefl _)) rfl
  unfold recordsOf
  rw [same]
  refine List.filterMap_congr fun other member => ?_
  have early := of_decide_eq_true (List.mem_filter.mp member).2
  have apart : (task.batch == other.batch && task.stage == other.stage) = false := by
    rw [beq_false_of_ne (Nat.ne_of_gt early), Bool.and_false]
  have peers : (run.become position task phase gate peak).peers other = run.peers other :=
    filter_become found _ apart rfl
  unfold record?
  rw [peers]

/-- While a task is not over, no task of a later stage has failed. -/
theorem Grounded.silent_behind (grounded : run.Grounded fun _ => True)
    (one : OneBatch number chained run.tasks) (member : task ∈ run.tasks)
    (unfinished : task.phase.isOver = false) :
    ∀ other ∈ run.tasks.filter (fun other => decide (task.stage < other.stage)),
      other.failureMessage? = none := by
  intro other otherMember
  obtain ⟨otherMember, late⟩ := List.mem_filter.mp otherMember
  have before : task ∈ run.before other := by
    refine List.mem_filter.mpr ⟨member, ?_⟩
    rw [(one.own task member).1, (one.own other otherMember).1, beq_self_eq_true, late]
    rfl
  exact failureMessage?_of_turn (grounded.grounds other otherMember)
    (turn_ne_now_of_unfinished before unfinished)

/-- A stage with a task that is skipped brings nothing into the log. -/
theorem Grounded.record?_of_skipped (grounded : run.Grounded fun _ => True)
    (one : OneBatch number chained run.tasks) (member : task ∈ run.tasks)
    (never : run.turn task = .never) {other : Task} (peer : other ∈ run.peers task) :
    run.record? other = none := by
  obtain ⟨inside, same⟩ := List.mem_filter.mp peer
  rw [Bool.and_eq_true, beq_iff_eq, beq_iff_eq] at same
  have alike := (one.own other inside).2.trans (one.own task member).2.symm
  exact record?_of_silent (failureMessage?_of_turn (grounded.grounds other inside)
    (turn_ne_now_of_never never same.1 same.2 alike))

/-- What the stage of the task that is taken further brings into the log is just what the transition
writes. -/
theorem Transition.records_of_peers (transition : run.Transition task phase gate peak)
    (found : run.tasks[position]? = some task) (grounded : run.Grounded fun _ => True)
    (one : OneBatch number chained (run.become position task phase gate peak).tasks) :
    ((run.become position task phase gate peak).peers task).filterMap
        (run.become position task phase gate peak).record? =
      (run.become position task phase gate peak).logged task phase := by
  have changed := grounded.become found transition
  have moved : { task with phase } ∈ (run.become position task phase gate peak).tasks := by
    obtain ⟨first, last, _, result⟩ := run.become_tasks phase gate peak found
    rw [result]
    exact List.mem_append_right _ List.mem_cons_self
  have nothing (going : phase.isOver = false) :
      ((run.become position task phase gate peak).peers task).filterMap
        (run.become position task phase gate peak).record? = [] :=
    List.filterMap_eq_nil_iff.mpr fun other peer =>
      record?_of_unfinished (mem_peers moved peer) going
  cases transition with
  | skip held never =>
    have later := (Transition.skip held never).turn_never found never
    exact List.filterMap_eq_nil_iff.mpr fun other peer =>
      changed.record?_of_skipped one moved later peer
  | queue _ _ _ _ => exact nothing rfl
  | call _ _ _ => exact nothing rfl
  | refuse _ _ _ => exact (stageFailures_eq _ task).symm
  | settle _ _ => exact (stageFailures_eq _ task).symm
  | conclude _ _ => exact (stageFailures_eq _ task).symm

theorem Recorded.become (recorded : run.Recorded number chained)
    (found : run.tasks[position]? = some task)
    (transition : run.Transition task phase gate peak) :
    (run.become position task phase gate peak).Recorded number chained := by
  have plan : OneBatch number chained (run.become position task phase gate peak).plan := by
    rw [run.become_plan phase gate peak found]
    exact recorded.plan
  have one : OneBatch number chained run.tasks := oneBatch_map_fresh.mp recorded.plan
  have changed := oneBatch_map_fresh.mp plan
  have member := List.mem_of_getElem? found
  have own := (one.own task member).1
  have unfinished := transition.isOver_eq_false
  have silent := recorded.grounded.silent_behind one member unfinished
  have earlier := run.recordsOf_earlier phase gate peak found
  have ownBefore : run.recordsOf (fun stage => stage == task.stage) = [] := by
    rw [recordsOf_peers one own]
    exact List.filterMap_eq_nil_iff.mpr fun other peer =>
      record?_of_unfinished (mem_peers member peer) unfinished
  have laterBefore : run.recordsOf (fun stage => decide (task.stage < stage)) = [] :=
    List.filterMap_eq_nil_iff.mpr fun other otherMember =>
      record?_of_silent (silent other otherMember)
  have laterAfter : (run.become position task phase gate peak).recordsOf
      (fun stage => decide (task.stage < stage)) = [] := by
    have same : (run.become position task phase gate peak).tasks.filter (fun other =>
        decide (task.stage < other.stage)) = _ :=
      filter_become found _ (decide_eq_false (Nat.lt_irrefl _)) rfl
    unfold recordsOf
    rw [same]
    exact List.filterMap_eq_nil_iff.mpr fun other otherMember =>
      record?_of_silent (silent other otherMember)
  refine ⟨recorded.grounded.become found transition, plan, ?_⟩
  calc run.log ++ (run.become position task phase gate peak).logged task phase
      = run.recordsOf (fun stage => decide (stage < task.stage)) ++
          (run.become position task phase gate peak).logged task phase := by
        rw [recorded.log, ← recordsOf_split one task.stage, ownBefore, laterBefore,
          List.append_nil, List.append_nil]
    _ = (run.become position task phase gate peak).tasks.filterMap
          (run.become position task phase gate peak).record? := by
        rw [← recordsOf_split changed task.stage, earlier, recordsOf_peers changed own,
          transition.records_of_peers found recorded.grounded changed, laterAfter,
          List.append_nil]

end

theorem Recorded.play {number : Nat} {chained : Bool} {run : Run}
    (recorded : run.Recorded number chained) (moves : List Move) :
    (run.play moves).Recorded number chained :=
  play_always (fun _ _ _ _ _ _ holds found transition => holds.become found transition)
    (fun _ _ holds => ⟨⟨trivial, holds.grounded.grounds⟩, holds.plan, holds.log⟩)
    (fun _ _ holds => ⟨⟨trivial, holds.grounded.grounds⟩, holds.plan, holds.log⟩) moves run recorded

theorem start_single (providers : Providers) (gate : Gate) (now : Nat) (batch : Batch) :
    (start providers gate now [batch]).tasks = batch.tasks 0 :=
  List.append_nil _

theorem recorded_start (providers : Providers) (gate : Gate) (now : Nat) (batch : Batch) :
    (start providers gate now [batch]).Recorded 0 batch.strategy.isChained := by
  refine ⟨grounded_start trivial gate now [batch], ?_, ?_⟩
  · unfold plan
    rw [start_single]
    exact oneBatch_map_fresh.mpr (batch.oneBatch_tasks 0)
  · refine (List.filterMap_eq_nil_iff.mpr fun task member => record?_of_silent ?_).symm
    unfold Task.failureMessage?
    rw [start_phase member]

theorem tasksOf_of_oneBatch {number : Nat} {chained : Bool} {run : Run}
    (one : OneBatch number chained run.tasks) : run.tasksOf number = run.tasks :=
  List.filter_eq_self.mpr fun task member => beq_iff_eq.mpr (one.own task member).1

theorem Recorded.tasksOf {number : Nat} {chained : Bool} {run : Run}
    (recorded : run.Recorded number chained) : run.tasksOf number = run.tasks :=
  tasksOf_of_oneBatch (oneBatch_map_fresh.mp recorded.plan)

section

variable {providers : Providers} {gate : Gate} {now : Nat} {batch : Batch} {last : Run}

theorem Finishes.tasksOf_single (finishes : (start providers gate now [batch]).Finishes last) :
    last.tasksOf 0 = last.tasks := by
  obtain ⟨⟨moves, _, rfl⟩, _⟩ := finishes
  exact ((recorded_start providers gate now batch).play moves).tasksOf

/-- When a run of one batch is over, the log holds the messages of its failures, in the order of its
slots. -/
theorem Finishes.log_eq (finishes : (start providers gate now [batch]).Finishes last) :
    last.log = last.tasks.filterMap (·.failureMessage?) := by
  obtain ⟨⟨moves, _, rfl⟩, allOver⟩ := finishes
  have recorded := (recorded_start providers gate now batch).play moves
  rw [recorded.log]
  refine List.filterMap_congr fun task _ => if_pos (List.all_eq_true.mpr fun other member => ?_)
  exact List.all_eq_true.mp allOver other (List.mem_filter.mp member).1

/-- The log of a batch that is not chained. -/
theorem Finishes.log_of_unchained (finishes : (start providers gate now [batch]).Finishes last)
    (unchained : batch.strategy.isChained = false) :
    last.log = batch.lineup.filterMap fun model =>
      model.failure? providers gate.isOpen batch.prompt := by
  have listed : [batch][0]? = some batch := rfl
  rw [finishes.log_eq, ← tasksOf_model (finishes.1.tasksOf listed), List.filterMap_map,
    finishes.tasksOf_single]
  refine List.filterMap_congr fun task member => ?_
  rw [← finishes.tasksOf_single] at member
  obtain ⟨ending, ended, result, _⟩ := finishes.ended_of_unchained listed unchained member
  have own := (of_mem_tasksOf (finishes.1.tasksOf listed) member).2.trans unchained
  rw [task.failureMessage?_of_unchained own ended, result]
  rfl

/-- The questions of a batch that is not chained, in the order of its slots. -/
theorem Finishes.calls_of_unchained (finishes : (start providers gate now [batch]).Finishes last)
    (unchained : batch.strategy.isChained = false) :
    last.calls.map Call.question = batch.lineup.filterMap fun model =>
      model.question? providers gate.isOpen batch.prompt := by
  have listed : [batch][0]? = some batch := rfl
  rw [← finishes.questions_of_unchained listed unchained, finishes.tasksOf_single]
  exact List.map_filterMap

end

end Run

end Triage
