/-
This file runs batches of models behind one gate. A run is a list of tasks, one for each model of
each batch, in the order of the batches and of the slots of their stages, and a clock that counts
milliseconds. A step looks at one task and takes it as far as it can go at the present moment; a
pass looks at all tasks in their order. When no task can go on, the clock moves to the moment at
which the first call under way ends.

A step may be taken for any task at any time, and a run is made of nothing but steps and moves of
the clock, so what holds for all steps holds for every state of every run.
-/

import Triage.Ensemble.Attempt
import Triage.Ensemble.Gate
import Triage.Ensemble.Plan

namespace Triage

/-- Models to be asked by a strategy. -/
structure Batch where
  strategy : Strategy
  models : List Model
  prompt : String

/-- How far a task has come. -/
inductive Phase where
  /-- The stage has not opened yet. -/
  | held
  /-- A ticket for the gate has been taken. -/
  | waiting (prompt : String) (ticket : Nat)
  /-- A call is under way and will end at a known moment. -/
  | calling (ending : Ending) (time : Nat)
  | ended (ending : Ending)
  /-- The batch stopped before the turn of this task came. -/
  | skipped

namespace Phase

/-- Is nothing left to be done? -/
def isOver : Phase → Bool
  | ended _ => true
  | skipped => true
  | _ => false

/-- Is a call under way? -/
def isCalling : Phase → Bool
  | calling _ _ => true
  | _ => false

/-- The ending, if the task has ended. -/
def ending? : Phase → Option Ending
  | ended ending => some ending
  | _ => none

/-- The call that has been started. -/
def call? : Phase → Option Call
  | calling ending _ => ending.call?
  | ended ending => ending.call?
  | _ => none

end Phase

/-- The place of one model in a run. -/
structure Task where
  /-- The number of the batch. -/
  batch : Nat
  /-- The number of the stage within the batch. -/
  stage : Nat
  model : Model
  /-- The prompt of the batch. -/
  prompt : String
  isChained : Bool
  phase : Phase := .held

namespace Task

/-- Has the task failed? -/
def hasFailed (task : Task) : Bool :=
  match task.phase with
  | .ended ending => ending.reply?.isNone
  | _ => false

/-- The reply of the task. -/
def reply? (task : Task) : Option Reply :=
  task.phase.ending?.bind (·.reply?)

/-- The message that is logged when the task has failed. -/
def failureMessage? (task : Task) : Option String :=
  match task.phase with
  | .ended ending => match ending.result with
    | .error fault =>
      let stopping := if task.isChained then ", stopping cascade" else ""
      let retryable := if fault.isRetryable then "true" else "false"
      some s!"Model {task.model.label} failed{stopping} (retryable: {retryable}): {fault.message}"
    | .ok _ => none
  | _ => none

/-- The slot of the task among the results of its batch; a task that was skipped has none. -/
def slot? (task : Task) : Option (Option Reply) :=
  task.phase.ending?.map (·.reply?)

end Task

/-- The tasks of one stage. -/
def Batch.tasksOfStage (batch : Batch) (number stage : Nat) (models : List Model) : List Task :=
  models.map fun model =>
    { batch := number, stage, model, prompt := batch.prompt, isChained := batch.strategy.isChained }

/-- The tasks of a batch, stage after stage. -/
def Batch.tasks (batch : Batch) (number : Nat) : List Task :=
  (batch.strategy.stages batch.models).zipIdx.flatMap fun (models, stage) =>
    batch.tasksOfStage number stage models

/-- Batches of models that are being asked. -/
structure Run where
  providers : Providers
  gate : Gate
  now : Nat
  tasks : List Task
  /-- The greatest number of calls that were under way at once. -/
  peak : Nat := 0
  /-- The failures of the stages that have ended. -/
  log : List String := []

namespace Run

/-- The start of a run. -/
def start (providers : Providers) (gate : Gate) (now : Nat) (batches : List Batch) : Run where
  providers
  gate
  now
  tasks := batches.zipIdx.flatMap fun (batch, number) => batch.tasks number

/-! ### Opening a stage -/

/-- Whether the turn of a task has come. -/
inductive Turn where
  | later
  | never
  | now (prompt : String)

/-- The tasks of the same batch in earlier stages. -/
def before (run : Run) (task : Task) : List Task :=
  run.tasks.filter fun other => other.batch == task.batch && other.stage < task.stage

/-- The latest result that says something. -/
def latestContent? (tasks : List Task) : Option String :=
  (tasks.filterMap fun task => (task.reply?.map (·.content)).filter fun content =>
    !content.isEmpty).getLast?

/-- The prompt of a task whose turn comes after the given ones. -/
def promptAfter (task : Task) (earlier : List Task) : String :=
  if task.isChained then
    match latestContent? earlier with
    | some content => chainedPrompt content task.prompt
    | none => task.prompt
  else task.prompt

/-- Whether the turn of a task has come: when all tasks before it are over, and never when a task
before it in a chain has failed. -/
def turn (run : Run) (task : Task) : Turn :=
  let earlier := run.before task
  if task.isChained && earlier.any (·.hasFailed) then .never
  else if earlier.all (·.phase.isOver) then .now (promptAfter task earlier)
  else .later

/-! ### Moves -/

/-- Set the phase of the task at a position. -/
def setPhase (run : Run) (position : Nat) (phase : Phase) : Run :=
  { run with tasks := run.tasks.modify position fun task => { task with phase } }

/-- The failures of a stage, in the order of its slots, once all its tasks have ended. -/
def stageFailures (run : Run) (task : Task) : List String :=
  let stage := run.tasks.filter fun other =>
    other.batch == task.batch && other.stage == task.stage
  if stage.all (·.phase.isOver) then stage.filterMap (·.failureMessage?) else []

/-- End the task at a position. The last task of a stage to end brings the failures of the stage
into the log. -/
def finish (run : Run) (position : Nat) (task : Task) (ending : Ending) : Run :=
  let run := run.setPhase position (.ended ending)
  { run with log := run.log ++ run.stageFailures task }

/-- The number of calls under way. -/
def inFlight (run : Run) : Nat :=
  run.tasks.countP (·.phase.isCalling)

/-- Note that one more call is under way. -/
def noteCall (run : Run) : Run :=
  { run with peak := max run.peak (run.inFlight + 1) }

/-- Give the permit of a task back. -/
def giveBack (run : Run) : Run :=
  { run with gate := run.gate.giveBack }

/-- Go through the gate. An attempt that takes no time ends at once. -/
def enter (run : Run) (position : Nat) (task : Task) (prompt : String) : Run :=
  let (ending, duration) := task.model.attempt run.providers prompt run.now
  let run := if ending.call?.isSome then run.noteCall else run
  if duration = 0 then run.giveBack.finish position task ending
  else run.setPhase position (.calling ending (run.now + duration))

/-- Ask for the gate, with a sound model. -/
def ask (run : Run) (position : Nat) (task : Task) (prompt : String) : Run :=
  match task.model.defect? with
  | some defect => run.finish position task (.refused (task.model.fault defect))
  | none =>
    if !run.gate.isOpen then run.finish position task (.refused .gateClosed)
    else
      let ticket := run.gate.issued
      let run := { run with gate := run.gate.issue }
      if run.gate.admits ticket then run.enter position task prompt
      else run.setPhase position (.waiting prompt ticket)

/-- Take the task at a position as far as it can go. -/
def step (run : Run) (position : Nat) : Run :=
  match run.tasks[position]? with
  | none => run
  | some task => match task.phase with
    | .held => match run.turn task with
      | .later => run
      | .never => run.setPhase position .skipped
      | .now prompt => run.ask position task prompt
    | .waiting prompt ticket =>
      if run.gate.admits ticket then run.enter position task prompt else run
    | .calling ending time =>
      if time ≤ run.now then run.giveBack.finish position task ending else run
    | .ended _ => run
    | .skipped => run

/-- Take every task as far as it can go, in order. -/
def pass (run : Run) : Run :=
  (List.range run.tasks.length).foldl step run

/-! ### The clock -/

/-- Can the task go on at the present moment? -/
def isReady (run : Run) (task : Task) : Bool :=
  match task.phase with
  | .held => match run.turn task with
    | .later => false
    | _ => true
  | .waiting _ ticket => run.gate.admits ticket
  | .calling _ time => time ≤ run.now
  | .ended _ => false
  | .skipped => false

/-- Can no task go on at the present moment? -/
def isSettled (run : Run) : Bool :=
  run.tasks.all fun task => !run.isReady task

/-- The moments at which the calls under way end. -/
def endings (run : Run) : List Nat :=
  run.tasks.filterMap fun task => match task.phase with
    | .calling _ time => some time
    | _ => none

/-- Move the clock to the first moment at which a call under way ends. -/
def advance (run : Run) : Run :=
  match run.endings.min? with
  | some time => { run with now := max run.now time }
  | none => run

/-- Move the clock if nothing else can be done, and take every task as far as it can go. -/
def round (run : Run) : Run :=
  (if run.isSettled then run.advance else run).pass

/-! ### The whole run -/

/-- Are all tasks over? -/
def isOver (run : Run) : Bool :=
  run.tasks.all (·.phase.isOver)

/-- At most so many rounds, until all tasks are over. -/
def rounds : Nat → Run → Run
  | 0, run => run
  | count + 1, run => if run.isOver then run else rounds count run.round

/-- How often the task may still change its phase. -/
def workLeft : Phase → Nat
  | .held => 3
  | .waiting _ _ => 2
  | .calling _ _ => 1
  | .ended _ => 0
  | .skipped => 0

/-- How often the tasks together may still change their phases. -/
def totalWork (run : Run) : Nat :=
  (run.tasks.map fun task => workLeft task.phase).foldr (· + ·) 0

/-- The run to its end. Every round changes the phase of a task, and no phase comes back, so no
more rounds are needed than phases can change. -/
def complete (run : Run) : Run :=
  rounds run.totalWork run

/-! ### What a run has brought -/

/-- The calls that have been started. -/
def calls (run : Run) : List Call :=
  run.tasks.filterMap (·.phase.call?)

/-- How many calls ran to their end. -/
def finished (run : Run) : Nat :=
  run.tasks.countP fun task => task.phase.ending?.any (·.isReturned)

/-- The slots of a batch. -/
def results (run : Run) (batch : Nat) : List (Option Reply) :=
  (run.tasks.filter (·.batch == batch)).filterMap (·.slot?)

end Run

end Triage
