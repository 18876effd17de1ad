/-
This file proves that models that are not sound leave no trace but their own empty slots. A batch
that asks every model for itself goes through the very same calls, at the same moments, when these
models are left out.

Two runs are compared, one with all tasks and one without those of such models, pass by pass. A task
of a model that is not sound is refused when its turn has come, without asking the gate. The pass
comes to it after the tasks before it and before those behind it; so where models are asked in turn
it is out of the way when the pass comes to the next task, and between the passes it is over or still
waits for a task before it. Hence it is neither ready when the run looks settled without it, nor does
it keep a stage closed that would be open without it.
-/

import Triage.Proofs.Ensemble.Agreement
import Triage.Proofs.Ensemble.Precedence

namespace Triage

/-- Does a strategy that asks every model for itself ask one after the other? -/
def Strategy.asksInTurn : Strategy → Bool
  | .sequential => true
  | _ => false

theorem Strategy.atOnce_of_isFlat {strategy : Strategy} (flat : strategy.isFlat = true)
    (together : strategy.asksInTurn = false) : strategy ∈ [parallel, voting, weighted] := by
  cases strategy <;> first | decide | exact Bool.noConfusion flat | exact Bool.noConfusion together

/-- Is the turn of a task behind the given ones? -/
def isDue (inTurn : Bool) (earlier : List Task) : Bool :=
  !inTurn || earlier.all (·.phase.isOver)

/-- The same model, which has come equally far, in two runs. -/
structure Task.Alike (one two : Task) : Prop where
  model : one.model = two.model
  phase : one.phase = two.phase

/-- A model that is not sound has not had its turn or has been refused. -/
def Task.IsInert (task : Task) : Prop :=
  ∃ defect, task.model.defect? = some defect ∧
    (task.phase = .held ∨ task.phase = .ended (.refused (task.model.fault defect)))

/-- The second list holds the tasks of the first one whose models are sound. -/
inductive Thins : List Task → List Task → Prop where
  | nil : Thins [] []
  | keep {one two : Task} {full rest : List Task} (sound : one.model.defect? = none)
      (alike : one.Alike two) (thins : Thins full rest) : Thins (one :: full) (two :: rest)
  | drop {one : Task} {full rest : List Task} (inert : one.IsInert) (thins : Thins full rest) :
      Thins (one :: full) rest

/-- So it is between the passes: a task that is left out is over or not due. -/
inductive Calm (inTurn : Bool) : List Task → List Task → Prop where
  | nil : Calm inTurn [] []
  | keep {full rest : List Task} {one two : Task} (calm : Calm inTurn full rest)
      (sound : one.model.defect? = none) (alike : one.Alike two) :
      Calm inTurn (full ++ [one]) (rest ++ [two])
  | drop {full rest : List Task} {one : Task} (calm : Calm inTurn full rest) (inert : one.IsInert)
      (quiet : one.phase.isOver = true ∨ isDue inTurn full = false) :
      Calm inTurn (full ++ [one]) rest

/-! ### What the lists have in common -/

theorem Task.IsInert.phase_cases {task : Task} (inert : task.IsInert) :
    task.phase = .held ∨ ∃ fault, task.phase = .ended (.refused fault) := by
  obtain ⟨_, _, held | ended⟩ := inert
  · exact Or.inl held
  · exact Or.inr ⟨_, ended⟩

namespace Thins

variable {full rest : List Task}

theorem append {more others : List Task} (thins : Thins full rest) (behind : Thins more others) :
    Thins (full ++ more) (rest ++ others) := by
  induction thins with
  | nil => exact behind
  | keep sound alike _ inductionHypothesis => exact .keep sound alike inductionHypothesis
  | drop inert _ inductionHypothesis => exact .drop inert inductionHypothesis

/-- What depends on the phases, and is not there for a task that is left out, is the same. -/
theorem filterMap_eq {Value : Type} {read : Task → Option Value} (thins : Thins full rest)
    (same : ∀ one two : Task, one.phase = two.phase → read one = read two)
    (silent : ∀ task : Task, task.IsInert → read task = none) :
    full.filterMap read = rest.filterMap read := by
  induction thins with
  | nil => rfl
  | @keep one two _ _ _ alike _ inductionHypothesis =>
    rw [List.filterMap_cons, List.filterMap_cons, same one two alike.phase, inductionHypothesis]
  | @drop one _ _ inert _ inductionHypothesis =>
    rw [List.filterMap_cons_none (silent one inert), inductionHypothesis]

theorem countP_isCalling_eq (thins : Thins full rest) :
    full.countP (·.phase.isCalling) = rest.countP (·.phase.isCalling) := by
  induction thins with
  | nil => rfl
  | keep _ alike _ inductionHypothesis =>
    rw [List.countP_cons, List.countP_cons, alike.phase, inductionHypothesis]
  | @drop one _ _ inert _ inductionHypothesis =>
    have idle : one.phase.isCalling = false := by
      rcases inert.phase_cases with same | ⟨_, same⟩ <;> rw [same] <;> rfl
    rw [List.countP_cons, idle, if_neg Bool.false_ne_true, inductionHypothesis, Nat.add_zero]

end Thins

namespace Calm

variable {inTurn : Bool} {full rest : List Task}

theorem thins (calm : Calm inTurn full rest) : Thins full rest := by
  induction calm with
  | nil => exact .nil
  | keep _ sound alike inductionHypothesis =>
    exact inductionHypothesis.append (.keep sound alike .nil)
  | @drop _ rest _ _ inert _ inductionHypothesis =>
    exact List.append_nil rest ▸ inductionHypothesis.append (.drop inert .nil)

/-- All tasks are over when all are that are not left out: the first of the others that is not over
would be due. -/
theorem all_isOver_eq (calm : Calm inTurn full rest) :
    full.all (·.phase.isOver) = rest.all (·.phase.isOver) := by
  induction calm with
  | nil => rfl
  | keep _ _ alike inductionHypothesis =>
    rw [List.all_append, List.all_append, inductionHypothesis, List.all_cons, List.all_cons,
      alike.phase, List.all_nil]
  | drop _ _ quiet inductionHypothesis =>
    rw [List.all_append, List.all_cons, List.all_nil, Bool.and_true, ← inductionHypothesis]
    rcases quiet with done | early
    · rw [done, Bool.and_true]
    · rw [(Bool.or_eq_false_iff.mp early).2, Bool.false_and]

theorem isDue_eq (calm : Calm inTurn full rest) : isDue inTurn full = isDue inTurn rest := by
  unfold isDue
  rw [calm.all_isOver_eq]

end Calm

namespace Run

/-! ### The turns of a flat batch -/

/-- All tasks are those of one batch. -/
def IsAlone (strategy : Strategy) (prompt : String) (run : Run) : Prop :=
  ∃ models, run.plan = Batch.tasks ⟨strategy, models, prompt⟩ 0

theorem tasksOf_of_plan {run : Run} {batch : Batch} (plan : run.plan = batch.tasks 0) :
    run.tasksOf 0 = run.tasks := by
  have planned : OneBatch 0 batch.strategy.isChained run.plan := plan ▸ batch.oneBatch_tasks 0
  exact tasksOf_of_oneBatch (oneBatch_map_fresh.mp planned)

theorem IsAlone.turn_eq {strategy : Strategy} {prompt : String} {run : Run}
    (alone : run.IsAlone strategy prompt) (flat : strategy.isFlat = true) {early late : List Task}
    {task : Task} (split : run.tasks = early ++ task :: late) :
    run.turn task = if isDue strategy.asksInTurn early then .now prompt else .later := by
  obtain ⟨models, plan⟩ := alone
  have row := tasksOf_of_plan plan
  have same : (run.tasksOf 0).map Task.fresh = Batch.tasks ⟨strategy, models, prompt⟩ 0 := by
    rw [row]
    exact plan
  have member : task ∈ run.tasksOf 0 := by
    rw [row, split]
    exact List.mem_append_right _ List.mem_cons_self
  have known := of_mem_tasksOf same member
  have unchained : task.isChained = false :=
    known.2.trans (Strategy.isChained_of_isFlat flat)
  cases inTurn : strategy.asksInTurn with
  | false =>
    have planned : task.fresh ∈ Batch.tasks ⟨strategy, models, prompt⟩ 0 :=
      same ▸ List.mem_map_of_mem member
    have first : task.fresh.stage = 0 :=
      stage_of_atOnce (Strategy.atOnce_of_isFlat flat inTurn) planned
    rw [run.turn_of_first_stage (show task.stage = 0 from first), known.1]
    rfl
  | true =>
    have single : strategy.stages models = models.map fun model => [model] := by
      cases strategy <;> first | rfl | exact Bool.noConfusion inTurn
    have before : run.before task = early :=
      before_eq_of_row (row.trans split) (tasksOf_stage_pairwise same single)
    unfold turn promptAfter isDue
    rw [before, unchained, known.1]
    rfl

/-! ### The same task in two runs -/

theorem isReady_congr {run other : Run} {task twin : Task} (phase : task.phase = twin.phase)
    (turn : run.turn task = other.turn twin) (gate : run.gate = other.gate)
    (now : run.now = other.now) : run.isReady task = other.isReady twin := by
  unfold isReady
  rw [phase, turn, gate, now]

/-- Two tasks whose runs show the same of what their transitions depend on. -/
structure SameView (run other : Run) (task twin : Task) : Prop where
  alike : task.Alike twin
  turn : run.turn task = other.turn twin
  providers : run.providers = other.providers
  gate : run.gate = other.gate
  now : run.now = other.now
  peak : run.peak = other.peak
  inFlight : run.inFlight = other.inFlight

namespace SameView

variable {run other : Run} {task twin : Task}

theorem isReady_eq (view : run.SameView other task twin) : run.isReady task = other.isReady twin :=
  isReady_congr view.alike.phase view.turn view.gate view.now

theorem peakAfter_eq (view : run.SameView other task twin) (ending : Ending) :
    run.peakAfter ending = other.peakAfter ending := by
  unfold peakAfter
  rw [view.peak, view.inFlight]

theorem attempt_eq (view : run.SameView other task twin) (prompt : String) :
    task.model.attempt run.providers prompt run.now =
      twin.model.attempt other.providers prompt other.now := by
  rw [view.alike.model, view.providers, view.now]

theorem passes (view : run.SameView other task twin) {prompt : String} {gate : Gate}
    (passes : run.Passes task prompt gate) : other.Passes twin prompt gate := by
  cases passes with
  | atOnce held turn welcome admitted =>
    rw [view.alike.phase] at held
    rw [view.turn] at turn
    rw [view.alike.model, view.gate] at welcome
    rw [view.gate] at admitted ⊢
    exact .atOnce held turn welcome admitted
  | withTicket waiting admitted =>
    rw [view.alike.phase] at waiting
    rw [view.gate] at admitted ⊢
    exact .withTicket waiting admitted

/-- What can become of the one task can become of the other. -/
theorem transition (view : run.SameView other task twin) {phase : Phase} {gate : Gate} {peak : Nat}
    (transition : run.Transition task phase gate peak) : other.Transition twin phase gate peak := by
  have phaseSame := view.alike.phase
  have turnSame := view.turn
  cases transition with
  | skip held never =>
    rw [view.gate, view.peak]
    exact .skip (phaseSame ▸ held) (turnSame ▸ never)
  | refuse held turn refused =>
    rw [view.alike.model, view.gate] at refused
    rw [view.gate, view.peak]
    exact .refuse (phaseSame ▸ held) (turnSame ▸ turn) refused
  | queue held turn welcome full =>
    rw [view.alike.model, view.gate] at welcome
    rw [view.gate] at full ⊢
    rw [view.peak]
    exact .queue (phaseSame ▸ held) (turnSame ▸ turn) welcome full
  | call passes attempt lasting =>
    rw [view.attempt_eq] at attempt
    rw [view.now, view.peakAfter_eq]
    exact .call (view.passes passes) attempt lasting
  | settle passes attempt =>
    rw [view.attempt_eq] at attempt
    rw [view.peakAfter_eq]
    exact .settle (view.passes passes) attempt
  | conclude calling due =>
    rw [view.now] at due
    rw [view.gate, view.peak]
    exact .conclude (phaseSame ▸ calling) due

end SameView

/-! ### Steps -/

/-- Two runs of a batch are at the same moment, with the gate in the same state and the same peak. -/
structure Beside (strategy : Strategy) (prompt : String) (full rest : Run) : Prop where
  alone : full.IsAlone strategy prompt
  restAlone : rest.IsAlone strategy prompt
  gate : full.gate = rest.gate
  now : full.now = rest.now
  peak : full.peak = rest.peak

theorem getElem?_of_split {run : Run} {early late : List Task} {task : Task}
    (split : run.tasks = early ++ task :: late) : run.tasks[early.length]? = some task := by
  rw [split, List.getElem?_append_right (Nat.le_refl _), Nat.sub_self, List.getElem?_cons_zero]

theorem become_of_split {run : Run} {early late : List Task} {task : Task}
    (split : run.tasks = early ++ task :: late) (phase : Phase) (gate : Gate) (peak : Nat) :
    (run.become early.length task phase gate peak).tasks = early ++ { task with phase } :: late := by
  show run.tasks.modify early.length _ = _
  rw [split, List.modify_eq_take_drop, List.take_left, List.drop_left]
  rfl

theorem IsAlone.become {strategy : Strategy} {prompt : String} {run : Run}
    (alone : run.IsAlone strategy prompt) {position : Nat} {task : Task} (phase : Phase) (gate : Gate)
    (peak : Nat) (found : run.tasks[position]? = some task) :
    (run.become position task phase gate peak).IsAlone strategy prompt :=
  alone.imp fun _ plan => (run.become_plan phase gate peak found).trans plan

section

variable {strategy : Strategy} {prompt : String} {full rest : Run}
  {early earlyRest late lateRest : List Task} {task twin : Task}

/-- A task that is not left out is seen alike in both runs, once the tasks before it are calm. -/
theorem Beside.sameView (beside : Beside strategy prompt full rest) (flat : strategy.isFlat = true)
    (providers : full.providers = rest.providers) (calm : Calm strategy.asksInTurn early earlyRest)
    (sound : task.model.defect? = none) (alike : task.Alike twin) (thins : Thins late lateRest)
    (split : full.tasks = early ++ task :: late)
    (splitRest : rest.tasks = earlyRest ++ twin :: lateRest) : full.SameView rest task twin where
  alike := alike
  turn := by
    rw [beside.alone.turn_eq flat split, beside.restAlone.turn_eq flat splitRest, calm.isDue_eq]
  providers := providers
  gate := beside.gate
  now := beside.now
  peak := beside.peak
  inFlight := by
    unfold inFlight
    rw [split, splitRest]
    exact (calm.thins.append (.keep sound alike thins)).countP_isCalling_eq

/-- Both runs take the same step with a task that is not left out. -/
theorem Beside.step_keep (beside : Beside strategy prompt full rest)
    (view : full.SameView rest task twin) (split : full.tasks = early ++ task :: late)
    (splitRest : rest.tasks = earlyRest ++ twin :: lateRest) :
    Beside strategy prompt (full.step early.length) (rest.step earlyRest.length) ∧
      ∃ next nextTwin, next.model = task.model ∧ next.Alike nextTwin ∧
        (full.step early.length).tasks = early ++ next :: late ∧
        (rest.step earlyRest.length).tasks = earlyRest ++ nextTwin :: lateRest := by
  have found := getElem?_of_split split
  have foundRest := getElem?_of_split splitRest
  rcases full.step_cases early.length with
    ⟨same, idle⟩ | ⟨other, phase, gate, peak, foundOther, transition, result⟩
  · rw [same, step_eq_self foundRest (view.isReady_eq ▸ idle task found)]
    exact ⟨beside, task, twin, rfl, view.alike, split, splitRest⟩
  · obtain rfl : task = other := Option.some.inj (found.symm.trans foundOther)
    rw [result, (view.transition transition).step_eq foundRest]
    exact ⟨⟨beside.alone.become phase gate peak found,
        beside.restAlone.become phase gate peak foundRest, rfl, beside.now, rfl⟩,
      { task with phase }, { twin with phase }, rfl, ⟨view.alike.model, rfl⟩,
      become_of_split split phase gate peak, become_of_split splitRest phase gate peak⟩

/-- A task that is left out is not ready while it is over or not due. -/
theorem IsAlone.unready (alone : full.IsAlone strategy prompt) (flat : strategy.isFlat = true)
    (inert : task.IsInert) (split : full.tasks = early ++ task :: late)
    (quiet : task.phase.isOver = true ∨ isDue strategy.asksInTurn early = false) :
    full.isReady task = false := by
  unfold isReady
  rcases inert.phase_cases with held | ⟨fault, ended⟩
  · rcases quiet with done | undue
    · rw [held] at done
      exact Bool.noConfusion done
    · rw [held, alone.turn_eq flat split, undue]
      rfl
  · rw [ended]

/-- A task that is left out is refused if it is due, and nothing else changes. -/
theorem Beside.step_drop (beside : Beside strategy prompt full rest) (flat : strategy.isFlat = true)
    (inert : task.IsInert) (split : full.tasks = early ++ task :: late) :
    Beside strategy prompt (full.step early.length) rest ∧
      ∃ next, next.IsInert ∧
        (next.phase.isOver = true ∨ isDue strategy.asksInTurn early = false) ∧
        (full.step early.length).tasks = early ++ next :: late := by
  have found := getElem?_of_split split
  by_cases quiet : task.phase.isOver = true ∨ isDue strategy.asksInTurn early = false
  · rw [step_eq_self found (beside.alone.unready flat inert split quiet)]
    exact ⟨beside, task, inert, quiet, split⟩
  · obtain ⟨unended, due⟩ := not_or.mp quiet
    rw [Bool.not_eq_false] at due
    have turn := beside.alone.turn_eq flat split
    rw [due, if_pos rfl] at turn
    obtain ⟨defect, unsound, held | ended⟩ := inert
    · have refused : task.model.refusal? full.gate.isOpen = some (task.model.fault defect) := by
        unfold Model.refusal?
        rw [unsound]
      rw [(Transition.refuse held turn refused).step_eq found]
      exact ⟨⟨beside.alone.become _ _ _ found, beside.restAlone, beside.gate, beside.now,
          beside.peak⟩, { task with phase := .ended (.refused (task.model.fault defect)) },
        ⟨defect, unsound, Or.inr rfl⟩, Or.inl rfl, become_of_split split _ _ _⟩
    · rw [ended] at unended
      exact absurd rfl unended

/-! ### Passes -/

theorem calls_eq_of_thins (thins : Thins full.tasks rest.tasks) : full.calls = rest.calls :=
  thins.filterMap_eq (fun _ _ same => congrArg Phase.call? same) fun task inert => by
    rcases inert.phase_cases with same | ⟨_, same⟩ <;> rw [same] <;> rfl

theorem Beside.providers_heed (beside : Beside strategy prompt full rest)
    (thins : Thins full.tasks rest.tasks) (responder : Responder) :
    (full.heed responder).providers = (rest.heed responder).providers := by
  show responder full.now full.calls = responder rest.now rest.calls
  rw [beside.now, calls_eq_of_thins thins]

/-- From tasks on that are calm, steps of the others in their order leave all tasks calm. -/
theorem Beside.steps (flat : strategy.isFlat = true) (responder : Responder)
    (thins : Thins late lateRest) (beside : Beside strategy prompt full rest)
    (calm : Calm strategy.asksInTurn early earlyRest) (split : full.tasks = early ++ late)
    (splitRest : rest.tasks = earlyRest ++ lateRest) :
    let one := full.stepsUnder responder (List.range' early.length late.length)
    let two := rest.stepsUnder responder (List.range' earlyRest.length lateRest.length)
    Beside strategy prompt one two ∧ Calm strategy.asksInTurn one.tasks two.tasks := by
  induction thins generalizing early earlyRest full rest with
  | nil =>
    intro one two
    refine ⟨beside, ?_⟩
    show Calm _ full.tasks rest.tasks
    rw [split, splitRest, List.append_nil, List.append_nil]
    exact calm
  | @keep task twin late lateRest sound alike thins inductionHypothesis =>
    have all : Thins full.tasks rest.tasks := by
      rw [split, splitRest]
      exact calm.thins.append (.keep sound alike thins)
    have heeded : Beside strategy prompt (full.heed responder) (rest.heed responder) :=
      ⟨beside.alone, beside.restAlone, beside.gate, beside.now, beside.peak⟩
    have view := heeded.sameView flat (beside.providers_heed all responder) calm sound alike thins
      split splitRest
    obtain ⟨further, next, nextTwin, model, same, splitNext, splitTwin⟩ :=
      heeded.step_keep view split splitRest
    have nextSound : next.model.defect? = none := model ▸ sound
    rw [List.append_cons] at splitNext splitTwin
    have finished := inductionHypothesis further (calm.keep nextSound same) splitNext splitTwin
    rw [List.length_append, List.length_append] at finished
    exact finished
  | @drop task late lateRest inert thins inductionHypothesis =>
    have heeded : Beside strategy prompt (full.heed responder) rest :=
      ⟨beside.alone, beside.restAlone, beside.gate, beside.now, beside.peak⟩
    obtain ⟨further, next, nextInert, quiet, splitNext⟩ := heeded.step_drop flat inert split
    rw [List.append_cons] at splitNext
    have finished := inductionHypothesis further (calm.drop nextInert quiet) splitNext splitRest
    rw [List.length_append] at finished
    exact finished

/-- After a pass all tasks are calm. -/
theorem Beside.pass (flat : strategy.isFlat = true) (responder : Responder)
    (beside : Beside strategy prompt full rest) (thins : Thins full.tasks rest.tasks) :
    Beside strategy prompt (full.passUnder responder) (rest.passUnder responder) ∧
      Calm strategy.asksInTurn (full.passUnder responder).tasks
        (rest.passUnder responder).tasks := by
  unfold passUnder
  rw [List.range_eq_range', List.range_eq_range']
  exact Beside.steps flat responder thins beside .nil (List.nil_append _).symm
    (List.nil_append _).symm

/-! ### Rounds -/

theorem Beside.all_unready_eq (beside : Beside strategy prompt full rest)
    (flat : strategy.isFlat = true) (calm : Calm strategy.asksInTurn early earlyRest)
    (split : full.tasks = early ++ late) (splitRest : rest.tasks = earlyRest ++ lateRest) :
    early.all (fun task => !full.isReady task) = earlyRest.all fun task => !rest.isReady task := by
  induction calm generalizing late lateRest with
  | nil => rfl
  | @keep early earlyRest task twin calm sound alike inductionHypothesis =>
    rw [← List.append_cons] at split splitRest
    have turn : full.turn task = rest.turn twin := by
      rw [beside.alone.turn_eq flat split, beside.restAlone.turn_eq flat splitRest, calm.isDue_eq]
    rw [List.all_append, List.all_append, inductionHypothesis split splitRest, List.all_cons,
      List.all_cons, isReady_congr alike.phase turn beside.gate beside.now, List.all_nil,
      List.all_nil]
  | @drop early earlyRest task calm inert quiet inductionHypothesis =>
    rw [← List.append_cons] at split
    rw [List.all_append, inductionHypothesis split splitRest, List.all_cons, List.all_nil,
      beside.alone.unready flat inert split quiet, Bool.not_false, Bool.and_true, Bool.and_true]

theorem endings_eq_of_thins (thins : Thins full.tasks rest.tasks) : full.endings = rest.endings :=
  thins.filterMap_eq (fun one two same => by rw [same]) fun task inert => by
    rcases inert.phase_cases with same | ⟨_, same⟩ <;> rw [same]

/-- Both runs wait for the same moment. -/
theorem Beside.awake (beside : Beside strategy prompt full rest) (flat : strategy.isFlat = true)
    (calm : Calm strategy.asksInTurn full.tasks rest.tasks) :
    Beside strategy prompt full.awake rest.awake := by
  have settled : full.isSettled = rest.isSettled :=
    beside.all_unready_eq flat calm (List.append_nil _).symm (List.append_nil _).symm
  unfold Run.awake advance
  rw [settled, endings_eq_of_thins calm.thins]
  split
  · split
    · exact ⟨beside.alone, beside.restAlone, beside.gate, congrArg (max · _) beside.now, beside.peak⟩
    · exact beside
  · exact beside

theorem Beside.round (flat : strategy.isFlat = true) (responder : Responder)
    (beside : Beside strategy prompt full rest)
    (calm : Calm strategy.asksInTurn full.tasks rest.tasks) :
    Beside strategy prompt (full.roundUnder responder) (rest.roundUnder responder) ∧
      Calm strategy.asksInTurn (full.roundUnder responder).tasks
        (rest.roundUnder responder).tasks := by
  refine (beside.awake flat calm).pass flat responder ?_
  rw [awake_tasks, awake_tasks]
  exact calm.thins

theorem roundsUnder_of_isOver (responder : Responder) (count : Nat) {run : Run}
    (allOver : run.isOver = true) : run.roundsUnder responder count = run := by
  cases count with
  | zero => rfl
  | succ count => rw [roundsUnder, if_pos allOver]

/-- Two runs that are calm are so at their ends: they are over after the same round. -/
theorem Beside.rounds (flat : strategy.isFlat = true) (responder : Responder) {count other : Nat}
    (beside : Beside strategy prompt full rest)
    (calm : Calm strategy.asksInTurn full.tasks rest.tasks)
    (allOver : (full.roundsUnder responder count).isOver = true)
    (restOver : (rest.roundsUnder responder other).isOver = true) :
    let one := full.roundsUnder responder count
    let two := rest.roundsUnder responder other
    Beside strategy prompt one two ∧ Calm strategy.asksInTurn one.tasks two.tasks := by
  induction count generalizing other full rest with
  | zero =>
    have restDone : rest.isOver = true := calm.all_isOver_eq.symm.trans allOver
    rw [roundsUnder_of_isOver responder other restDone]
    exact ⟨beside, calm⟩
  | succ count inductionHypothesis =>
    cases restDone : rest.isOver with
    | true =>
      rw [roundsUnder_of_isOver responder other restDone,
        roundsUnder_of_isOver responder _ (calm.all_isOver_eq.trans restDone)]
      exact ⟨beside, calm⟩
    | false =>
      have unfinished : full.isOver = false := calm.all_isOver_eq.trans restDone
      cases other with
      | zero =>
        rw [roundsUnder, restDone] at restOver
        exact Bool.noConfusion restOver
      | succ other =>
        rw [roundsUnder, unfinished, if_neg Bool.false_ne_true] at allOver
        rw [roundsUnder, restDone, if_neg Bool.false_ne_true] at restOver
        rw [roundsUnder, roundsUnder, unfinished, restDone, if_neg Bool.false_ne_true]
        obtain ⟨further, stillCalm⟩ := beside.round flat responder calm
        exact inductionHypothesis further stillCalm allOver restOver

end

/-! ### The whole run -/

/-- The tasks of a batch against those of its sound models, before anything has begun. -/
theorem thins_of_held {full rest : List Task} (held : ∀ task ∈ full, task.phase = .held)
    (restHeld : ∀ task ∈ rest, task.phase = .held)
    (models : rest.map (·.model) = (full.map (·.model)).filter (·.defect?.isNone)) :
    Thins full rest := by
  induction full generalizing rest with
  | nil =>
    rw [List.map_eq_nil_iff.mp models]
    exact .nil
  | cons task full inductionHypothesis =>
    obtain ⟨own, others⟩ := List.forall_mem_cons.mp held
    rw [List.map_cons] at models
    cases defect : task.model.defect? with
    | some value =>
      rw [List.filter_cons_of_neg (by rw [defect]; exact Bool.false_ne_true)] at models
      exact .drop ⟨value, defect, Or.inl own⟩ (inductionHypothesis others restHeld models)
    | none =>
      rw [List.filter_cons_of_pos (by rw [defect]; rfl)] at models
      obtain ⟨twin, rest, rfl, same, models⟩ := List.map_eq_cons_iff.mp models
      obtain ⟨twinHeld, restHeld⟩ := List.forall_mem_cons.mp restHeld
      exact .keep defect ⟨same.symm, own.trans twinHeld.symm⟩
        (inductionHypothesis others restHeld models)

end Run

/-- The slots of the sound models of a batch, with an empty slot in the place of each other model. -/
def fillGaps : List Model → List (Option Reply) → List (Option Reply)
  | [], _ => []
  | model :: rest, slots =>
    if model.defect?.isNone then slots.take 1 ++ fillGaps rest (slots.drop 1)
    else none :: fillGaps rest slots

theorem slot?_of_ended {task : Task} {ending : Ending} (ended : task.phase = .ended ending) :
    task.slot? = some ending.reply? := by
  unfold Task.slot?
  rw [ended]
  rfl

theorem length_slots {tasks : List Task}
    (ended : ∀ task ∈ tasks, ∃ ending, task.phase = .ended ending) :
    (tasks.filterMap (·.slot?)).length = tasks.length := by
  rw [List.length_filterMap_eq_countP]
  refine List.countP_eq_length.mpr fun task member => ?_
  obtain ⟨ending, own⟩ := ended task member
  rw [slot?_of_ended own]
  rfl

/-- When all tasks have ended, those that are left out have empty slots. -/
theorem Thins.slots_eq {full rest : List Task} (thins : Thins full rest)
    (ended : ∀ task ∈ full, ∃ ending, task.phase = .ended ending) :
    full.filterMap (·.slot?) = fillGaps (full.map (·.model)) (rest.filterMap (·.slot?)) := by
  induction thins with
  | nil => rfl
  | keep sound alike _ inductionHypothesis =>
    obtain ⟨⟨ending, own⟩, others⟩ := List.forall_mem_cons.mp ended
    rw [List.filterMap_cons_some (slot?_of_ended own),
      List.filterMap_cons_some (slot?_of_ended (alike.phase ▸ own)), inductionHypothesis others,
      List.map_cons, fillGaps, sound]
    rfl
  | drop inert _ inductionHypothesis =>
    obtain ⟨⟨ending, own⟩, others⟩ := List.forall_mem_cons.mp ended
    obtain ⟨defect, unsound, held | refused⟩ := inert
    · exact nomatch held.symm.trans own
    · rw [List.filterMap_cons_some (slot?_of_ended refused), inductionHypothesis others,
        List.map_cons, fillGaps, unsound]
      rfl

namespace Run

section

variable {providers : Providers} {gate : Gate} {now : Nat} {strategy : Strategy}
  {models : List Model} {prompt : String} {last : Run}

theorem start_plan :
    (start providers gate now [⟨strategy, models, prompt⟩]).plan =
      Batch.tasks ⟨strategy, models, prompt⟩ 0 := by
  unfold plan
  rw [start_single]
  exact (List.map_congr_left fun task member => (Batch.of_mem_tasks member).2.2.2).trans
    (List.map_id _)

theorem models_of_plan (flat : strategy.isFlat = true)
    (plan : last.plan = Batch.tasks ⟨strategy, models, prompt⟩ 0) :
    last.tasks.map (·.model) = models := by
  have same : (last.tasksOf 0).map Task.fresh = Batch.tasks ⟨strategy, models, prompt⟩ 0 := by
    rw [tasksOf_of_plan plan]
    exact plan
  rw [← tasksOf_of_plan plan, tasksOf_model same]
  exact Batch.lineup_of_isFlat flat

/-- When a flat batch is over, all its tasks have ended, whoever has answered. -/
theorem LeadsPromptly.ended (flat : strategy.isFlat = true)
    (leads : (start providers gate now [⟨strategy, models, prompt⟩]).LeadsPromptly last)
    (allOver : last.isOver = true) : ∀ task ∈ last.tasks, ∃ ending, task.phase = .ended ending := by
  intro task member
  have planned : task.fresh ∈ Batch.tasks ⟨strategy, models, prompt⟩ 0 :=
    leads.plan.trans start_plan ▸ List.mem_map_of_mem member
  have unchained : task.isChained = false :=
    (Batch.of_mem_tasks planned).2.2.1.trans (Strategy.isChained_of_isFlat flat)
  obtain ⟨ending, ended, _⟩ := (leads.grounded (grounded_start trivial gate now _)).ended_of_unchained
    allOver member unchained
  exact ⟨ending, ended⟩

end

/-- Models that are not sound are inert. Whoever answers, by the moment and by the calls that have
been started: where every model is asked for itself, a run comes to its end with and without these
models; the slots of the others are the same, with an empty slot added in the place of each model
that is not sound; and the calls with their requests and their starts, the greatest number of calls
at once, the moment of the end and the gate are the same. Where the same providers answer at all
times, this is how every run is completed. -/
theorem unsound_models_are_inert (responder : Responder) (providers : Providers) (gate : Gate)
    (whole : gate.IsWhole) (positive : 0 < gate.capacity) (now : Nat) (strategy : Strategy)
    (flat : strategy.isFlat = true) (models : List Model) (prompt : String) :
    let begin (models : List Model) := start providers gate now [⟨strategy, models, prompt⟩]
    let sound := models.filter (·.defect?.isNone)
    let full := (begin models).completeUnder responder
    let rest := (begin sound).completeUnder responder
    (full.isOver = true ∧ rest.isOver = true) ∧
      (rest.results 0).length = sound.length ∧
      full.results 0 = fillGaps models (rest.results 0) ∧
      full.calls = rest.calls ∧ full.peak = rest.peak ∧ full.now = rest.now ∧
      full.gate = rest.gate ∧
      ∀ models, (begin models).completeUnder (.constant providers) = (begin models).complete := by
  intro begin sound full rest
  have returns (models : List Model) : ((begin models).completeUnder responder).isOver = true :=
    (balanced_start providers whole now _).completeUnder_isOver positive responder
  have leads (models : List Model) :
      (begin models).LeadsPromptly ((begin models).completeUnder responder) :=
    leadsPromptly_roundsUnder responder _ (begin models)
  have plan (models : List Model) := (leads models).plan.trans start_plan
  obtain ⟨done, calm⟩ : Beside strategy prompt full rest ∧
      Calm strategy.asksInTurn full.tasks rest.tasks := by
    have beside : Beside strategy prompt (begin models) (begin sound) :=
      ⟨⟨models, start_plan⟩, ⟨sound, start_plan⟩, rfl, rfl, rfl⟩
    have thins : Thins (begin models).tasks (begin sound).tasks :=
      thins_of_held (fun _ member => start_phase member) (fun _ member => start_phase member) (by
        rw [models_of_plan flat start_plan, models_of_plan flat start_plan])
    obtain ⟨passed, calm⟩ := beside.pass flat responder thins
    have fullOver := returns models
    have restOver := returns sound
    rw [completeUnder_start] at fullOver restOver
    have ends := passed.rounds flat responder calm fullOver restOver
    rwa [← completeUnder_start, ← completeUnder_start] at ends
  have ended (models : List Model) := (leads models).ended flat (returns models)
  refine ⟨⟨returns models, returns sound⟩, ?_, ?_, calls_eq_of_thins calm.thins, done.peak, done.now,
    done.gate, fun models => completeUnder_constant rfl⟩
  · rw [results_eq, tasksOf_of_plan (plan sound), length_slots (ended sound),
      ← List.length_map (·.model), models_of_plan flat (plan sound)]
  · rw [results_eq, results_eq, tasksOf_of_plan (plan models), tasksOf_of_plan (plan sound),
      calm.thins.slots_eq (ended models), models_of_plan flat (plan models)]

/-- The case of two models that are not sound, before and behind one that is cut off, one that has no
provider and one that answers, with one permit. -/
theorem unsound_models_are_inert_beside_timeout :
    let ask (provider : String) : Model := { provider, name := "m", kind := .fast }
    let echo : Provider := ⟨"echo", fun request => ⟨5, .ok ⟨request.prompt, "echo", "m"⟩⟩⟩
    let late : Provider := ⟨"late", fun _ => ⟨40000, .ok ⟨"", "late", "m"⟩⟩⟩
    let begin (strategy : Strategy) (models : List Model) :=
      start (.ofList [echo, late]) (.withPermits 1) 0 [⟨strategy, models, "task"⟩]
    let unsound := (ask "echo").set (.maxTokens 0)
    let models := [unsound, ask "late", unsound, ask "nobody", ask "echo"]
    let sound := models.filter (·.defect?.isNone)
    (begin .parallel models).complete.results 0 =
        fillGaps models ((begin .parallel sound).complete.results 0) ∧
      (begin .sequential models).complete.calls = (begin .sequential sound).complete.calls ∧
      (begin .sequential models).complete.calls.map (·.start) = [0, 30000] := by
  intro ask echo late begin unsound models sound
  obtain ⟨_, _, slots, _, _, _, _, same⟩ := unsound_models_are_inert
    (.constant (.ofList [echo, late])) (.ofList [echo, late]) (.withPermits 1)
    (Gate.isWhole_withPermits 1) Nat.one_pos 0 .parallel rfl models "task"
  obtain ⟨_, _, _, calls, _, _, _, sameInTurn⟩ := unsound_models_are_inert
    (.constant (.ofList [echo, late])) (.ofList [echo, late]) (.withPermits 1)
    (Gate.isWhole_withPermits 1) Nat.one_pos 0 .sequential rfl models "task"
  rw [same, same] at slots
  rw [sameInTurn, sameInTurn] at calls
  exact ⟨slots, calls, by decide +kernel⟩

end Run

end Triage
