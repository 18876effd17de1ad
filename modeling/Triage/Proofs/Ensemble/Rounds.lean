/-
This file completes runs whose providers answer by the moment and by the calls that have been
started before, and not by the request alone. The rounds are the same, only that it is asked anew at
every step who answers; with providers that stay the same they are the rounds of every run.

The rounds are one schedule among those that are prompt: time passes only when no task can go on. A
schedule that looks at a task that is ready leaves less work, whoever answers meanwhile, and so these
runs come to their end too.
-/

import Triage.Proofs.Ensemble.Return

namespace Triage

/-- Who answers, by the moment and by the calls that have been started so far. -/
def Responder : Type := Nat → List Call → Providers

/-- The same providers answer at all times. -/
def Responder.constant (providers : Providers) : Responder :=
  fun _ _ => providers

/-- Does the move let time pass? -/
def Move.isPause : Move → Bool
  | wait _ => true
  | _ => false

/-- The position of the task that the move looks at. -/
def Move.position? : Move → Option Nat
  | step position => some position
  | _ => none

namespace Run

/-! ### Prompt schedules -/

/-- A schedule is prompt when time passes only while no task can go on. -/
def IsPrompt (run : Run) : List Move → Prop
  | [] => True
  | move :: rest => (move.isPause = true → run.isSettled = true) ∧ (run.act move).IsPrompt rest

theorem isPrompt_append (run : Run) (early late : List Move) :
    run.IsPrompt (early ++ late) ↔ run.IsPrompt early ∧ (run.play early).IsPrompt late := by
  induction early generalizing run with
  | nil => exact ⟨fun prompt => ⟨trivial, prompt⟩, And.right⟩
  | cons move rest inductionHypothesis =>
    rw [List.cons_append, IsPrompt, inductionHypothesis, IsPrompt, play_cons, and_assoc]

theorem isPrompt_of_no_pause (run : Run) {moves : List Move}
    (busy : ∀ move ∈ moves, move.isPause = false) : run.IsPrompt moves := by
  induction moves generalizing run with
  | nil => trivial
  | cons move rest inductionHypothesis =>
    refine ⟨fun pause => ?_, inductionHypothesis _ fun other member =>
      busy other (List.mem_cons_of_mem _ member)⟩
    rw [busy move List.mem_cons_self] at pause
    exact Bool.noConfusion pause

/-- What every transition, every change of the providers and every lapse of time in a settled run
keep, every prompt schedule keeps. -/
theorem IsPrompt.keeps {motive : Run → Prop}
    (taken : ∀ (run : Run) position task phase gate peak, motive run →
      run.tasks[position]? = some task → run.Transition task phase gate peak →
        motive (run.become position task phase gate peak))
    (waited : ∀ (run : Run) now, motive run → run.now ≤ now → run.isSettled = true →
      motive { run with now })
    (answered : ∀ (run : Run) providers, motive run → motive { run with providers })
    {moves : List Move} {run : Run} (prompt : run.IsPrompt moves) (base : motive run) :
    motive (run.play moves) := by
  induction moves generalizing run with
  | nil => exact base
  | cons move rest inductionHypothesis =>
    rw [play_cons]
    refine inductionHypothesis prompt.2 ?_
    cases move with
    | step position =>
      rw [act]
      rcases run.step_cases position with
        ⟨same, _⟩ | ⟨task, phase, gate, peak, found, transition, result⟩
      · rwa [same]
      · rw [result]
        exact taken run position task phase gate peak base found transition
    | wait milliseconds => exact waited run _ base (Nat.le_add_right _ _) (prompt.1 rfl)
    | answer providers => exact answered run providers base

/-- A run is reached from another one by a prompt schedule. -/
def LeadsPromptly (first last : Run) : Prop :=
  ∃ moves, first.IsPrompt moves ∧ first.play moves = last

theorem leadsPromptly_refl (run : Run) : run.LeadsPromptly run :=
  ⟨[], trivial, rfl⟩

theorem LeadsPromptly.trans {first second third : Run} (early : first.LeadsPromptly second)
    (late : second.LeadsPromptly third) : first.LeadsPromptly third := by
  obtain ⟨moves, prompt, rfl⟩ := early
  obtain ⟨others, othersPrompt, rfl⟩ := late
  exact ⟨moves ++ others, (first.isPrompt_append moves others).mpr ⟨prompt, othersPrompt⟩,
    play_append first moves others⟩

theorem leadsPromptly_awake (run : Run) : run.LeadsPromptly run.awake := by
  unfold awake
  split
  · rename_i settled
    unfold advance
    split
    · rename_i time _
      refine ⟨[.wait (time - run.now)], ⟨fun _ => settled, trivial⟩, ?_⟩
      rw [play_cons, act, show run.now + (time - run.now) = max run.now time by omega]
      rfl
    · exact leadsPromptly_refl run
  · exact leadsPromptly_refl run

/-! ### Rounds -/

/-- The run in which those answer whose turn it is. -/
def heed (run : Run) (responder : Responder) : Run :=
  { run with providers := responder run.now run.calls }

/-- Take the tasks at some positions as far as they can go. -/
def stepsUnder (responder : Responder) (run : Run) (positions : List Nat) : Run :=
  positions.foldl (fun run position => (run.heed responder).step position) run

/-- Take every task as far as it can go, in order. -/
def passUnder (responder : Responder) (run : Run) : Run :=
  run.stepsUnder responder (List.range run.tasks.length)

/-- Move the clock if nothing else can be done, and take every task as far as it can go. -/
def roundUnder (responder : Responder) (run : Run) : Run :=
  run.awake.passUnder responder

/-- At most so many rounds, until all tasks are over. -/
def roundsUnder (responder : Responder) : Nat → Run → Run
  | 0, run => run
  | count + 1, run =>
    if run.isOver then run else roundsUnder responder count (run.roundUnder responder)

/-- The run to its end. -/
def completeUnder (responder : Responder) (run : Run) : Run :=
  run.roundsUnder responder run.totalWork

/-! ### Providers that stay the same -/

section

variable {providers : Providers} {run : Run}

theorem step_providers (run : Run) (position : Nat) :
    (run.step position).providers = run.providers := by
  rcases run.step_cases position with ⟨same, _⟩ | ⟨_, _, _, _, _, _, result⟩
  · exact congrArg Run.providers same
  · rw [result]
    rfl

theorem foldl_step_providers (run : Run) (positions : List Nat) :
    (positions.foldl step run).providers = run.providers := by
  induction positions generalizing run with
  | nil => rfl
  | cons position rest inductionHypothesis =>
    exact (inductionHypothesis (run.step position)).trans (run.step_providers position)

theorem awake_providers (run : Run) : run.awake.providers = run.providers := by
  unfold awake advance
  split
  · split <;> rfl
  · rfl

theorem stepsUnder_constant (same : run.providers = providers) (positions : List Nat) :
    run.stepsUnder (.constant providers) positions = positions.foldl step run := by
  induction positions generalizing run with
  | nil => rfl
  | cons position rest inductionHypothesis =>
    have heeded : run.heed (.constant providers) = run := by
      rw [← same]
      rfl
    rw [stepsUnder, List.foldl_cons, List.foldl_cons, heeded]
    exact inductionHypothesis ((run.step_providers position).trans same)

theorem roundUnder_constant (same : run.providers = providers) :
    run.roundUnder (.constant providers) = run.round :=
  stepsUnder_constant (run.awake_providers.trans same) _

theorem round_providers (run : Run) : run.round.providers = run.providers :=
  (run.awake.foldl_step_providers _).trans run.awake_providers

theorem roundsUnder_constant (same : run.providers = providers) (count : Nat) :
    run.roundsUnder (.constant providers) count = rounds count run := by
  induction count generalizing run with
  | zero => rfl
  | succ count inductionHypothesis =>
    rw [roundsUnder, rounds, roundUnder_constant same,
      inductionHypothesis (run.round_providers.trans same)]

/-- Providers that stay the same complete a run as every run is completed. -/
theorem completeUnder_constant (same : run.providers = providers) :
    run.completeUnder (.constant providers) = run.complete :=
  roundsUnder_constant same _

end

/-! ### Rounds are prompt -/

theorem exists_polls (responder : Responder) (run : Run) (positions : List Nat) :
    ∃ polls : List Move, (∀ move ∈ polls, move.isPause = false) ∧
      polls.filterMap Move.position? = positions ∧
      run.play polls = run.stepsUnder responder positions := by
  induction positions generalizing run with
  | nil => exact ⟨[], fun _ member => absurd member List.not_mem_nil, rfl, rfl⟩
  | cons position rest inductionHypothesis =>
    obtain ⟨polls, busy, looked, result⟩ := inductionHypothesis ((run.heed responder).step position)
    refine ⟨.answer (responder run.now run.calls) :: .step position :: polls, ?_, ?_, result⟩
    · simpa only [List.forall_mem_cons, Move.isPause, true_and] using busy
    · simp only [List.filterMap_cons, Move.position?, looked]

theorem leadsPromptly_roundUnder (responder : Responder) (run : Run) :
    run.LeadsPromptly (run.roundUnder responder) := by
  obtain ⟨polls, busy, _, result⟩ :=
    exists_polls responder run.awake (List.range run.awake.tasks.length)
  exact run.leadsPromptly_awake.trans ⟨polls, run.awake.isPrompt_of_no_pause busy, result⟩

theorem leadsPromptly_roundsUnder (responder : Responder) (count : Nat) (run : Run) :
    run.LeadsPromptly (run.roundsUnder responder count) := by
  induction count generalizing run with
  | zero => exact leadsPromptly_refl run
  | succ count inductionHypothesis =>
    rw [roundsUnder]
    split
    · exact leadsPromptly_refl run
    · exact (leadsPromptly_roundUnder responder run).trans (inductionHypothesis _)

/-! ### The end -/

/-- A schedule that looks at a task that is ready leaves less work: nothing but a transition can keep
the task from being taken further when it is looked at. -/
theorem totalWork_play_lt (run : Run) {moves : List Move} {position : Nat} {task : Task}
    (looked : .step position ∈ moves) (found : run.tasks[position]? = some task)
    (ready : run.isReady task = true) : (run.play moves).totalWork < run.totalWork := by
  induction moves generalizing run with
  | nil => exact absurd looked List.not_mem_nil
  | cons move rest inductionHypothesis =>
    rw [play_cons]
    rcases run.act_cases move with less | ⟨tasks, gate⟩
    · exact Nat.lt_of_le_of_lt (totalWork_play_le _ rest) less
    rcases List.mem_cons.mp looked with rfl | later
    · exact Nat.lt_of_le_of_lt (totalWork_play_le _ rest) (totalWork_step_lt found ready)
    · refine Nat.lt_of_lt_of_le (inductionHypothesis (run.act move) later (tasks ▸ found)
        (isReady_of_same tasks gate (run.now_le_act move) ready)) (run.totalWork_act_le move)

theorem LeadsPromptly.balanced {first last : Run} (leads : first.LeadsPromptly last)
    (balanced : first.Balanced) : last.Balanced := by
  obtain ⟨moves, _, rfl⟩ := leads
  exact balanced.play moves

theorem LeadsPromptly.capacity {first last : Run} (leads : first.LeadsPromptly last) :
    last.gate.capacity = first.gate.capacity := by
  obtain ⟨moves, _, rfl⟩ := leads
  exact (play_gate_fixed first moves).1

theorem LeadsPromptly.plan {first last : Run} (leads : first.LeadsPromptly last) :
    last.plan = first.plan := by
  obtain ⟨moves, _, rfl⟩ := leads
  exact play_plan first moves

theorem LeadsPromptly.grounded {first last : Run} (leads : first.LeadsPromptly last)
    (grounded : first.Grounded fun _ => True) : last.Grounded fun _ => True := by
  obtain ⟨moves, _, rfl⟩ := leads
  exact grounded.play moves fun move _ => move.within_any

theorem Balanced.totalWork_roundUnder_lt {run : Run} (balanced : run.Balanced)
    (positive : 0 < run.gate.capacity) (unfinished : run.isOver = false) (responder : Responder) :
    (run.roundUnder responder).totalWork < run.totalWork := by
  obtain ⟨task, member, ready⟩ := balanced.exists_ready_awake positive unfinished
  obtain ⟨position, inside, found⟩ := List.getElem_of_mem member
  obtain ⟨polls, _, positions, result⟩ :=
    exists_polls responder run.awake (List.range run.awake.tasks.length)
  have looked : Move.step position ∈ polls := by
    have among : position ∈ polls.filterMap Move.position? := positions ▸ List.mem_range.mpr inside
    obtain ⟨move, listed, same⟩ := List.mem_filterMap.mp among
    cases move with
    | step other => exact Option.some.inj same ▸ listed
    | _ => exact nomatch same
  have less := run.awake.totalWork_play_lt looked (List.getElem?_eq_some_iff.mpr ⟨inside, found⟩)
    ready
  rw [result, awake_totalWork] at less
  exact less

theorem Balanced.roundsUnder_isOver {run : Run} (balanced : run.Balanced)
    (positive : 0 < run.gate.capacity) (responder : Responder) {count : Nat}
    (enough : run.totalWork ≤ count) : (run.roundsUnder responder count).isOver = true := by
  induction count generalizing run with
  | zero => exact run.isOver_of_totalWork_eq_zero (Nat.le_zero.mp enough)
  | succ count inductionHypothesis =>
    rw [roundsUnder]
    cases allOver : run.isOver with
    | true =>
      rw [if_pos rfl]
      exact allOver
    | false =>
      rw [if_neg Bool.false_ne_true]
      have leads := leadsPromptly_roundUnder responder run
      have less := balanced.totalWork_roundUnder_lt positive allOver responder
      exact inductionHypothesis (leads.balanced balanced) (leads.capacity ▸ positive) (by omega)

/-- Whoever answers, a run can be completed from every state in which the books are in order, if
there is a permit at all. -/
theorem Balanced.completeUnder_isOver {run : Run} (balanced : run.Balanced)
    (positive : 0 < run.gate.capacity) (responder : Responder) :
    (run.completeUnder responder).isOver = true :=
  balanced.roundsUnder_isOver positive responder (Nat.le_refl _)

/-! ### The start -/

/-- At the start all tasks are looked at before the clock moves. -/
theorem completeUnder_start (responder : Responder) (providers : Providers) (gate : Gate)
    (now : Nat) (batches : List Batch) :
    let first := start providers gate now batches
    first.completeUnder responder =
      (first.passUnder responder).roundsUnder responder (first.totalWork - 1) := by
  intro first
  have idle : first.endings = [] := List.filterMap_eq_nil_iff.mpr fun task member => by
    rw [start_phase member]
  have awake : first.awake = first := by
    unfold Run.awake advance
    rw [idle]
    exact ite_self first
  unfold completeUnder
  rcases tasks : first.tasks with _ | ⟨task, rest⟩
  · have work : first.totalWork = 0 := by
      unfold totalWork
      rw [tasks]
      rfl
    have passed : first.passUnder responder = first := by
      unfold passUnder
      rw [tasks]
      rfl
    rw [work, passed]
  · have member : task ∈ first.tasks := tasks ▸ List.mem_cons_self
    have unfinished : first.isOver = false := by
      unfold isOver
      rw [tasks, List.all_cons, start_phase member]
      rfl
    have positive : 0 < first.totalWork := by
      refine Nat.pos_of_ne_zero fun nothing => ?_
      rw [first.isOver_of_totalWork_eq_zero nothing] at unfinished
      exact Bool.noConfusion unfinished
    obtain ⟨count, work⟩ := Nat.exists_eq_succ_of_ne_zero (Nat.ne_of_gt positive)
    rw [work, Nat.succ_sub_one, roundsUnder, unfinished, if_neg Bool.false_ne_true, roundUnder,
      awake]

end Run

end Triage
