/-
This file proves what a cascade does, in every state and under every schedule. The tasks of a
cascade stand in a row, one in each stage, so those before a task are its predecessors in the row. A
task gets its turn with the prompt that the replies of its predecessors make, and no task behind a
failure ever gets a turn.

The prompt is not made from the prompt before: it depends on the task of the batch and on the last
reply that says anything, so that prompts do not nest.
-/

import Mathlib.Data.List.Induction
import Triage.Proofs.Ensemble.Completion
import Triage.Proofs.Ensemble.Outcome

namespace Triage

/-- How a cascade puts its task after replies with some contents: as it was given while none of them
says anything, and otherwise behind the last one that does. -/
inductive CascadePrompt (prompt : String) (contents : List String) : String → Prop where
  | plain (silent : ∀ content ∈ contents, content = "") : CascadePrompt prompt contents prompt
  | linked {early late : List String} {content : String}
      (split : contents = early ++ content :: late) (loud : content ≠ "")
      (silent : ∀ other ∈ late, other = "") :
      CascadePrompt prompt contents
        ("Previous result: " ++ content ++ "\n\nOriginal task: " ++ prompt)

/-- An empty reply leaves the prompt as it is. -/
theorem CascadePrompt.append_empty {prompt put : String} {contents : List String}
    (same : CascadePrompt prompt contents put) : CascadePrompt prompt (contents ++ [""]) put := by
  have silent : ∀ others : List String, (∀ other ∈ others, other = "") →
      ∀ other ∈ others ++ [""], other = "" := by
    intro others silent other member
    rcases List.mem_append.mp member with member | member
    · exact silent other member
    · exact List.mem_singleton.mp member
  cases same with
  | plain quiet => exact .plain (silent contents quiet)
  | linked split loud quiet =>
    have longer := congrArg (· ++ [""]) split
    simp only [List.append_assoc, List.cons_append] at longer
    exact .linked longer loud (silent _ quiet)

/-- The attempt that is under way or has ended. -/
def Phase.attempt? : Phase → Option Ending
  | calling ending _ => some ending
  | ended ending => some ending
  | _ => none

/-- Only a cascade is chained, and it asks one model after the other. -/
theorem Strategy.stages_of_isChained {strategy : Strategy} (chained : strategy.isChained = true)
    (models : List Model) : strategy.stages models = models.map fun model => [model] := by
  cases strategy with
  | cascade => rfl
  | _ => exact Bool.noConfusion chained

theorem Batch.lineup_of_isChained {batch : Batch} (chained : batch.strategy.isChained = true) :
    batch.lineup = batch.models := by
  unfold lineup
  rw [Strategy.stages_of_isChained chained]
  exact List.flatMap_singleton' batch.models

namespace Run

/-- An attempt is one of the model of its task, with the prompt that was made when its turn came. -/
theorem Grounded.ends {tables : Providers → Prop} {run : Run} (grounded : run.Grounded tables)
    {task : Task} (member : task ∈ run.tasks) {ending : Ending}
    (attempted : task.phase.attempt? = some ending) :
    task.model.Ends tables run.gate.isOpen (promptAfter task (run.before task)) ending := by
  have grounds := grounded.grounds task member
  unfold HasGrounds at grounds
  cases current : task.phase <;> rw [current] at attempted <;> simp only [current] at grounds
  case calling | ended =>
    obtain ⟨prompt, turn, ends⟩ := grounds
    rw [((run.turn_eq_now_iff task prompt).mp turn).2.2]
    exact Option.some.inj attempted ▸ ends
  all_goals exact nomatch attempted

/-- What the replies of some tasks say. -/
def contents (tasks : List Task) : List String :=
  tasks.filterMap fun task => task.reply?.map (·.content)

/-! ### The prompt -/

theorem latestContent?_eq (tasks : List Task) :
    latestContent? tasks = ((contents tasks).filter fun content => !content.isEmpty).getLast? := by
  unfold latestContent? contents
  rw [List.filter_filterMap]

theorem cascadePrompt_latest (prompt : String) (contents : List String) :
    CascadePrompt prompt contents
      (match (contents.filter fun content => !content.isEmpty).getLast? with
        | some content => chainedPrompt content prompt
        | none => prompt) := by
  induction contents using List.reverseRecOn with
  | nil => exact .plain fun _ member => absurd member List.not_mem_nil
  | append_singleton early content inductionHypothesis =>
    rw [List.filter_append]
    cases quiet : content.isEmpty with
    | true =>
      have empty : content = "" := String.isEmpty_iff.mp quiet
      rw [List.filter_cons_of_neg (by rw [quiet]; exact Bool.false_ne_true), List.filter_nil,
        List.append_nil, empty]
      exact inductionHypothesis.append_empty
    | false =>
      have loud : content ≠ "" := by
        rintro rfl
        exact Bool.noConfusion quiet
      rw [List.filter_cons_of_pos (by rw [quiet]; rfl), List.filter_nil, List.getLast?_append,
        List.getLast?_singleton, Option.some_or]
      exact .linked rfl loud fun _ member => absurd member List.not_mem_nil

theorem cascadePrompt_promptAfter {task : Task} (chained : task.isChained = true)
    (earlier : List Task) :
    CascadePrompt task.prompt (contents earlier) (promptAfter task earlier) := by
  unfold promptAfter
  rw [if_pos chained, latestContent?_eq]
  exact cascadePrompt_latest task.prompt (contents earlier)

/-! ### The row -/

/-- The tasks of a batch that asks one model after the other have a stage each. -/
theorem tasks_stage_pairwise {batch : Batch} (number : Nat)
    (single : batch.strategy.stages batch.models = batch.models.map fun model => [model]) :
    ((batch.tasks number).map (·.stage)).Pairwise (· < ·) := by
  have stages : ∀ first, ((batch.models.map fun model => [model]).zipIdx first).flatMap
      (fun pair => (batch.tasksOfStage number pair.2 pair.1).map (·.stage)) =
        List.range' first batch.models.length := by
    induction batch.models with
    | nil => exact fun _ => rfl
    | cons model rest inductionHypothesis =>
      intro first
      rw [List.map_cons, List.zipIdx_cons, List.flatMap_cons, inductionHypothesis]
      rfl
  unfold Batch.tasks
  rw [single, List.map_flatMap]
  refine Eq.mpr (congrArg (List.Pairwise (· < ·)) (stages 0)) ?_
  exact List.pairwise_lt_range'

theorem tasksOf_stage_pairwise {run : Run} {number : Nat} {batch : Batch}
    (same : (run.tasksOf number).map Task.fresh = batch.tasks number)
    (single : batch.strategy.stages batch.models = batch.models.map fun model => [model]) :
    ((run.tasksOf number).map (·.stage)).Pairwise (· < ·) := by
  rw [← map_fresh_stage, same]
  exact tasks_stage_pairwise number single

/-- The tasks before a task in a row are its predecessors. -/
theorem before_eq_of_row {run : Run} {number : Nat} {task : Task} {first last : List Task}
    (row : run.tasksOf number = first ++ task :: last)
    (ordered : ((run.tasksOf number).map (·.stage)).Pairwise (· < ·)) :
    run.before task = first := by
  have own : task.batch = number := by
    have member : task ∈ run.tasksOf number := by
      rw [row]
      exact List.mem_append_right _ List.mem_cons_self
    exact beq_iff_eq.mp (List.mem_filter.mp member).2
  have among : run.before task = (run.tasksOf number).filter fun other =>
      decide (other.stage < task.stage) := by
    unfold before tasksOf
    rw [List.filter_filter, own]
    exact List.filter_congr fun other _ => Bool.and_comm _ _
  rw [List.pairwise_map, row, List.pairwise_append, List.pairwise_cons] at ordered
  rw [among, row, List.filter_append, List.filter_cons_of_neg (by simp)]
  have earlier : first.filter (fun other => decide (other.stage < task.stage)) = first :=
    List.filter_eq_self.mpr fun other member =>
      decide_eq_true (ordered.2.2 other member task List.mem_cons_self)
  have later : last.filter (fun other => decide (other.stage < task.stage)) = [] :=
    List.filter_eq_nil_iff.mpr fun other member early => by
      have late := ordered.2.1.1 other member
      rw [decide_eq_true_eq] at early
      omega
  rw [earlier, later, List.append_nil]

theorem row_split {tasks : List Task} {index : Nat} {task : Task}
    (found : tasks[index]? = some task) :
    tasks = tasks.take index ++ task :: tasks.drop (index + 1) := by
  obtain ⟨inside, rfl⟩ := List.getElem?_eq_some_iff.mp found
  rw [List.getElem_cons_drop, List.take_append_drop]

/-- The tasks of a cascade in some state: they have grounds, and they stand in a row. -/
structure Chain (tables : Providers → Prop) (run : Run) (number : Nat) : Prop where
  grounded : run.Grounded tables
  ordered : ((run.tasksOf number).map (·.stage)).Pairwise (· < ·)
  chained : ∀ task ∈ run.tasksOf number, task.isChained = true

theorem Grounded.chain {tables : Providers → Prop} {run : Run} (grounded : run.Grounded tables)
    {number : Nat} {batch : Batch} (same : (run.tasksOf number).map Task.fresh = batch.tasks number)
    (chained : batch.strategy.isChained = true) : run.Chain tables number where
  grounded := grounded
  ordered := tasksOf_stage_pairwise same (Strategy.stages_of_isChained chained batch.models)
  chained := fun _ member => (of_mem_tasksOf same member).2.trans chained

section

variable {tables : Providers → Prop} {run : Run} {number index : Nat} {task : Task}

/-- A task of a cascade has begun with the prompt that its predecessors make, none of which has
failed. -/
theorem Chain.begun (chain : run.Chain tables number)
    (found : (run.tasksOf number)[index]? = some task)
    (begun : task.phase ≠ .held ∧ task.phase ≠ .skipped) :
    run.turn task = .now (promptAfter task ((run.tasksOf number).take index)) ∧
      ((run.tasksOf number).take index).any (·.hasFailed) = false := by
  have member := List.mem_of_getElem? found
  have grounds := chain.grounded.grounds task (List.mem_filter.mp member).1
  have turn : ∃ prompt, run.turn task = .now prompt := by
    unfold HasGrounds at grounds
    cases current : task.phase <;> simp only [current] at grounds
    case held => exact absurd current begun.1
    case skipped => exact absurd current begun.2
    case waiting prompt ticket => exact ⟨prompt, grounds.1⟩
    case calling => exact grounds.imp fun _ both => both.1
    case ended => exact grounds.imp fun _ both => both.1
  obtain ⟨prompt, turn⟩ := turn
  obtain ⟨going, _, same⟩ := (run.turn_eq_now_iff task prompt).mp turn
  rw [before_eq_of_row (row_split found) chain.ordered] at going same
  refine ⟨same ▸ turn, ?_⟩
  rw [← Bool.not_eq_true]
  exact fun failed => going ⟨chain.chained task member, failed⟩

/-- The attempt of a task of a cascade is one of its model with the prompt that its predecessors
make. -/
theorem Chain.ends (chain : run.Chain tables number)
    (found : (run.tasksOf number)[index]? = some task) {ending : Ending}
    (attempted : task.phase.attempt? = some ending) :
    task.model.Ends tables run.gate.isOpen
      (promptAfter task ((run.tasksOf number).take index)) ending := by
  have member := (List.mem_filter.mp (List.mem_of_getElem? found)).1
  rw [← before_eq_of_row (row_split found) chain.ordered]
  exact chain.grounded.ends member attempted

/-- Nothing begins behind a failure. -/
theorem Chain.stopped (chain : run.Chain tables number)
    (found : (run.tasksOf number)[index]? = some task)
    (failed : ((run.tasksOf number).take index).any (·.hasFailed) = true) :
    task.phase = .held ∨ task.phase = .skipped := by
  by_cases held : task.phase = .held
  · exact Or.inl held
  by_cases skipped : task.phase = .skipped
  · exact Or.inr skipped
  rw [(chain.begun found ⟨held, skipped⟩).2] at failed
  exact Bool.noConfusion failed

/-- A task is skipped for a failure before it. -/
theorem Chain.exists_failed (chain : run.Chain tables number)
    (found : (run.tasksOf number)[index]? = some task) (skipped : task.phase = .skipped) :
    ((run.tasksOf number).take index).any (·.hasFailed) = true := by
  have grounds := chain.grounded.grounds task (List.mem_filter.mp (List.mem_of_getElem? found)).1
  unfold HasGrounds at grounds
  simp only [skipped] at grounds
  have failed := ((run.turn_eq_never_iff task).mp grounds).2
  rwa [before_eq_of_row (row_split found) chain.ordered] at failed

end

/-! ### The slots of a chain -/

theorem slot?_of_replied {task : Task} (allOver : task.phase.isOver = true)
    (reached : task.phase ≠ .skipped) (unfailed : task.hasFailed = false) :
    ∃ reply, task.slot? = some (some reply) := by
  unfold Task.hasFailed at unfailed
  unfold Task.slot?
  cases current : task.phase <;> rw [current] at allOver unfailed
  case ended ending =>
    cases replied : ending.reply? with
    | none =>
      simp only [replied, Option.isNone_none] at unfailed
      exact Bool.noConfusion unfailed
    | some reply => exact ⟨reply, congrArg some replied⟩
  case skipped => exact absurd current reached
  all_goals exact Bool.noConfusion allOver

theorem slot?_of_hasFailed {task : Task} (failed : task.hasFailed = true) :
    task.slot? = some none := by
  unfold Task.hasFailed at failed
  unfold Task.slot?
  cases current : task.phase <;> rw [current] at failed
  case ended ending => exact congrArg some (Option.isNone_iff_eq_none.mp failed)
  all_goals exact Bool.noConfusion failed

/-- Tasks that have replied have full slots. -/
theorem filterMap_slot?_of_replied {tasks : List Task}
    (replied : ∀ task ∈ tasks, ∃ reply, task.slot? = some (some reply)) :
    ∃ replies : List Reply, replies.length = tasks.length ∧
      tasks.filterMap (·.slot?) = replies.map some := by
  induction tasks with
  | nil => exact ⟨[], rfl, rfl⟩
  | cons task rest inductionHypothesis =>
    obtain ⟨reply, full⟩ := replied task List.mem_cons_self
    obtain ⟨replies, length, same⟩ :=
      inductionHypothesis fun other member => replied other (List.mem_cons_of_mem _ member)
    refine ⟨reply :: replies, congrArg (· + 1) length, ?_⟩
    rw [List.filterMap_cons_some full, same, List.map_cons]

section

variable {tables : Providers → Prop} {run : Run} {number : Nat}

/-- When a cascade is over, whoever stands before the failure has replied. -/
theorem Chain.replied_before (chain : run.Chain tables number)
    (allOver : (run.tasksOf number).all (·.phase.isOver) = true) {last : Nat}
    (unfailed : ((run.tasksOf number).take last).any (·.hasFailed) = false) :
    ∀ task ∈ (run.tasksOf number).take last, ∃ reply, task.slot? = some (some reply) := by
  intro task member
  have all := List.mem_of_mem_take member
  obtain ⟨index, inside, found⟩ := List.getElem_of_mem member
  rw [List.getElem_take] at found
  rw [List.length_take] at inside
  have at_index : (run.tasksOf number)[index]? = some task :=
    List.getElem?_eq_some_iff.mpr ⟨by omega, found⟩
  refine slot?_of_replied (List.all_eq_true.mp allOver task all) (fun skipped => ?_) ?_
  · obtain ⟨failed, before, failure⟩ :=
      List.any_eq_true.mp (chain.exists_failed at_index skipped)
    have earlier : failed ∈ (run.tasksOf number).take last :=
      List.take_subset_take_left _ (by omega) before
    exact absurd failure (List.any_eq_false.mp unfailed failed earlier)
  · exact Bool.not_eq_true _ ▸ List.any_eq_false.mp unfailed task member

section

variable {index : Nat} {failed : Task}

theorem Chain.stopped_behind (chain : run.Chain tables number)
    (found : (run.tasksOf number)[index]? = some failed) (failure : failed.hasFailed = true)
    {later : Nat} {task : Task} (behind : index < later)
    (foundLater : (run.tasksOf number)[later]? = some task) :
    task.phase = .held ∨ task.phase = .skipped := by
  obtain ⟨inside, rfl⟩ := List.getElem?_eq_some_iff.mp found
  refine chain.stopped foundLater (List.any_eq_true.mpr ⟨_, ?_, failure⟩)
  exact List.mem_take_iff_getElem.mpr ⟨index, Nat.lt_min.mpr ⟨behind, inside⟩, rfl⟩

/-- Behind a failure there are no slots. -/
theorem Chain.slots_behind (chain : run.Chain tables number)
    (allOver : (run.tasksOf number).all (·.phase.isOver) = true)
    (found : (run.tasksOf number)[index]? = some failed) (failure : failed.hasFailed = true) :
    ((run.tasksOf number).drop (index + 1)).filterMap (·.slot?) = [] := by
  refine List.filterMap_eq_nil_iff.mpr fun task member => ?_
  obtain ⟨offset, _, foundLater⟩ := List.getElem_of_mem member
  rw [List.getElem_drop] at foundLater
  have behind := chain.stopped_behind found failure (show index < index + 1 + offset by omega)
    (List.getElem?_eq_some_iff.mpr ⟨_, foundLater⟩)
  have done := List.all_eq_true.mp allOver task (List.mem_of_mem_drop member)
  unfold Task.slot?
  rcases behind with current | current <;> rw [current] at done ⊢
  · exact Bool.noConfusion done
  · rfl

/-- The slots of a cascade that has stopped. -/
theorem Chain.results_of_failure (chain : run.Chain tables number)
    (allOver : (run.tasksOf number).all (·.phase.isOver) = true)
    (found : (run.tasksOf number)[index]? = some failed) (failure : failed.hasFailed = true) :
    ∃ replies : List Reply,
      replies.length = index ∧ run.results number = replies.map some ++ [none] := by
  have begun : failed.phase ≠ .held ∧ failed.phase ≠ .skipped := by
    unfold Task.hasFailed at failure
    refine ⟨fun current => ?_, fun current => ?_⟩ <;>
    · rw [current] at failure
      exact Bool.noConfusion failure
  obtain ⟨replies, length, full⟩ :=
    filterMap_slot?_of_replied (chain.replied_before allOver (chain.begun found begun).2)
  have inside := (List.getElem?_eq_some_iff.mp found).1
  refine ⟨replies, by rw [length, List.length_take]; omega, ?_⟩
  rw [results_eq, row_split found, List.filterMap_append, full,
    List.filterMap_cons_some (slot?_of_hasFailed failure),
    chain.slots_behind allOver found failure]

end

/-- The slots of a cascade in which nobody failed. -/
theorem Chain.results_of_success (chain : run.Chain tables number)
    (allOver : (run.tasksOf number).all (·.phase.isOver) = true)
    (unfailed : (run.tasksOf number).any (·.hasFailed) = false) :
    ∃ replies : List Reply,
      replies.length = (run.tasksOf number).length ∧ run.results number = replies.map some := by
  rw [← List.take_length (l := run.tasksOf number)] at unfailed
  obtain ⟨replies, length, full⟩ :=
    filterMap_slot?_of_replied (chain.replied_before allOver unfailed)
  rw [List.take_length] at length full
  exact ⟨replies, length, full⟩

end

/-- A cascade stops at its first failure. In every state, whatever the providers answer: an attempt
is made with the task as it was given, behind the last earlier reply that says anything; behind a
failure no task has taken a ticket, let alone made a call. When the cascade is over, its slots are
full up to the failure, whose slot is empty and the last; without a failure all are full. And every
cascade comes to its end if the gate has a permit. -/
theorem cascade_stops_at_first_failure (providers : Providers) (gate : Gate) (now : Nat)
    (batches : List Batch) (number : Nat) (models : List Model) (prompt : String)
    (listed : batches[number]? = some ⟨.cascade, models, prompt⟩) (moves : List Move) :
    let run := (start providers gate now batches).play moves
    let row := run.tasksOf number
    row.map (·.model) = models ∧
      (∀ index task ending, row[index]? = some task → task.phase.attempt? = some ending →
        ∃ put, CascadePrompt prompt (contents (row.take index)) put ∧
          task.model.Ends (fun _ => True) gate.isOpen put ending ∧
          ∀ call, ending.call? = some call → call.request = task.model.request put) ∧
      (∀ index failed, row[index]? = some failed → failed.hasFailed = true →
        (∀ later task, index < later → row[later]? = some task →
          task.phase = .held ∨ task.phase = .skipped) ∧
        (row.all (·.phase.isOver) = true → ∃ replies : List Reply,
          replies.length = index ∧ run.results number = replies.map some ++ [none])) ∧
      (row.all (·.phase.isOver) = true → row.any (·.hasFailed) = false → ∃ replies : List Reply,
        replies.length = models.length ∧ run.results number = replies.map some) ∧
      (gate.IsWhole → 0 < gate.capacity → run.complete.isOver = true) := by
  intro run row
  have same : row.map Task.fresh = Batch.tasks ⟨.cascade, models, prompt⟩ number :=
    play_tasksOf providers gate now batches moves listed
  have grounded : run.Grounded fun _ => True :=
    (grounded_start trivial gate now batches).play moves fun move _ => move.within_any
  have fixed := play_gate_fixed (start providers gate now batches) moves
  have lineup : row.map (·.model) = models :=
    (tasksOf_model same).trans (Batch.lineup_of_isChained rfl)
  have chain : run.Chain (fun _ => True) number := grounded.chain same rfl
  refine ⟨lineup, fun index task ending found attempted => ?_, fun index failed found failure =>
    ⟨fun later task behind foundLater => ?_, fun allOver => ?_⟩, fun allOver unfailed => ?_,
    fun whole positive => ?_⟩
  · have member := List.mem_of_getElem? found
    have ends := chain.ends found attempted
    have put := cascadePrompt_promptAfter (chain.chained task member) (row.take index)
    rw [fixed.2] at ends
    rw [(of_mem_tasksOf same member).1] at put
    exact ⟨_, put, ends, fun call made => ends.request_eq made⟩
  · exact chain.stopped_behind found failure behind foundLater
  · exact chain.results_of_failure allOver found failure
  · obtain ⟨replies, length, full⟩ := chain.results_of_success allOver unfailed
    exact ⟨replies, by rw [length, ← lineup, List.length_map], full⟩
  · have balanced : run.Balanced := (balanced_start providers whole now batches).play moves
    refine balanced.complete_isOver ?_
    rw [fixed.1]
    exact positive

/-- The case of a cascade whose second model has no provider. -/
theorem cascade_stops_at_unknown_provider :
    let known : Model := { provider := "echo", name := "m", kind := .fast }
    let unknown : Model := { provider := "nobody", name := "m", kind := .fast }
    let echo : Provider := ⟨"echo", fun request => ⟨5, .ok ⟨request.prompt, "echo", "m"⟩⟩⟩
    let run := (start (.ofList [echo]) (.withPermits 1) 0
      [⟨.cascade, [known, unknown, known], "task"⟩]).play
        [.step 0, .wait 5, .step 0, .step 1, .step 2]
    ∃ replies : List Reply, replies.length = 1 ∧ run.results 0 = replies.map some ++ [none] := by
  intro known unknown echo run
  have stops := (cascade_stops_at_first_failure (.ofList [echo]) (.withPermits 1) 0
    [⟨.cascade, [known, unknown, known], "task"⟩] 0 [known, unknown, known] "task" rfl
    [.step 0, .wait 5, .step 0, .step 1, .step 2]).2.2.1
  have failure : (run.tasksOf 0)[1]?.any (·.hasFailed) = true := by decide +kernel
  have allOver : (run.tasksOf 0).all (·.phase.isOver) = true := by decide +kernel
  cases found : (run.tasksOf 0)[1]? with
  | none => rw [found] at failure; exact Bool.noConfusion failure
  | some failed =>
    rw [found] at failure
    exact (stops 1 failed found failure).2 allOver

end Run

end Triage
