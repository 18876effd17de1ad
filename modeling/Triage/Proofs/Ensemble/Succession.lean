/-
This file proves in which order the attempts of a batch are made, in every state of every run. A
task gets its turn when all tasks of the stages before its own are over, and in a chain only when
none of them has failed; so when its attempt has begun, theirs have ended, and nothing takes this
back. What is left to say is which tasks share a stage: none do where models are asked one after the
other, and in a hierarchy only those that are specialized for the same.
-/

import Mathlib.Data.List.Pairwise
import Triage.Proofs.Ensemble.Arrangement

namespace Triage

/-- Has the attempt begun? -/
def Phase.hasBegun : Phase → Bool
  | waiting _ _ | calling _ _ | ended _ => true
  | _ => false

/-- Has the attempt ended? -/
def Phase.hasEnded : Phase → Bool
  | ended _ => true
  | _ => false

theorem Phase.hasBegun_of_isCalling {phase : Phase} (calling : phase.isCalling = true) :
    phase.hasBegun = true := by
  cases phase <;> first | rfl | exact Bool.noConfusion calling

/-- Of two tasks the second one waits for the first: its attempt begins when that of the first has
ended. -/
def Task.Awaits (first second : Task) : Prop :=
  second.phase.hasBegun = true → first.phase.hasEnded = true

/-- Of tasks that wait for each other in turn no more than one makes a call. -/
theorem countP_isCalling_le_one {tasks : List Task} (inTurn : tasks.Pairwise Task.Awaits) :
    tasks.countP (·.phase.isCalling) ≤ 1 := by
  induction inTurn with
  | nil => exact Nat.zero_le 1
  | @cons head rest awaits _ inductionHypothesis =>
    rw [List.countP_cons]
    split
    · rename_i calling
      have nobody : rest.countP (·.phase.isCalling) = 0 := by
        refine List.countP_eq_zero.mpr fun other member otherCalling => ?_
        have ended := awaits other member (Phase.hasBegun_of_isCalling otherCalling)
        cases current : head.phase <;> rw [current] at calling ended <;> contradiction
      omega
    · exact inductionHypothesis

/-! ### Who shares a stage -/

/-- The tasks of a batch stand in the order of their stages, and those that share one have models
that are asked together. -/
theorem Batch.tasks_pairwise {batch : Batch} {together : Model → Model → Prop}
    (each : ∀ stage ∈ batch.strategy.stages batch.models, stage.Pairwise together) (number : Nat) :
    (batch.tasks number).Pairwise fun first second =>
      first.stage < second.stage ∨ together first.model second.model := by
  have numbered : ((batch.strategy.stages batch.models).zipIdx).Pairwise
      fun one two => one.2 < two.2 := by
    rw [← List.pairwise_map (f := Prod.snd), List.zipIdx_map_snd]
    exact List.pairwise_lt_range'
  unfold tasks
  refine List.pairwise_flatMap.mpr ⟨fun entry member => ?_, numbered.imp ?_⟩
  · have own := each entry.1 (List.fst_mem_of_mem_zipIdx member)
    exact List.pairwise_map.mpr (own.imp Or.inr)
  · intro one two early first firstMember second secondMember
    obtain ⟨_, _, rfl⟩ := List.mem_map.mp firstMember
    obtain ⟨_, _, rfl⟩ := List.mem_map.mp secondMember
    exact Or.inl early

/-- The models of a group are all those that are specialized for the same. -/
theorem pairwise_stages_hierarchical (models : List Model) :
    ∀ stage ∈ Strategy.hierarchical.stages models, stage.Pairwise fun first second =>
      first.specialization = second.specialization ∧ first.specialization ≠ none := by
  intro stage member
  rcases List.mem_append.mp member with special | general
  · obtain ⟨entry, listed, rfl⟩ := List.mem_map.mp special
    have grouped := grouped_specializedGroups models
    refine List.pairwise_of_forall_mem_list fun first firstMember second secondMember => ?_
    rw [grouped.specialization_of_mem listed firstMember,
      grouped.specialization_of_mem listed secondMember]
    exact ⟨rfl, Option.some_ne_none _⟩
  · obtain ⟨model, _, rfl⟩ := List.mem_map.mp general
    exact List.pairwise_singleton _ model

namespace Run

/-! ### Waiting for the stages before -/

section

variable {tables : Providers → Prop} {run : Run} {number : Nat} {batch : Batch}

/-- An attempt that has begun still has its turn. -/
theorem Grounded.turn_of_hasBegun (grounded : run.Grounded tables) {task : Task}
    (member : task ∈ run.tasks) (begun : task.phase.hasBegun = true) :
    ∃ prompt, run.turn task = .now prompt := by
  have grounds := grounded.grounds task member
  unfold HasGrounds at grounds
  cases current : task.phase <;> simp only [current] at grounds begun
  case waiting prompt ticket => exact ⟨prompt, grounds.1⟩
  case calling => exact grounds.imp fun _ both => both.1
  case ended => exact grounds.imp fun _ both => both.1
  all_goals exact Bool.noConfusion begun

/-- An attempt that has begun found those of the stages before it ended. -/
theorem Grounded.awaits (grounded : run.Grounded tables) {first second : Task}
    (firstMember : first ∈ run.tasks) (secondMember : second ∈ run.tasks)
    (sameBatch : first.batch = second.batch) (sameChain : first.isChained = second.isChained)
    (early : first.stage < second.stage) : first.Awaits second := by
  intro begun
  have isBefore : first ∈ run.before second :=
    List.mem_filter.mpr ⟨firstMember, by
      rw [sameBatch, beq_self_eq_true, Bool.true_and]
      exact decide_eq_true early⟩
  obtain ⟨prompt, turn⟩ := grounded.turn_of_hasBegun secondMember begun
  obtain ⟨going, done, _⟩ := (run.turn_eq_now_iff second prompt).mp turn
  have gone := List.all_eq_true.mp done first isBefore
  have grounds := grounded.grounds first firstMember
  unfold HasGrounds at grounds
  cases current : first.phase <;> simp only [current] at gone grounds
  case ended => rfl
  case skipped =>
    -- A failure that ended the chain before the first task has ended it before the second one too.
    obtain ⟨chained, failed⟩ := (run.turn_eq_never_iff first).mp grounds
    obtain ⟨culprit, culpritBefore, failure⟩ := List.any_eq_true.mp failed
    obtain ⟨culpritMember, earlier⟩ := List.mem_filter.mp culpritBefore
    rw [Bool.and_eq_true, beq_iff_eq, decide_eq_true_eq] at earlier
    refine absurd ⟨sameChain ▸ chained, List.any_eq_true.mpr ⟨culprit, ?_, failure⟩⟩ going
    refine List.mem_filter.mpr ⟨culpritMember, ?_⟩
    rw [earlier.1, sameBatch, beq_self_eq_true, Bool.true_and]
    exact decide_eq_true (Nat.lt_trans earlier.2 early)
  all_goals exact Bool.noConfusion gone

theorem tasksOf_pairwise {together : Model → Model → Prop}
    (same : (run.tasksOf number).map Task.fresh = batch.tasks number)
    (each : ∀ stage ∈ batch.strategy.stages batch.models, stage.Pairwise together) :
    (run.tasksOf number).Pairwise fun first second =>
      first.stage < second.stage ∨ together first.model second.model := by
  have planned := batch.tasks_pairwise each number
  rw [← same] at planned
  exact List.pairwise_map.mp planned

theorem Grounded.pairwise_awaits (grounded : run.Grounded tables)
    (together : Model → Model → Prop)
    (same : (run.tasksOf number).map Task.fresh = batch.tasks number)
    (each : ∀ stage ∈ batch.strategy.stages batch.models, stage.Pairwise together) :
    (run.tasksOf number).Pairwise fun first second =>
      first.Awaits second ∨ together first.model second.model := by
  refine (tasksOf_pairwise same each).imp_of_mem fun firstMember secondMember either => ?_
  refine either.imp_left fun early => ?_
  obtain ⟨firstTask, firstOwn⟩ := List.mem_filter.mp firstMember
  obtain ⟨secondTask, secondOwn⟩ := List.mem_filter.mp secondMember
  refine grounded.awaits firstTask secondTask ?_ ?_ early
  · rw [beq_iff_eq.mp firstOwn, beq_iff_eq.mp secondOwn]
  · rw [(of_mem_tasksOf same firstMember).2, (of_mem_tasksOf same secondMember).2]

end

/-! ### The order of a batch -/

/-- Tasks that stand in the order of some places wait for all those that have an earlier place. -/
theorem awaits_of_place_lt {tasks : List Task} (place : Task → Nat)
    (ordered : tasks.Pairwise fun first second =>
      place first ≤ place second ∧ (place first < place second → first.Awaits second)) :
    ∀ first ∈ tasks, ∀ second ∈ tasks, place first < place second → first.Awaits second := by
  let inOrder (one two : Task) : Prop :=
    (place one < place two → one.Awaits two) ∧ (place two < place one → two.Awaits one)
  have : Std.Symm inOrder := ⟨fun _ _ both => ⟨both.2, both.1⟩⟩
  have all : ∀ one ∈ tasks, ∀ two ∈ tasks, inOrder one two := by
    refine List.Pairwise.forall_of_forall (fun one _ => ?_) (ordered.imp fun both => ?_)
    · exact ⟨fun early => absurd early (Nat.lt_irrefl _),
        fun early => absurd early (Nat.lt_irrefl _)⟩
    · exact ⟨both.2, fun late => absurd both.1 (Nat.not_le.mpr late)⟩
  exact fun first firstMember second secondMember => (all first firstMember second secondMember).1

/-- The order of the attempts in a batch, in every state of every run, whatever the gate and whoever
else is running. A sequence and a cascade go through their models one by one: each attempt waits for
the one before it, so that there is at most one call. A hierarchy goes through its models group by
group, with the groups in the order in which their tags are first seen: each attempt waits for those
of all earlier groups. The models without a tag come last, wait for all groups and are gone through
one by one, in the order in which they are given. -/
theorem attempts_in_order (providers : Providers) (gate : Gate) (now : Nat) (batches : List Batch)
    (moves : List Move) {number : Nat} {batch : Batch} (listed : batches[number]? = some batch) :
    let row := ((start providers gate now batches).play moves).tasksOf number
    let general := row.filter (·.model.specialization.isNone)
    (batch.strategy = .sequential ∨ batch.strategy = .cascade →
      row.map (·.model) = batch.models ∧ row.Pairwise Task.Awaits ∧
        row.countP (·.phase.isCalling) ≤ 1) ∧
    (batch.strategy = .hierarchical →
      row.map (·.model) = arranged batch.models ∧
      (∀ first ∈ row, ∀ second ∈ row,
        seat batch.models first.model.specialization <
          seat batch.models second.model.specialization → first.Awaits second) ∧
      general.map (·.model) = generalModels batch.models ∧ general.Pairwise Task.Awaits ∧
        general.countP (·.phase.isCalling) ≤ 1) := by
  intro row general
  have same := play_tasksOf providers gate now batches moves listed
  have grounded : ((start providers gate now batches).play moves).Grounded fun _ => True :=
    (grounded_start trivial gate now batches).play moves fun move _ => move.within_any
  have models : row.map (·.model) = batch.lineup := tasksOf_model same
  refine ⟨fun oneByOne => ?_, fun byGroups => ?_⟩
  · have single : batch.strategy.stages batch.models = batch.models.map fun model => [model] := by
      rcases oneByOne with kind | kind <;> rw [kind] <;> rfl
    have inTurn : row.Pairwise Task.Awaits := by
      refine (grounded.pairwise_awaits (fun _ _ => False) same ?_).imp
        fun either => either.resolve_right id
      intro stage member
      rw [single] at member
      obtain ⟨model, _, rfl⟩ := List.mem_map.mp member
      exact List.pairwise_singleton _ model
    refine ⟨models.trans ?_, inTurn, countP_isCalling_le_one inTurn⟩
    unfold Batch.lineup
    rw [single]
    exact List.flatMap_singleton' batch.models
  · obtain ⟨strategy, batchModels, prompt⟩ := batch
    cases byGroups
    rw [Batch.lineup_hierarchical] at models
    have inGroups := grounded.pairwise_awaits _ same (pairwise_stages_hierarchical batchModels)
    have sorted := arranged_sorted batchModels
    rw [← models] at sorted
    have inTurn : general.Pairwise Task.Awaits := by
      refine (inGroups.filter _).imp_of_mem fun firstMember _ either => either.resolve_right ?_
      exact fun both => both.2 (Option.isNone_iff_eq_none.mp (List.mem_filter.mp firstMember).2)
    refine ⟨models, awaits_of_place_lt
      (fun task => seat batchModels task.model.specialization) ?_, ?_, inTurn,
      countP_isCalling_le_one inTurn⟩
    · refine (List.pairwise_map.mp sorted).and inGroups |>.imp fun ⟨ordered, either⟩ => ?_
      refine ⟨ordered, fun early => either.resolve_right fun both => ?_⟩
      rw [both.1] at early
      exact Nat.lt_irrefl _ early
    · have kept := filter_arranged batchModels none
      rw [← models, List.filter_map] at kept
      have test (model : Model) : model.specialization.isNone = (model.specialization == none) := by
        cases model.specialization <;> rfl
      simp only [general, generalModels, test]
      exact kept

/-- The case of a sequence beside a hierarchy, with the first calls of both under way. -/
theorem attempts_in_order_beside_hierarchy :
    let ask (tag : Option String) : Model :=
      { provider := "echo", name := "m", kind := .fast, specializedFor := tag }
    let echo : Provider := ⟨"echo", fun request => ⟨5, .ok ⟨request.prompt, "echo", "m"⟩⟩⟩
    let batches : List Batch := [⟨.sequential, [ask none, ask none], "task"⟩,
      ⟨.hierarchical, [ask none, ask (some "net"), ask (some "disk"), ask (some "net")], "task"⟩]
    let run := ((start (.ofList [echo]) (.withPermits 3) 0 batches).play
      [.step 0, .step 1, .step 2, .step 3, .step 4, .step 5])
    (run.tasksOf 0).map (·.phase.isCalling) = [true, false] ∧ (run.tasksOf 0).Pairwise Task.Awaits ∧
      (run.tasksOf 1).map (·.phase.isCalling) = [true, true, false, false] ∧
      (run.tasksOf 1).map (·.model.specialization) =
        [some "net", some "net", some "disk", none] ∧
      ((run.tasksOf 1).filter (·.model.specialization.isNone)).countP (·.phase.isCalling) ≤ 1 := by
  intro ask echo batches run
  let moves : List Move := [.step 0, .step 1, .step 2, .step 3, .step 4, .step 5]
  have sequence := (@attempts_in_order (.ofList [echo]) (.withPermits 3) 0 batches moves 0 _ rfl).1
    (Or.inl rfl)
  have hierarchy := (@attempts_in_order (.ofList [echo]) (.withPermits 3) 0 batches moves 1 _ rfl).2
    rfl
  exact ⟨by decide +kernel, sequence.2.1, by decide +kernel, by decide +kernel,
    hierarchy.2.2.2.2⟩

end Run

end Triage
