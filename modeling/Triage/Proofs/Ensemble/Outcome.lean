/-
This file says what comes of the attempt of a single model, as a function of the model, the
providers, the prompt and whether the gate is open, and proves that an attempt in a run comes to
this whenever it is made. It also finds the tasks of one batch among those of a run.

In a batch that is not chained every task is then on its own: when the run is over each of them has
ended, with the outcome of its model for the prompt of the batch.
-/

import Mathlib.Data.List.Basic
import Triage.Proofs.Ensemble.Grounds

namespace Triage

/-- The provider that is asked, and the request that is put to it. -/
def Call.question (call : Call) : String × Request :=
  (call.provider, call.request)

namespace Model

/-- What comes of the attempt of a model with a prompt. -/
def outcome (model : Model) (providers : Providers) (isOpen : Bool) (prompt : String) :
    Except Fault Reply :=
  match model.refusal? isOpen with
  | some fault => .error fault
  | none => (model.attempt providers prompt 0).1.result

/-- The question that the attempt of a model with a prompt leads to, if it comes so far. -/
def question? (model : Model) (providers : Providers) (isOpen : Bool) (prompt : String) :
    Option (String × Request) :=
  match model.refusal? isOpen with
  | some _ => none
  | none => (providers.find? model.provider).map fun provider =>
      (provider.name, model.request prompt)

/-- A model answers with a reply: it is sound, the gate is open, its provider is known, and the call
succeeds in its time. -/
def Answers (model : Model) (providers : Providers) (isOpen : Bool) (prompt : String)
    (reply : Reply) : Prop :=
  model.defect? = none ∧ isOpen = true ∧
    ∃ provider, providers.find? model.provider = some provider ∧
      (provider.answer (model.request prompt)).delay ≤ model.limit.milliseconds ∧
      (provider.answer (model.request prompt)).result = .ok reply

theorem attempt_result (model : Model) (providers : Providers) (prompt : String) (now : Nat) :
    (model.attempt providers prompt now).1.result =
      match providers.find? model.provider with
      | none => .error (.providerUnavailable model.provider)
      | some provider =>
        if (provider.answer (model.request prompt)).delay ≤ model.limit.milliseconds then
          (provider.answer (model.request prompt)).result
        else .error model.timeoutFault := by
  unfold attempt
  cases providers.find? model.provider with
  | none => rfl
  | some provider =>
    simp only
    split <;> rfl

theorem attempt_call? (model : Model) (providers : Providers) (prompt : String) (now : Nat) :
    (model.attempt providers prompt now).1.call? =
      (providers.find? model.provider).map fun provider =>
        ⟨now, provider.name, model.request prompt⟩ := by
  unfold attempt
  cases providers.find? model.provider with
  | none => rfl
  | some provider =>
    simp only
    split <;> rfl

theorem refusal?_eq_none_iff (model : Model) (isOpen : Bool) :
    model.refusal? isOpen = none ↔ model.defect? = none ∧ isOpen = true := by
  unfold refusal?
  cases model.defect? <;> cases isOpen <;> simp

/-- A model has a reply exactly when it answers with it. -/
theorem outcome_eq_ok_iff (model : Model) (providers : Providers) (isOpen : Bool) (prompt : String)
    (reply : Reply) :
    model.outcome providers isOpen prompt = .ok reply ↔
      model.Answers providers isOpen prompt reply := by
  unfold outcome Answers
  cases refused : model.refusal? isOpen with
  | some fault =>
    refine iff_of_false nofun fun answers => ?_
    rw [(model.refusal?_eq_none_iff isOpen).mpr ⟨answers.1, answers.2.1⟩] at refused
    exact nomatch refused
  | none =>
    obtain ⟨sound, welcome⟩ := (model.refusal?_eq_none_iff isOpen).mp refused
    simp only [attempt_result, sound, welcome, true_and]
    cases providers.find? model.provider with
    | none => simp
    | some provider =>
      simp only [Option.some.injEq, exists_eq_left']
      split
      · rename_i inTime
        simp only [inTime, true_and]
      · rename_i late
        simp [late]

variable {model : Model} {prompt : String} {ending : Ending} {isOpen : Bool}

theorem Ends.result_eq {providers : Providers}
    (ends : model.Ends (providers = ·) isOpen prompt ending) :
    ending.result = model.outcome providers isOpen prompt := by
  unfold outcome
  cases ends with
  | refused refused =>
    rw [refused]
    rfl
  | attempted welcome known attempt =>
    subst known
    have same := congrArg (fun pair => pair.1.result) attempt
    rw [welcome, ← same]
    simp only [attempt_result]

theorem Ends.question_eq {providers : Providers}
    (ends : model.Ends (providers = ·) isOpen prompt ending) :
    ending.call?.map Call.question = model.question? providers isOpen prompt := by
  unfold question?
  cases ends with
  | refused refused =>
    rw [refused]
    rfl
  | attempted welcome known attempt =>
    subst known
    have same := congrArg (fun pair => pair.1.call?) attempt
    rw [welcome, ← same]
    simp only [attempt_call?, Option.map_map]
    rfl

/-- Whoever answers, a call puts the prompt to the model. -/
theorem Ends.request_eq {tables : Providers → Prop}
    (ends : model.Ends tables isOpen prompt ending) {call : Call}
    (made : ending.call? = some call) : call.request = model.request prompt := by
  cases ends with
  | refused _ => exact nomatch made
  | attempted _ _ attempt =>
    have same := congrArg (fun pair => pair.1.call?) attempt
    simp only [attempt_call?, made] at same
    obtain ⟨provider, _, rfl⟩ := Option.map_eq_some_iff.mp same
    rfl

end Model

/-! ### The tasks of a batch -/

/-- The models in the order in which a strategy lists their slots. -/
def Batch.lineup (batch : Batch) : List Model :=
  (batch.strategy.stages batch.models).flatten

theorem Batch.tasks_model (batch : Batch) (number : Nat) :
    (batch.tasks number).map (·.model) = batch.lineup := by
  unfold tasks lineup tasksOfStage
  generalize batch.strategy.stages batch.models = stages
  rw [List.map_flatMap]
  have ignored : ∀ first, (stages.zipIdx first).flatMap (fun pair =>
      (pair.1.map fun model => ({
        batch := number, stage := pair.2, model, prompt := batch.prompt
        isChained := batch.strategy.isChained } : Task)).map (·.model)) = stages.flatten := by
    induction stages with
    | nil => exact fun _ => rfl
    | cons stage rest inductionHypothesis =>
      intro first
      rw [List.zipIdx_cons, List.flatMap_cons, inductionHypothesis, List.flatten_cons,
        List.map_map]
      exact congrArg (· ++ rest.flatten) (List.map_id stage)
  exact ignored 0

theorem Batch.of_mem_tasks {batch : Batch} {number : Nat} {task : Task}
    (member : task ∈ batch.tasks number) :
    task.batch = number ∧ task.prompt = batch.prompt ∧
      task.isChained = batch.strategy.isChained ∧ task.fresh = task := by
  obtain ⟨_, _, member⟩ := List.mem_flatMap.mp member
  obtain ⟨_, _, rfl⟩ := List.mem_map.mp member
  exact ⟨rfl, rfl, rfl, rfl⟩

namespace Run

/-- The tasks of a batch. -/
def tasksOf (run : Run) (number : Nat) : List Task :=
  run.tasks.filter (·.batch == number)

theorem results_eq (run : Run) (number : Nat) :
    run.results number = (run.tasksOf number).filterMap (·.slot?) := rfl

theorem start_tasksOf (providers : Providers) (gate : Gate) (now : Nat) (batches : List Batch)
    {number : Nat} {batch : Batch} (listed : batches[number]? = some batch) :
    (start providers gate now batches).tasksOf number = batch.tasks number := by
  have own : ∀ (other : Batch) (count : Nat),
      (other.tasks count).filter (·.batch == number) =
        if count = number then other.tasks number else [] := by
    intro other count
    split
    · rename_i same
      subst same
      exact List.filter_eq_self.mpr fun task member =>
        beq_iff_eq.mpr (Batch.of_mem_tasks member).1
    · rename_i different
      refine List.filter_eq_nil_iff.mpr fun task member same => different ?_
      rw [← (Batch.of_mem_tasks member).1]
      exact beq_iff_eq.mp same
  have found : ∀ first, first ≤ number → batches[number - first]? = some batch →
      (batches.zipIdx first).flatMap (fun pair =>
        if pair.2 = number then pair.1.tasks number else []) = batch.tasks number := by
    clear listed
    induction batches with
    | nil => exact fun _ _ listed => nomatch listed
    | cons head rest inductionHypothesis =>
      intro first early listed
      rw [List.zipIdx_cons, List.flatMap_cons]
      rcases Nat.eq_or_lt_of_le early with rfl | early
      · rw [Nat.sub_self, List.getElem?_cons_zero, Option.some.injEq] at listed
        have none_left : (rest.zipIdx (first + 1)).flatMap (fun pair =>
            if pair.2 = first then pair.1.tasks first else []) = [] := by
          refine List.flatMap_eq_nil_iff.mpr fun pair member => if_neg ?_
          have late := List.le_snd_of_mem_zipIdx member
          omega
        rw [if_pos rfl, none_left, List.append_nil, listed]
      · rw [if_neg (Nat.ne_of_lt early), List.nil_append]
        refine inductionHypothesis (first + 1) early ?_
        rw [show number - first = number - (first + 1) + 1 by omega,
          List.getElem?_cons_succ] at listed
        exact listed
  unfold tasksOf start
  simp only [List.filter_flatMap, own]
  exact found 0 (Nat.zero_le _) listed

/-- In every state the tasks of a batch are those that it was started with, apart from their
phases. -/
theorem play_tasksOf (providers : Providers) (gate : Gate) (now : Nat) (batches : List Batch)
    (moves : List Move) {number : Nat} {batch : Batch} (listed : batches[number]? = some batch) :
    (((start providers gate now batches).play moves).tasksOf number).map Task.fresh =
      batch.tasks number := by
  have fixed := congrArg (List.filter (·.batch == number))
    (play_plan (start providers gate now batches) moves)
  unfold plan at fixed
  rw [List.filter_map, List.filter_map] at fixed
  refine Eq.trans fixed ?_
  have begun := start_tasksOf providers gate now batches listed
  unfold tasksOf at begun
  refine Eq.trans (congrArg (List.map Task.fresh) begun) ?_
  refine (List.map_congr_left fun task member => ?_).trans (List.map_id _)
  exact (Batch.of_mem_tasks member).2.2.2

theorem Leads.grounded {tables : Providers → Prop} {first last : Run} (leads : first.Leads last)
    (grounded : first.Grounded tables) : last.Grounded tables := by
  obtain ⟨moves, steady, rfl⟩ := leads
  exact grounded.play moves fun move member => Move.within_of_isSteady (steady move member)

theorem Leads.isOpen {first last : Run} (leads : first.Leads last) :
    last.gate.isOpen = first.gate.isOpen := by
  obtain ⟨moves, _, rfl⟩ := leads
  exact (play_gate_fixed first moves).2

theorem Leads.tasksOf {providers : Providers} {gate : Gate} {now : Nat} {batches : List Batch}
    {last : Run} (leads : (start providers gate now batches).Leads last) {number : Nat}
    {batch : Batch} (listed : batches[number]? = some batch) :
    (last.tasksOf number).map Task.fresh = batch.tasks number := by
  obtain ⟨moves, _, rfl⟩ := leads
  exact play_tasksOf providers gate now batches moves listed

/-- What is the same for all tasks of a batch. -/
theorem of_mem_tasksOf {run : Run} {number : Nat} {batch : Batch} {task : Task}
    (same : (run.tasksOf number).map Task.fresh = batch.tasks number)
    (member : task ∈ run.tasksOf number) :
    task.prompt = batch.prompt ∧ task.isChained = batch.strategy.isChained := by
  have known := Batch.of_mem_tasks (same ▸ List.mem_map_of_mem member)
  exact ⟨known.2.1, known.2.2.1⟩

theorem tasksOf_model {run : Run} {number : Nat} {batch : Batch}
    (same : (run.tasksOf number).map Task.fresh = batch.tasks number) :
    (run.tasksOf number).map (·.model) = batch.lineup := by
  rw [← batch.tasks_model number, ← same, List.map_map]
  rfl

/-! ### Batches that are not chained -/

/-- When a run is over, every task that is not chained has ended, and its own prompt was used. -/
theorem Grounded.ended_of_unchained {tables : Providers → Prop} {run : Run}
    (grounded : run.Grounded tables) (allOver : run.isOver = true) {task : Task}
    (member : task ∈ run.tasks) (unchained : task.isChained = false) :
    ∃ ending, task.phase = .ended ending ∧
      task.model.Ends tables run.gate.isOpen task.prompt ending := by
  have done := List.all_eq_true.mp allOver task member
  have grounds := grounded.grounds task member
  unfold HasGrounds at grounds
  cases current : task.phase <;> simp only [current] at done grounds
  case ended ending =>
    obtain ⟨prompt, turn, ends⟩ := grounds
    have same := ((run.turn_eq_now_iff task prompt).mp turn).2.2
    unfold promptAfter at same
    rw [unchained, if_neg Bool.false_ne_true] at same
    exact ⟨ending, rfl, same ▸ ends⟩
  case skipped =>
    rw [((run.turn_eq_never_iff task).mp grounds).1] at unchained
    exact Bool.noConfusion unchained
  all_goals exact Bool.noConfusion done

section

variable {providers : Providers} {gate : Gate} {now : Nat} {batches : List Batch} {last : Run}
  {number : Nat} {batch : Batch}

/-- In a batch that is not chained every attempt is made once and comes to what its model makes of
the prompt of the batch, whatever else goes on. -/
theorem Finishes.ended_of_unchained (finishes : (start providers gate now batches).Finishes last)
    (listed : batches[number]? = some batch) (unchained : batch.strategy.isChained = false)
    {task : Task} (member : task ∈ last.tasksOf number) :
    ∃ ending, task.phase = .ended ending ∧
      ending.result = task.model.outcome providers gate.isOpen batch.prompt ∧
      ending.call?.map Call.question =
        task.model.question? providers gate.isOpen batch.prompt := by
  obtain ⟨leads, allOver⟩ := finishes
  have grounded : last.Grounded (providers = ·) :=
    leads.grounded (grounded_start rfl gate now batches)
  have same := of_mem_tasksOf (leads.tasksOf listed) member
  obtain ⟨ending, ended, ends⟩ := grounded.ended_of_unchained allOver
    (List.mem_filter.mp member).1 (same.2.trans unchained)
  rw [same.1, leads.isOpen] at ends
  exact ⟨ending, ended, ends.result_eq, ends.question_eq⟩

/-- The slots of a batch that is not chained. -/
theorem Finishes.results_of_unchained (finishes : (start providers gate now batches).Finishes last)
    (listed : batches[number]? = some batch) (unchained : batch.strategy.isChained = false) :
    last.results number = batch.lineup.map fun model =>
      (model.outcome providers gate.isOpen batch.prompt).toOption := by
  rw [results_eq, ← tasksOf_model (finishes.1.tasksOf listed), List.map_map]
  rw [← List.filterMap_eq_map]
  refine List.filterMap_congr fun task member => ?_
  obtain ⟨ending, ended, result, _⟩ := finishes.ended_of_unchained listed unchained member
  unfold Task.slot?
  rw [ended]
  show some ending.result.toOption = _
  rw [result]
  rfl

/-- The questions that a batch that is not chained puts to the providers, in the order of its
slots. -/
theorem Finishes.questions_of_unchained
    (finishes : (start providers gate now batches).Finishes last)
    (listed : batches[number]? = some batch) (unchained : batch.strategy.isChained = false) :
    (last.tasksOf number).filterMap (fun task => task.phase.call?.map Call.question) =
      batch.lineup.filterMap fun model =>
        model.question? providers gate.isOpen batch.prompt := by
  rw [← tasksOf_model (finishes.1.tasksOf listed), List.filterMap_map]
  refine List.filterMap_congr fun task member => ?_
  obtain ⟨ending, ended, _, question⟩ := finishes.ended_of_unchained listed unchained member
  rw [ended]
  exact question

end

end Run

end Triage
