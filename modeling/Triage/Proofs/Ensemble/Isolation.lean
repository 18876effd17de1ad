/-
This file proves that batches do not get in each other's way. What a batch comes to is a function of
the batch and the providers, so long as these answer by the request alone and the gate is open:
which other batches run, how many permits there are, who waits for how long and in which order calls
end makes no difference to any slot.

For a batch that is not chained this is what comes of its models one by one. For a cascade it is a
walk along the models, which carries the prompt, and it has to be shown that the row of its tasks
takes the same walk.
-/

import Triage.Ensemble.Engine
import Triage.Proofs.Ensemble.Cascade

namespace Triage

/-- What comes of the models of a cascade with a task, from one of them on and with the prompt that
has been made by then. -/
def chainOutcomes (providers : Providers) (isOpen : Bool) (task : String) :
    String → List Model → List (Except Fault Reply)
  | _, [] => []
  | prompt, model :: rest =>
    match model.outcome providers isOpen prompt with
    | .ok reply =>
      let next := if reply.content.isEmpty then prompt else chainedPrompt reply.content task
      .ok reply :: chainOutcomes providers isOpen task next rest
    | .error fault => [.error fault]

/-- What comes of the attempts of a batch. -/
def Batch.outcomes (batch : Batch) (providers : Providers) (isOpen : Bool) :
    List (Except Fault Reply) :=
  if batch.strategy.isChained then
    chainOutcomes providers isOpen batch.prompt batch.prompt batch.models
  else batch.lineup.map fun model => model.outcome providers isOpen batch.prompt

namespace Run

/-! ### The walk of a cascade -/

theorem latestContent?_append_singleton (tasks : List Task) (task : Task) :
    latestContent? (tasks ++ [task]) =
      ((task.reply?.map (·.content)).filter fun content => !content.isEmpty).or
        (latestContent? tasks) := by
  unfold latestContent?
  rw [List.filterMap_append, List.getLast?_append, List.filterMap_cons]
  cases (task.reply?.map (·.content)).filter fun content => !content.isEmpty <;> rfl

/-- The prompt for the next task after one that has replied. -/
theorem promptAfter_append_singleton {task last : Task} {earlier : List Task} {reply : Reply}
    (chained : task.isChained = true) (replied : last.reply? = some reply) :
    promptAfter task (earlier ++ [last]) =
      if reply.content.isEmpty then promptAfter task earlier
      else chainedPrompt reply.content task.prompt := by
  unfold promptAfter
  rw [if_pos chained, if_pos chained, latestContent?_append_singleton, replied, Option.map_some]
  cases quiet : reply.content.isEmpty with
  | true => rw [Option.filter_some, quiet]; rfl
  | false => rw [Option.filter_some, quiet]; rfl

section

variable {providers : Providers} {run : Run} {number : Nat} {task : String}

/-- From any place on, as long as nobody before it has failed, the slots of a cascade that is over
are those of the walk. -/
theorem Chain.slots_eq_chainOutcomes (chain : run.Chain (providers = ·) number)
    (alike : ∀ other ∈ run.tasksOf number, other.prompt = task)
    (allOver : (run.tasksOf number).all (·.phase.isOver) = true) (rest first : List Task)
    (prompt : String) (row : run.tasksOf number = first ++ rest)
    (unfailed : first.any (·.hasFailed) = false)
    (made : ∀ other ∈ run.tasksOf number, promptAfter other first = prompt) :
    rest.filterMap (·.slot?) =
      (chainOutcomes providers run.gate.isOpen task prompt (rest.map (·.model))).map
        Except.toOption := by
  induction rest generalizing first prompt with
  | nil => rfl
  | cons head rest inductionHypothesis =>
    have member : head ∈ run.tasksOf number := row ▸ List.mem_append_right _ List.mem_cons_self
    have found : (run.tasksOf number)[first.length]? = some head := by
      rw [row, List.getElem?_append_right (Nat.le_refl _), Nat.sub_self, List.getElem?_cons_zero]
    have before : (run.tasksOf number).take first.length = first := by
      rw [row, List.take_left]
    have done := List.all_eq_true.mp allOver head member
    obtain ⟨ending, ended⟩ : ∃ ending, head.phase = .ended ending := by
      cases current : head.phase <;> rw [current] at done
      case ended ending => exact ⟨ending, rfl⟩
      case skipped =>
        have failed := chain.exists_failed found current
        rw [before, unfailed] at failed
        exact Bool.noConfusion failed
      all_goals exact Bool.noConfusion done
    have ends := chain.ends found (show head.phase.attempt? = some ending by rw [ended]; rfl)
    rw [before, made head member] at ends
    have slot : head.slot? = some ending.reply? := by
      unfold Task.slot?
      rw [ended]
      rfl
    have result := ends.result_eq
    rw [List.filterMap_cons_some slot, List.map_cons, chainOutcomes, ← result]
    unfold Ending.reply?
    cases came : ending.result with
    | error fault =>
      have failure : head.hasFailed = true := by
        unfold Task.hasFailed Ending.reply?
        simp only [ended, came, Except.toOption, Option.isNone_none]
      have behind := chain.slots_behind allOver found failure
      rw [row, List.drop_append, List.drop_of_length_le (Nat.le_succ _), List.nil_append,
        Nat.add_sub_cancel_left, List.drop_succ_cons, List.drop_zero] at behind
      rw [behind]
      rfl
    | ok reply =>
      have unfailedHead : head.hasFailed = false := by
        unfold Task.hasFailed Ending.reply?
        simp only [ended, came, Except.toOption, Option.isNone_some]
      have replied : head.reply? = some reply := by
        unfold Task.reply? Ending.reply?
        simp only [ended, Phase.ending?, Option.bind_some, came, Except.toOption]
      have further := inductionHypothesis (first ++ [head])
        (if reply.content.isEmpty then prompt else chainedPrompt reply.content task)
        (by rw [row, List.append_assoc, List.singleton_append])
        (by rw [List.any_append, unfailed, List.any_cons, unfailedHead]; rfl)
        (fun other otherMember => by
          rw [promptAfter_append_singleton (chain.chained other otherMember) replied,
            made other otherMember, alike other otherMember])
      rw [further]
      rfl

end

/-- When a run is over, the slots of a batch are what comes of its attempts. -/
theorem Finishes.results_eq_outcomes {providers : Providers} {gate : Gate} {now : Nat}
    {batches : List Batch} {last : Run}
    (finishes : (start providers gate now batches).Finishes last) {number : Nat} {batch : Batch}
    (listed : batches[number]? = some batch) :
    last.results number = (batch.outcomes providers gate.isOpen).map Except.toOption := by
  unfold Batch.outcomes
  cases chained : batch.strategy.isChained with
  | false =>
    rw [if_neg Bool.false_ne_true, finishes.results_of_unchained listed chained, List.map_map]
    rfl
  | true =>
    obtain ⟨leads, allOver⟩ := finishes
    have same := leads.tasksOf listed
    have chain : last.Chain (providers = ·) number :=
      (leads.grounded (grounded_start rfl gate now batches)).chain same chained
    have alike : ∀ task ∈ last.tasksOf number, task.prompt = batch.prompt := fun task member =>
      (of_mem_tasksOf same member).1
    have ownOver : (last.tasksOf number).all (·.phase.isOver) = true :=
      List.all_eq_true.mpr fun task member =>
        List.all_eq_true.mp allOver task (List.mem_filter.mp member).1
    have walk := chain.slots_eq_chainOutcomes alike ownOver (last.tasksOf number) [] batch.prompt
      rfl rfl fun task member => by
        unfold promptAfter
        rw [if_pos (chain.chained task member)]
        exact alike task member
    rw [leads.isOpen, tasksOf_model same, Batch.lineup_of_isChained chained] at walk
    rw [if_pos rfl, results_eq, walk]
    rfl

end Run

/-! ### Engines -/

namespace Engine

/-- No batch is under way: the gate is open and has all its permits, of which there are some. -/
structure IsIdle (engine : Engine) : Prop where
  whole : engine.gate.IsWhole
  isOpen : engine.gate.isOpen = true
  positive : 0 < engine.gate.capacity

/-- The start of batches on an engine. -/
def begin (engine : Engine) (batches : List Batch) : Run :=
  .start engine.providers engine.gate engine.now batches

theorem isIdle_create (providers : Providers) (settings : EngineSettings) :
    (create providers settings).IsIdle where
  whole := rfl
  isOpen := rfl
  positive := Nat.le_max_left 1 _

/-- Batches that are started together all return. -/
theorem finishes_together (engine : Engine) (idle : engine.IsIdle) (batches : List Batch)
    (timing : Timing) : (engine.begin batches).Finishes (engine.together batches timing).1 := by
  refine ⟨Run.leads_complete _, ?_⟩
  exact (Run.balanced_start engine.providers idle.whole engine.now batches).complete_isOver
    idle.positive

/-- Batches do not get in each other's way. However the calls of batches that are started together
interleave, a batch has the very slots that it would have alone, on an idle engine of any capacity:
they are what comes of its own attempts, in which no other batch and no gate appears. And both come
to their end. -/
theorem slots_independent_of_company (engine other : Engine) (idle : engine.IsIdle)
    (otherIdle : other.IsIdle) (same : other.providers = engine.providers) (batches : List Batch)
    (number : Nat) (batch : Batch) (listed : batches[number]? = some batch)
    (timing otherTiming : Timing) :
    (engine.begin batches).Finishes (engine.together batches timing).1 ∧
      (other.begin [batch]).Finishes
        (other.mix batch.strategy batch.models batch.prompt otherTiming).1 ∧
      ∀ run alone, (engine.begin batches).Finishes run → (other.begin [batch]).Finishes alone →
        run.results number = alone.results 0 ∧
          run.results number = (batch.outcomes engine.providers true).map Except.toOption := by
  refine ⟨engine.finishes_together idle batches timing,
    other.finishes_together otherIdle [batch] otherTiming,
    fun run alone finishes finishesAlone => ?_⟩
  have together := finishes.results_eq_outcomes listed
  have first : [batch][0]? = some batch := rfl
  have apart := finishesAlone.results_eq_outcomes first
  rw [idle.isOpen] at together
  rw [same, otherIdle.isOpen] at apart
  exact ⟨together.trans apart.symm, together⟩

/-- The case of a cascade that shares one permit with two calls, one of which takes too long. -/
theorem cascade_slots_beside_parallel_calls :
    let fast : Model := { provider := "echo", name := "m", kind := .fast }
    let slow : Model := { provider := "late", name := "m", kind := .fast }
    let echo : Provider := ⟨"echo", fun request => ⟨5, .ok ⟨request.prompt, "echo", "m"⟩⟩⟩
    let late : Provider := ⟨"late", fun _ => ⟨40000, .ok ⟨"", "late", "m"⟩⟩⟩
    let providers : Providers := .ofList [echo, late]
    let timing : Timing := ⟨0, ⟨0, 0⟩⟩
    (((create providers ⟨1, .parallel⟩).together [⟨.parallel, [slow, fast], "other"⟩,
        ⟨.cascade, [fast, fast], "task"⟩] timing).1).results 1 =
      (((create providers ⟨3, .voting⟩).mix .cascade [fast, fast] "task" timing).1).results 0 := by
  intro fast slow echo late providers timing
  obtain ⟨finishes, finishesAlone, independent⟩ := slots_independent_of_company
    (create providers ⟨1, .parallel⟩) (create providers ⟨3, .voting⟩) (isIdle_create _ _)
    (isIdle_create _ _) rfl [⟨.parallel, [slow, fast], "other"⟩, ⟨.cascade, [fast, fast], "task"⟩] 1
    ⟨.cascade, [fast, fast], "task"⟩ rfl timing timing
  exact (independent _ _ finishes finishesAlone).1

end Engine

end Triage
