/-
This file proves that the strategies that ask every model for itself cannot be told apart by what
they bring. Whether the models are asked at once or one after the other, and in whichever order
their calls end: the slots, the log and the questions put to the providers are the same, and all of
them stand in the order of the models.
-/

import Triage.Proofs.Ensemble.Completion
import Triage.Proofs.Ensemble.Log

namespace Triage

/-- Does the strategy ask every model for itself, with the models in the order in which they are
given? -/
def Strategy.isFlat : Strategy → Bool
  | .parallel | .voting | .weighted | .sequential => true
  | .cascade | .hierarchical => false

theorem Strategy.isChained_of_isFlat {strategy : Strategy} (flat : strategy.isFlat = true) :
    strategy.isChained = false := by
  cases strategy with
  | cascade => exact Bool.noConfusion flat
  | _ => rfl

theorem Batch.lineup_of_isFlat {batch : Batch} (flat : batch.strategy.isFlat = true) :
    batch.lineup = batch.models := by
  unfold lineup Strategy.stages
  cases kind : batch.strategy <;> rw [kind] at flat
  case sequential => exact List.flatMap_singleton' batch.models
  case cascade => exact Bool.noConfusion flat
  case hierarchical => exact Bool.noConfusion flat
  all_goals exact List.append_nil batch.models

/-- There are as many messages as empty slots. -/
theorem length_failures (models : List Model) (providers : Providers) (isOpen : Bool)
    (prompt : String) :
    (models.filterMap fun model => model.failure? providers isOpen prompt).length =
      (models.map fun model => (model.outcome providers isOpen prompt).toOption).countP
        (·.isNone) := by
  induction models with
  | nil => rfl
  | cons model rest inductionHypothesis =>
    rw [List.filterMap_cons, List.map_cons, List.countP_cons, ← inductionHypothesis]
    unfold Model.failure?
    cases model.outcome providers isOpen prompt <;> rfl

namespace Run

section

variable {providers : Providers} {gate : Gate} {now : Nat} {strategy : Strategy}
  {models : List Model} {prompt : String} {last : Run}

/-- What a flat strategy brings, under any schedule. -/
theorem Finishes.of_isFlat
    (finishes : (start providers gate now [⟨strategy, models, prompt⟩]).Finishes last)
    (flat : strategy.isFlat = true) :
    last.results 0 = (models.map fun model =>
        (model.outcome providers gate.isOpen prompt).toOption) ∧
      last.log = (models.filterMap fun model => model.failure? providers gate.isOpen prompt) ∧
      last.calls.map Call.question = (models.filterMap fun model =>
        model.question? providers gate.isOpen prompt) := by
  have unchained : strategy.isChained = false := Strategy.isChained_of_isFlat flat
  have lineup : Batch.lineup ⟨strategy, models, prompt⟩ = models := Batch.lineup_of_isFlat flat
  have listed : [(⟨strategy, models, prompt⟩ : Batch)][0]? = some ⟨strategy, models, prompt⟩ := rfl
  have results := finishes.results_of_unchained listed unchained
  have log := finishes.log_of_unchained unchained
  have questions := finishes.calls_of_unchained unchained
  rw [lineup] at results log questions
  exact ⟨results, log, questions⟩

end

/-- All flat strategies agree, whether the gate is open or closed. Both runs come to their end, and
under any schedules they bring the same slots, the same log and the same questions. There is one
slot for each model, which is full exactly when the model answers; and there is one message for each
empty slot, in the order of the slots. -/
theorem flat_strategies_agree (providers : Providers) (gate : Gate) (whole : gate.IsWhole)
    (positive : 0 < gate.capacity) (now : Nat) (models : List Model) (prompt : String)
    (first second : Strategy) (firstFlat : first.isFlat = true)
    (secondFlat : second.isFlat = true) :
    let begin (strategy : Strategy) := start providers gate now [⟨strategy, models, prompt⟩]
    (begin first).Finishes (begin first).complete ∧
      (begin second).Finishes (begin second).complete ∧
      ∀ one two, (begin first).Finishes one → (begin second).Finishes two →
        (one.results 0 = two.results 0 ∧ one.log = two.log ∧
          one.calls.map Call.question = two.calls.map Call.question) ∧
        (one.results 0).length = models.length ∧
        (∀ (index : Nat) (model : Model), models[index]? = some model →
          (∀ reply, (one.results 0)[index]? = some (some reply) ↔
            model.Answers providers gate.isOpen prompt reply) ∧
          ((one.results 0)[index]? = some none ↔
            (model.failure? providers gate.isOpen prompt).isSome = true)) ∧
        one.log = models.filterMap (fun model => model.failure? providers gate.isOpen prompt) ∧
        one.log.length = (one.results 0).countP (·.isNone) := by
  intro begin
  have returns (strategy : Strategy) : (begin strategy).Finishes (begin strategy).complete :=
    ⟨leads_complete _, (balanced_start providers whole now _).complete_isOver positive⟩
  refine ⟨returns first, returns second, fun one two finishes finishesOther => ?_⟩
  obtain ⟨results, log, questions⟩ := finishes.of_isFlat firstFlat
  obtain ⟨otherResults, otherLog, otherQuestions⟩ := finishesOther.of_isFlat secondFlat
  refine ⟨⟨results.trans otherResults.symm, log.trans otherLog.symm,
    questions.trans otherQuestions.symm⟩, ?_, fun index model found => ?_, log, ?_⟩
  · rw [results, List.length_map]
  · have slot : (one.results 0)[index]? =
        some (model.outcome providers gate.isOpen prompt).toOption := by
      rw [results, List.getElem?_map, found]
      rfl
    rw [slot]
    refine ⟨fun reply => ?_, ?_⟩
    · rw [← model.outcome_eq_ok_iff providers gate.isOpen prompt reply]
      cases model.outcome providers gate.isOpen prompt with
      | ok other => simp [Except.toOption]
      | error fault => exact iff_of_false nofun nofun
    · unfold Model.failure?
      cases model.outcome providers gate.isOpen prompt with
      | ok reply => exact iff_of_false nofun Bool.false_ne_true
      | error fault => exact iff_of_true rfl rfl
  · rw [log, results, length_failures]

/-- The case of calls at once, which are answered in the other order, against calls in turn; and the
case of a gate that is closed. -/
theorem parallel_agrees_with_sequential :
    let slow : Model := { provider := "late", name := "m", kind := .fast }
    let fast : Model := { provider := "echo", name := "m", kind := .fast }
    let echo : Provider := ⟨"echo", fun request => ⟨5, .ok ⟨request.prompt, "echo", "m"⟩⟩⟩
    let late : Provider := ⟨"late", fun _ => ⟨40000, .ok ⟨"", "late", "m"⟩⟩⟩
    let begin (gate : Gate) (strategy : Strategy) := start (.ofList [echo, late]) gate 0
      [⟨strategy, [slow, fast], "task"⟩]
    (begin (.withPermits 2) .parallel).complete.results 0 =
        (begin (.withPermits 2) .sequential).complete.results 0 ∧
      (begin .closed .voting).complete.log = (begin .closed .weighted).complete.log := by
  intro slow fast echo late begin
  obtain ⟨returns, returnsOther, agree⟩ := flat_strategies_agree (.ofList [echo, late])
    (.withPermits 2) (Gate.isWhole_withPermits 2) Nat.two_pos 0 [slow, fast] "task" .parallel
    .sequential rfl rfl
  obtain ⟨closedReturns, closedReturnsOther, closedAgree⟩ := flat_strategies_agree
    (.ofList [echo, late]) .closed Gate.isWhole_closed Nat.one_pos 0 [slow, fast] "task" .voting
    .weighted rfl rfl
  exact ⟨(agree _ _ returns returnsOther).1.1,
    (closedAgree _ _ closedReturns closedReturnsOther).1.2.1⟩

end Run

end Triage
