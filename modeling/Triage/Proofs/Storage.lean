/-
This file proves that every record that is stored as JSON text is read back from it: error types,
policies, models, requests, replies, verdicts, decisions with their details, and tallies. Each field
is read in the form in which it is written and under the same name; what is missing is written as
null.
-/

import Triage.Ensemble.Model
import Triage.Ensemble.Scoreboard
import Triage.Learning.RetryDecision
import Triage.Proofs.Json.FreeForm
import Triage.Proofs.Naming
import Triage.Proofs.Time.Moment

namespace Triage

open Json Json.Reading

/-! ### Numbers of a record -/

namespace Json

theorem Mentions.field {members : List (String × Json)} (name : String) {json : Json}
    {number : Json.Number} (mem : (name, json) ∈ members) (inside : json.Mentions number) :
    (Json.object members).Mentions number :=
  .member mem inside

end Json

/-! ### Fields that may be missing -/

theorem recovers_optionalText (value : Option String) :
    (nullable text).Recovers 0 (.ofOption .text value) value := by
  cases value with
  | none => exact recovers_null text
  | some value => exact (recovers_text value).nullable fun _ => rfl

theorem recovers_optionalDouble {value : Option Float} (finite : ∀ number ∈ value, number.isFinite)
    (readsBack : ∀ number ∈ value, (Json.Number.real number).ReadsBack) :
    (nullable double).Recovers 0 (.ofOption .ofFloat value) value := by
  cases value with
  | none => exact recovers_null double
  | some value =>
    exact (recovers_double (finite value rfl) (readsBack value rfl)).nullable fun _ => rfl

theorem recovers_optionalMoment {value : Option Timestamp}
    (whole : ∀ moment ∈ value, moment.IsWholeSecond) :
    (nullable Timestamp.reading).Recovers 0
      (.ofOption (fun moment => .text moment.toText) value) value := by
  cases value with
  | none => exact recovers_null Timestamp.reading
  | some moment =>
    have read := Timestamp.parse?_toText (whole moment rfl)
    exact (recovers_named read).nullable fun _ => rfl

/-! ### Records -/

theorem ErrorType.recovers (errorType : ErrorType) :
    ErrorType.reading.Recovers 0 (.text errorType.id) errorType :=
  recovers_named errorType.ofName?_id

theorem Policy.recovers {policy : Policy} (finite : policy.retryDelay.isFinite)
    (readsBack : ∀ number, policy.toJson.Mentions number → number.ReadsBack) :
    Policy.reading.Recovers 2 policy.toJson policy := by
  have severity := recovers_choice policy.severity.ofName?_name
  have category := recovers_choice policy.category.ofName?_name
  have isRetryable := recovers_bool policy.isRetryable
  have retryDelay := recovers_double finite (readsBack _ (by simp [toJson, toMembers, finite]))
  have maxRetries := recovers_word32 policy.maxRetries
  have description := recovers_text policy.description
  have keywords := recovers_texts policy.keywords
  have patterns := recovers_texts policy.patterns
  refine recovers_record (by simp [toMembers]) ?_ fun fields nesting tree found holds enough => ?_
  · simp [toMembers, severity.told, category.told, isRetryable.told, retryDelay.told,
      maxRetries.told, description.told, keywords.told, patterns.told]
  · simp only [toMembers, List.map, List.forall_mem_cons] at found holds
    simp [reading, found, Fields.required, holds, Severity.reading, severity.read, Category.reading,
      category.read, isRetryable.read, retryDelay.read, maxRetries.read, description.read,
      keywords.read enough, patterns.read enough]

/-- A model is recovered, or refused for the null that stands for a temperature that is not finite. -/
theorem Model.recovers_orRefusal {model : Model} (weightFinite : model.weight.isFinite)
    (timeoutFinite : model.timeout.isFinite) (costFinite : ∀ cost ∈ model.costLimit, cost.isFinite)
    (readsBack : ∀ number, model.toJson.Mentions number → number.ReadsBack) :
    Model.reading.orRefusal.Recovers 1 model.toJson
      (if model.temperature.isFinite then some model else none) := by
  have provider := recovers_text model.provider
  have name := recovers_text model.name
  have kind := recovers_choice model.kind.ofName?_name
  have weight := recovers_double weightFinite (readsBack _ (by simp [toJson, weightFinite]))
  have maxTokens := recovers_word32 model.maxTokens
  have temperature := recovers_orRefusal_single fun finite =>
    readsBack (.single model.temperature) (by simp [toJson, finite])
  have timeout := recovers_double timeoutFinite (readsBack _ (by simp [toJson, timeoutFinite]))
  have retryAttempts := recovers_word32 model.retryAttempts
  have specializedFor := recovers_optionalText model.specializedFor
  have costLimit := recovers_optionalDouble costFinite fun cost held =>
    readsBack _ (by simp [toJson, Option.mem_def.mp held, ofOption, costFinite cost held])
  refine recovers_record (by simp) ?_ fun fields nesting tree found holds enough => ?_
  · simp [provider.told, name.told, kind.told, weight.told, maxTokens.told, temperature.told,
      timeout.told, retryAttempts.told, specializedFor.told, costLimit.told]
  · have temperatureRead := Option.some.inj (temperature.read fields.nesting.zero_le)
    simp only [List.map, List.forall_mem_cons] at found holds
    by_cases finite : model.temperature.isFinite <;>
    simp [orRefusal, reading, fieldNames, found, Fields.required, Fields.orElse, holds, provider.read,
      name.read, ModelKind.reading, kind.read, weight.read, maxTokens.read, temperatureRead, finite,
      timeout.read, retryAttempts.read, specializedFor.read, costLimit.read]

theorem Model.recovers {model : Model} (weightFinite : model.weight.isFinite)
    (temperatureFinite : model.temperature.isFinite) (timeoutFinite : model.timeout.isFinite)
    (costFinite : ∀ cost ∈ model.costLimit, cost.isFinite)
    (readsBack : ∀ number, model.toJson.Mentions number → number.ReadsBack) :
    Model.reading.Recovers 1 model.toJson model := by
  have recovers := Model.recovers_orRefusal weightFinite timeoutFinite costFinite readsBack
  rw [if_pos temperatureFinite] at recovers
  exact recovers.of_orRefusal

theorem Request.recovers_orRefusal {request : Request}
    (readsBack : ∀ number, request.toJson.Mentions number → number.ReadsBack) :
    Request.reading.orRefusal.Recovers 1 request.toJson
      (if request.temperature.isFinite then some request else none) := by
  have prompt := recovers_text request.prompt
  have kind := recovers_choice request.kind.ofName?_name
  have maxTokens := recovers_word32 request.maxTokens
  have temperature := recovers_orRefusal_single fun finite =>
    readsBack (.single request.temperature) (by simp [toJson, finite])
  refine recovers_record (by simp) ?_ fun fields nesting tree found holds enough => ?_
  · simp [prompt.told, kind.told, maxTokens.told, temperature.told]
  · have temperatureRead := Option.some.inj (temperature.read fields.nesting.zero_le)
    simp only [List.map, List.forall_mem_cons] at found holds
    by_cases finite : request.temperature.isFinite <;>
    simp [orRefusal, reading, found, Fields.required, holds, prompt.read, ModelKind.reading, kind.read,
      maxTokens.read, temperatureRead, finite]

theorem Request.recovers {request : Request} (finite : request.temperature.isFinite)
    (readsBack : ∀ number, request.toJson.Mentions number → number.ReadsBack) :
    Request.reading.Recovers 1 request.toJson request := by
  have recovers := Request.recovers_orRefusal readsBack
  rw [if_pos finite] at recovers
  exact recovers.of_orRefusal

theorem Reply.recovers (reply : Reply) : Reply.reading.Recovers 1 reply.toJson reply := by
  have content := recovers_text reply.content
  have provider := recovers_text reply.provider
  have model := recovers_text reply.model
  refine recovers_record (by simp) ?_ fun fields nesting tree found holds enough => ?_
  · simp [content.told, provider.told, model.told]
  · simp only [List.map, List.forall_mem_cons] at found holds
    simp [reading, found, Fields.required, holds, content.read, provider.read, model.read]

theorem Verdict.recovers {verdict : Verdict} {depth : Nat} (finite : verdict.confidence.isFinite)
    (form : (Json.object verdict.metadata).IsFreeForm depth)
    (readsBack : ∀ number, verdict.toJson.Mentions number → number.ReadsBack) :
    Verdict.reading.Recovers (depth + 1) verdict.toJson verdict := by
  have errorType := verdict.errorType.recovers
  have confidence := recovers_double finite (readsBack _ (by simp [toJson, finite]))
  have metadata := recovers_members form fun number inside =>
    readsBack number (.field "metadata" (by simp) inside)
  have path := recovers_texts verdict.path
  have matched := recovers_texts verdict.matched
  have actions := recovers_texts verdict.actions
  refine recovers_record (by simp) ?_ fun fields nesting tree found holds enough => ?_
  · simp [errorType.told, confidence.told, metadata.told, path.told, matched.told, actions.told]
  · have room : 1 ≤ fields.nesting := by
      cases form
      omega
    simp only [List.map, List.forall_mem_cons] at found holds
    simp [reading, found, Fields.required, holds, errorType.read, confidence.read,
      metadata.read enough, path.read room, matched.read room, actions.read room]

theorem DecisionDetails.recovers {details : DecisionDetails} (finite : details.confidence.isFinite)
    (readsBack : ∀ number, details.toJson.Mentions number → number.ReadsBack) :
    DecisionDetails.reading.Recovers 2 details.toJson details := by
  have path := recovers_texts details.path
  have matched := recovers_texts details.matched
  have actions := recovers_texts details.actions
  have confidence := recovers_double finite (readsBack _ (by simp [toJson, finite]))
  refine recovers_record (by simp) ?_ fun fields nesting tree found holds enough => ?_
  · simp [path.told, matched.told, actions.told, confidence.told]
  · simp only [List.map, List.forall_mem_cons] at found holds
    simp [reading, found, Fields.required, holds, path.read enough, matched.read enough,
      actions.read enough, confidence.read]

theorem RetryDecision.recovers {decision : RetryDecision}
    (delayFinite : decision.retryDelay.isFinite)
    (confidenceFinite : decision.details.confidence.isFinite)
    (readsBack : ∀ number, decision.toJson.Mentions number → number.ReadsBack) :
    RetryDecision.reading.Recovers 3 decision.toJson decision := by
  have errorType := decision.errorType.recovers
  have isRetryable := recovers_bool decision.isRetryable
  have retryDelay := recovers_double delayFinite (readsBack _ (by simp [toJson, delayFinite]))
  have maxRetries := recovers_word32 decision.maxRetries
  have opensCircuit := recovers_bool decision.opensCircuit
  have details := DecisionDetails.recovers confidenceFinite fun number inside =>
    readsBack number (.field "details" (by simp) inside)
  refine recovers_record (by simp) ?_ fun fields nesting tree found holds enough => ?_
  · simp [errorType.told, isRetryable.told, retryDelay.told, maxRetries.told, opensCircuit.told,
      details.told]
  · simp only [List.map, List.forall_mem_cons] at found holds
    simp [reading, found, Fields.required, holds, errorType.read, isRetryable.read, retryDelay.read,
      maxRetries.read, opensCircuit.read, details.read enough]

theorem Tally.recovers {tally : Tally}
    (counts : tally.total < wordLimit ∧ tally.successful < wordLimit ∧ tally.failed < wordLimit)
    (totalFinite : tally.totalTime.isFinite) (averageFinite : tally.averageTime.isFinite)
    (rateFinite : tally.successRate.isFinite)
    (whole : ∀ moment ∈ tally.lastExecution, moment.IsWholeSecond)
    (readsBack : ∀ number, tally.toJson.Mentions number → number.ReadsBack) :
    Tally.reading.Recovers 1 tally.toJson tally := by
  have total := recovers_word64 counts.1
  have successful := recovers_word64 counts.2.1
  have failed := recovers_word64 counts.2.2
  have totalTime := recovers_double totalFinite (readsBack _ (by simp [toJson, totalFinite]))
  have averageTime := recovers_double averageFinite (readsBack _ (by simp [toJson, averageFinite]))
  have successRate := recovers_double rateFinite (readsBack _ (by simp [toJson, rateFinite]))
  have lastExecution := recovers_optionalMoment whole
  refine recovers_record (by simp) ?_ fun fields nesting tree found holds enough => ?_
  · simp [total.told, successful.told, failed.told, totalTime.told, averageTime.told,
      successRate.told, lastExecution.told]
  · simp only [List.map, List.forall_mem_cons] at found holds
    simp [reading, found, Fields.required, Fields.optional, holds, total.read, successful.read,
      failed.read, totalTime.read, averageTime.read, successRate.read, lastExecution.read]

/-! ### What is stored -/

/-- A record that is stored as JSON text. -/
inductive Record where
  | errorType (value : ErrorType)
  | policy (value : Policy)
  | model (value : Model)
  | request (value : Request)
  | reply (value : Reply)
  | verdict (value : Verdict)
  | details (value : DecisionDetails)
  | decision (value : RetryDecision)
  | tally (value : Tally)

/-- The kinds of records. -/
inductive Record.Kind where
  | errorType
  | policy
  | model
  | request
  | reply
  | verdict
  | details
  | decision
  | tally
  deriving DecidableEq, Repr

namespace Record

/-- The kind of a record. -/
def kind : Record → Kind
  | .errorType _ => .errorType
  | .policy _ => .policy
  | .model _ => .model
  | .request _ => .request
  | .reply _ => .reply
  | .verdict _ => .verdict
  | .details _ => .details
  | .decision _ => .decision
  | .tally _ => .tally

/-- A record as JSON. -/
def toJson : Record → Json
  | .errorType value => .text value.id
  | .policy value => value.toJson
  | .model value => value.toJson
  | .request value => value.toJson
  | .reply value => value.toJson
  | .verdict value => value.toJson
  | .details value => value.toJson
  | .decision value => value.toJson
  | .tally value => value.toJson

/-- A record of a kind in a JSON text. -/
def Kind.reading (kind : Kind) : Json.Reading Record := fun nesting tree =>
  match kind with
  | .errorType => (ErrorType.reading nesting tree).map .errorType
  | .policy => (Policy.reading nesting tree).map .policy
  | .model => (Model.reading nesting tree).map .model
  | .request => (Request.reading nesting tree).map .request
  | .reply => (Reply.reading nesting tree).map .reply
  | .verdict => (Verdict.reading nesting tree).map .verdict
  | .details => (DecisionDetails.reading nesting tree).map .details
  | .decision => (RetryDecision.reading nesting tree).map .decision
  | .tally => (Tally.reading nesting tree).map .tally

/-- The record can be stored: its doubles and singles are finite, its counts are words of 64 bits,
its metadata leave room for the record around them, and its moment is a whole second. -/
def IsStorable : Record → Prop
  | .errorType _ => True
  | .policy value => value.retryDelay.isFinite
  | .model value => value.weight.isFinite ∧ value.temperature.isFinite ∧ value.timeout.isFinite ∧
    ∀ cost ∈ value.costLimit, cost.isFinite
  | .request value => value.temperature.isFinite
  | .reply _ => True
  | .verdict value => value.confidence.isFinite ∧
    (Json.object value.metadata).IsFreeForm (nestingLimit - 1)
  | .details value => value.confidence.isFinite
  | .decision value => value.retryDelay.isFinite ∧ value.details.confidence.isFinite
  | .tally value =>
    (value.total < wordLimit ∧ value.successful < wordLimit ∧ value.failed < wordLimit) ∧
    value.totalTime.isFinite ∧ value.averageTime.isFinite ∧ value.successRate.isFinite ∧
    ∀ moment ∈ value.lastExecution, moment.IsWholeSecond

/-- A record is read back from its text, whatever its strings hold and however deep its metadata are
nested within the limit of the reader, if every number in it is read back from its digits. -/
theorem read_back (record : Record) (storable : record.IsStorable)
    (readsBack : ∀ number, record.toJson.Mentions number → number.ReadsBack) :
    record.kind.reading.run? record.toJson.render = some record := by
  cases record with
  | errorType value => exact (value.recovers.map Record.errorType).run? (by decide)
  | policy value => exact ((Policy.recovers storable readsBack).map Record.policy).run? (by decide)
  | model value =>
    obtain ⟨weight, temperature, timeout, cost⟩ := storable
    exact ((Model.recovers weight temperature timeout cost readsBack).map Record.model).run?
      (by decide)
  | request value =>
    exact ((Request.recovers storable readsBack).map Record.request).run? (by decide)
  | reply value => exact (value.recovers.map Record.reply).run? (by decide)
  | verdict value =>
    exact ((Verdict.recovers storable.1 storable.2 readsBack).map Record.verdict).run? (by decide)
  | details value =>
    exact ((DecisionDetails.recovers storable readsBack).map Record.details).run? (by decide)
  | decision value =>
    exact ((RetryDecision.recovers storable.1 storable.2 readsBack).map Record.decision).run?
      (by decide)
  | tally value =>
    obtain ⟨counts, total, average, rate, whole⟩ := storable
    exact ((Tally.recovers counts total average rate whole readsBack).map Record.tally).run?
      (by decide)

/-- The case of a verdict with nested metadata, of a model and of a tally with a moment. -/
theorem read_back_of_three_kinds :
    let verdict : Record := .verdict ⟨.sslError, 0.75,
      [("limits", .array [.number (.whole (-3)), .null, .object [("a", .number (.real 0.5))]]),
        ("note", .text "say \"no\"\n\\ \x01 é")], ["keyword: ssl"], [], ["Check", ""]⟩
    let model : Record :=
      .model ⟨"echo", "m", .deepThinking, 1.5, 4000, 0.7, 30, 2, none, some 0.02⟩
    let tally : Record := .tally ⟨3, 2, 1, 4.5, 1.5, 66.5, some ⟨1709210096, 0⟩⟩
    ∀ record ∈ [verdict, model, tally],
      record.kind.reading.run? record.toJson.render = some record := by
  intro verdict model tally
  simp only [List.forall_mem_cons, List.not_mem_nil, false_implies, implies_true, and_true]
  refine ⟨read_back verdict ⟨by decide +kernel, ?_⟩ fun number inside => ?_,
    read_back model ⟨by decide +kernel, by decide +kernel, by decide +kernel, ?_⟩
      fun number inside => ?_,
    read_back tally ⟨by decide, by decide +kernel, by decide +kernel, by decide +kernel, ?_⟩
      fun number inside => ?_⟩
  · refine .object (by decide) ?_
    simp only [List.forall_mem_cons, List.not_mem_nil, false_implies, implies_true, and_true]
    refine ⟨.array ?_, .text _⟩
    simp only [List.forall_mem_cons, List.not_mem_nil, false_implies, implies_true, and_true]
    refine ⟨.number ⟨by decide, by decide⟩, .null, .object (List.pairwise_singleton _ _) ?_⟩
    rw [List.forall_mem_singleton]
    exact .number (by decide +kernel : (0.5 : Float).isFinite = true)
  · simp [toJson, verdict, Verdict.toJson] at inside
    rcases inside with ⟨-, rfl⟩ | rfl | rfl <;> decide +kernel
  · rintro cost ⟨⟩
    decide +kernel
  · simp [toJson, model, Model.toJson, ofOption] at inside
    rcases inside with ⟨-, rfl⟩ | rfl | ⟨-, rfl⟩ | ⟨-, rfl⟩ | rfl | ⟨-, rfl⟩ <;> decide +kernel
  · rintro moment ⟨⟩
    exact ⟨rfl, by decide⟩
  · simp [toJson, tally, Tally.toJson, ofOption] at inside
    rcases inside with rfl | rfl | rfl | ⟨-, rfl⟩ | ⟨-, rfl⟩ | ⟨-, rfl⟩ <;> decide +kernel

end Record

end Triage
