/-
This file makes a decision about trying again of a verdict, and shows both to a person. The decision
is read off the policy in the verdict; what the policy does not say counts as no.
-/

import Triage.Learning.Verdict

namespace Triage

/-- Why a decision was made. -/
structure DecisionDetails where
  path : List String
  matched : List String
  actions : List String
  confidence : Float

namespace DecisionDetails

/-- Details as JSON. -/
def toJson (details : DecisionDetails) : Json := .object [
  ("classification_path", .ofTexts details.path),
  ("matched_patterns", .ofTexts details.matched),
  ("suggested_actions", .ofTexts details.actions),
  ("confidence", .ofFloat details.confidence)]

/-- Details in a JSON text. -/
def reading : Json.Reading DecisionDetails := fun nesting tree => do
  let fields ← Json.Fields.read? ["classification_path", "matched_patterns", "suggested_actions",
    "confidence"] nesting tree
  return {
    path := ← fields.required "classification_path" (.list .text)
    matched := ← fields.required "matched_patterns" (.list .text)
    actions := ← fields.required "suggested_actions" (.list .text)
    confidence := ← fields.required "confidence" .double }

end DecisionDetails

/-- Whether and how to try again. -/
structure RetryDecision where
  errorType : ErrorType
  isRetryable : Bool
  /-- The seconds to wait before another attempt. -/
  retryDelay : Float
  maxRetries : UInt32
  /-- Should no further calls be made for a while? -/
  opensCircuit : Bool
  details : DecisionDetails

namespace RetryDecision

/-- Does the policy of a verdict say yes to a question? -/
def flag (verdict : Verdict) (key : String) : Bool :=
  ((verdict.metadata.get? key).bind (·.bool?)).getD false

/-- The decision that follows from a verdict. -/
def ofVerdict (verdict : Verdict) : RetryDecision where
  errorType := verdict.errorType
  isRetryable := flag verdict "is_retryable"
  retryDelay := ((verdict.metadata.get? "retry_delay").bind (·.double?)).getD 0
  maxRetries := ((verdict.metadata.get? "max_retries").bind (·.word32?)).getD 0
  opensCircuit := flag verdict "should_open_circuit"
  details := ⟨verdict.path, verdict.matched, verdict.actions, verdict.confidence⟩

/-- A decision as JSON. -/
def toJson (decision : RetryDecision) : Json := .object [
  ("error_type", .text decision.errorType.id),
  ("is_retryable", .bool decision.isRetryable),
  ("retry_delay", .ofFloat decision.retryDelay),
  ("max_retries", .ofNat decision.maxRetries.toNat),
  ("should_open_circuit", .bool decision.opensCircuit),
  ("details", decision.details.toJson)]

/-- A decision in a JSON text. -/
def reading : Json.Reading RetryDecision := fun nesting tree => do
  let fields ← Json.Fields.read? ["error_type", "is_retryable", "retry_delay", "max_retries",
    "should_open_circuit", "details"] nesting tree
  return {
    errorType := ← fields.required "error_type" ErrorType.reading
    isRetryable := ← fields.required "is_retryable" .bool
    retryDelay := ← fields.required "retry_delay" .double
    maxRetries := ← fields.required "max_retries" .word32
    opensCircuit := ← fields.required "should_open_circuit" .bool
    details := ← fields.required "details" DecisionDetails.reading }

end RetryDecision

/-! ### For a person -/

/-- Entries of a list, one on each line, behind a mark. -/
def listText (mark : String) (entries : List String) : String :=
  String.join (entries.map fun entry => s!"  {mark} {entry}\n")

/-- A verdict and the decision that follows from it, for a person to read. -/
def Verdict.toText (verdict : Verdict) : String :=
  let decision := RetryDecision.ofVerdict verdict
  let hundredths := Number.fixedText 0 (verdict.confidence * 100)
  let delay := Number.fixedText 1 decision.retryDelay
  s!"\n=== {verdict.errorType.id} (confidence: {hundredths}%) ===\n\n" ++
    (if decision.isRetryable then
      s!"Retryable: yes ({decision.maxRetries.toNat} retries, {delay}s delay)\n"
    else "Retryable: no\n") ++
    (if verdict.path.isEmpty then "" else "\nEvidence:\n" ++ listText "-" verdict.path) ++
    "\nSuggested Actions:\n" ++ listText "*" verdict.actions

end Triage
