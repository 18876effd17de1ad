/-
This file holds what a classifier finds out about a message: the type of the error, how sure that
is, the policy of the type, what speaks for it and what to do about it.
-/

import Triage.Policy.Catalogue

namespace Triage

/-- What a classifier finds out about a message. -/
structure Verdict where
  errorType : ErrorType
  confidence : Float
  /-- The policy of the type, in its JSON form. -/
  metadata : Json.Members
  /-- How the type was found, one entry for each piece of evidence. -/
  path : List String
  /-- The patterns and keywords that matched. -/
  matched : List String
  /-- What to do. -/
  actions : List String

namespace Verdict

/-- A verdict as JSON. -/
def toJson (verdict : Verdict) : Json := .object [
  ("error_type", .text verdict.errorType.id),
  ("confidence", .ofFloat verdict.confidence),
  ("metadata", .object verdict.metadata),
  ("classification_path", .ofTexts verdict.path),
  ("matched_patterns", .ofTexts verdict.matched),
  ("suggested_actions", .ofTexts verdict.actions)]

/-- A verdict in a JSON text. -/
def reading : Json.Reading Verdict := fun nesting tree => do
  let fields ← Json.Fields.read? ["error_type", "confidence", "metadata", "classification_path",
    "matched_patterns", "suggested_actions"] nesting tree
  return {
    errorType := ← fields.required "error_type" ErrorType.reading
    confidence := ← fields.required "confidence" .double
    metadata := ← fields.required "metadata" .members
    path := ← fields.required "classification_path" (.list .text)
    matched := ← fields.required "matched_patterns" (.list .text)
    actions := ← fields.required "suggested_actions" (.list .text) }

end Verdict

/-! ### Advice -/

/-- What to look at for errors of a category. -/
def Category.hints : Category → List String
  | .network => ["Check network connectivity", "Verify DNS resolution"]
  | .authentication => ["Verify credentials", "Check token validity"]
  | .authorization => ["Check permissions", "Verify access rights"]
  | .validation => ["Validate input parameters", "Check request format"]
  | .configuration => ["Check configuration settings", "Verify environment variables"]
  | .fileSystem => ["Check file permissions", "Verify disk space"]
  | .api => ["Check API status", "Verify rate limits"]
  | .security | .provider | .localGit | .unknown => []

/-- The advice to try again after some seconds. -/
def retryAdvice (seconds : Float) : String :=
  s!"Retry after {Number.fixedText 1 seconds} seconds"

/-- The advice against trying again. -/
def noRetryAdvice : String :=
  "Do not retry - fix underlying issue"

/-- What to do about an error that is handled by a policy. -/
def Policy.actions (policy : Policy) : List String :=
  (if policy.isRetryable then
    [retryAdvice policy.retryDelay, s!"Maximum retries: {policy.maxRetries.toNat}"]
  else [noRetryAdvice]) ++ policy.category.hints

/-- What to do about an error of which nothing is known. -/
def generalActions : List String :=
  ["Investigate error details", "Check logs for more information"]

/-- What to do about an error with a policy, or with none that is known. -/
def actionsFor : Option Policy → List String
  | some policy => policy.actions
  | none => generalActions

/-- A policy in its JSON form, which is empty when none is known. -/
def metadataFor : Option Policy → Json.Members
  | some policy => .ofList policy.toMembers
  | none => []

/-- The verdict about an error for which a type has been found, or none, with what speaks for it. -/
def Verdict.ofType? (errorType? : Option ErrorType) (confidence : Float)
    (path matched : List String) : Verdict where
  errorType := errorType?.getD .unknownError
  confidence
  metadata := metadataFor (errorType?.map (·.policy))
  path
  matched
  actions := actionsFor (errorType?.map (·.policy))

end Triage
