/-
This file holds what is known about an error type: the policy for handling it and the words that
point to it, together with the way this is written as JSON.
-/

import Triage.ErrorType
import Triage.Severity
import Triage.Category

namespace Triage

/-- An error type in a JSON text. -/
def ErrorType.reading : Json.Reading ErrorType :=
  .named ErrorType.ofName?

/-- How an error of a type is handled. -/
structure Policy where
  severity : Severity
  category : Category
  isRetryable : Bool
  /-- The seconds to wait before another attempt. -/
  retryDelay : Float
  maxRetries : UInt32
  description : String
  keywords : List String
  patterns : List String

namespace Policy

/-- The fields of a policy, in the order in which they are written. -/
def toMembers (policy : Policy) : List (String × Json) := [
  ("severity", .text policy.severity.name),
  ("category", .text policy.category.name),
  ("is_retryable", .bool policy.isRetryable),
  ("retry_delay", .ofFloat policy.retryDelay),
  ("max_retries", .ofNat policy.maxRetries.toNat),
  ("description", .text policy.description),
  ("keywords", .ofTexts policy.keywords),
  ("patterns", .ofTexts policy.patterns)]

/-- A policy as JSON. -/
def toJson (policy : Policy) : Json :=
  .object policy.toMembers

/-- A policy in a JSON text. -/
def reading : Json.Reading Policy := fun nesting tree => do
  let fields ← Json.Fields.read? ["severity", "category", "is_retryable", "retry_delay",
    "max_retries", "description", "keywords", "patterns"] nesting tree
  return {
    severity := ← fields.required "severity" Severity.reading
    category := ← fields.required "category" Category.reading
    isRetryable := ← fields.required "is_retryable" .bool
    retryDelay := ← fields.required "retry_delay" .double
    maxRetries := ← fields.required "max_retries" .word32
    description := ← fields.required "description" .text
    keywords := ← fields.required "keywords" (.list .text)
    patterns := ← fields.required "patterns" (.list .text) }

end Policy

end Triage
