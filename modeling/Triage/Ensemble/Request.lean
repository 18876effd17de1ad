/-
This file holds what is sent to a model and what comes back, with their JSON forms.
-/

import Triage.Json.Reading

namespace Triage

/-- What a model is good at. -/
inductive ModelKind where
  | fast
  | smart
  | deepThinking
  | code
  | analysis
  deriving DecidableEq, Repr

namespace ModelKind

/-- All kinds, in their order. -/
def all : List ModelKind := [.fast, .smart, .deepThinking, .code, .analysis]

/-- The name of a kind. -/
def name : ModelKind → String
  | .fast => "fast"
  | .smart => "smart"
  | .deepThinking => "deep_thinking"
  | .code => "code"
  | .analysis => "analysis"

/-- The kind with a name. -/
def ofName? (name : String) : Option ModelKind :=
  all.find? (·.name == name)

/-- A kind in a JSON text. -/
def reading : Json.Reading ModelKind :=
  .choice ofName?

end ModelKind

/-! ### Requests -/

/-- What is sent to a model. -/
structure Request where
  prompt : String
  kind : ModelKind
  maxTokens : UInt32
  temperature : Float32

namespace Request

/-- A request as JSON. -/
def toJson (request : Request) : Json := .object [
  ("prompt", .text request.prompt),
  ("model_type", .text request.kind.name),
  ("max_tokens", .ofNat request.maxTokens.toNat),
  ("temperature", .ofSingle request.temperature)]

/-- A request in a JSON text. -/
def reading : Json.Reading Request := fun nesting tree => do
  let fields ← Json.Fields.read? ["prompt", "model_type", "max_tokens", "temperature"] nesting tree
  return {
    prompt := ← fields.required "prompt" .text
    kind := ← fields.required "model_type" ModelKind.reading
    maxTokens := ← fields.required "max_tokens" .word32
    temperature := ← fields.required "temperature" .single }

end Request

/-! ### Replies -/

/-- What a model answers. -/
structure Reply where
  content : String
  provider : String
  model : String
  deriving DecidableEq, Repr

namespace Reply

/-- A reply as JSON. -/
def toJson (reply : Reply) : Json := .object [
  ("content", .text reply.content),
  ("provider", .text reply.provider),
  ("model", .text reply.model)]

/-- A reply in a JSON text. -/
def reading : Json.Reading Reply := fun nesting tree => do
  let fields ← Json.Fields.read? ["content", "provider", "model"] nesting tree
  return {
    content := ← fields.required "content" .text
    provider := ← fields.required "provider" .text
    model := ← fields.required "model" .text }

end Reply

end Triage
