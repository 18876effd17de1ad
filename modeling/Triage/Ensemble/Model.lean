/-
This file describes a model that takes part in an ensemble: where it is found, how it is asked and
what it may use. A description can be read from JSON or built from its three required fields and
any settings; both ways share the same defaults. What is wrong with a description is a defect, and
a description without defects is sound.
-/

import Triage.Ensemble.Request
import Triage.Ensemble.Limit
import Triage.Fault

namespace Triage

/-- A model of an ensemble. -/
structure Model where
  provider : String
  name : String
  kind : ModelKind
  weight : Float := 1
  maxTokens : UInt32 := 4000
  temperature : Float32 := 0.7
  /-- The seconds that a single call may take. -/
  timeout : Float := 30
  retryAttempts : UInt32 := 2
  specializedFor : Option String := none
  costLimit : Option Float := none

namespace Model

/-! ### Settings -/

/-- A change to one of the optional fields. -/
inductive Setting where
  | weight (value : Float)
  | maxTokens (value : UInt32)
  | temperature (value : Float32)
  | timeout (value : Float)
  | retryAttempts (value : UInt32)
  | specializedFor (value : String)
  | costLimit (value : Float)

/-- The model with a setting. -/
def set (model : Model) : Setting → Model
  | .weight value => { model with weight := value }
  | .maxTokens value => { model with maxTokens := value }
  | .temperature value => { model with temperature := value }
  | .timeout value => { model with timeout := value }
  | .retryAttempts value => { model with retryAttempts := value }
  | .specializedFor value => { model with specializedFor := some value }
  | .costLimit value => { model with costLimit := some value }

/-- The model with several settings, the last of which counts where two change the same field. -/
def setAll (model : Model) (settings : List Setting) : Model :=
  settings.foldl set model

/-! ### Defects -/

/-- What can be wrong with a model. -/
inductive Defect where
  | weight (value : Float)
  | maxTokens
  | timeout (value : Float)

/-- What is wrong, in words. -/
def Defect.message : Defect → String
  | .weight value => s!"weight must be >= 0, got {Number.plainText value}"
  | .maxTokens => "max_tokens must be > 0"
  | .timeout value =>
    let seconds := Number.plainText value
    s!"timeout must be a positive number of seconds, got {seconds}"

/-- The first thing that is wrong with a model. -/
def defect? (model : Model) : Option Defect :=
  if model.weight.isNaN || decide (model.weight < 0) then some (.weight model.weight)
  else if model.maxTokens = 0 then some .maxTokens
  else if !model.timeout.isFinite || decide (model.timeout ≤ 0) then
    some (.timeout model.timeout)
  else none

/-- How a model is called in messages. -/
def label (model : Model) : String :=
  s!"{model.provider}:{model.name}"

/-- The fault of a model with a defect. -/
def fault (model : Model) (defect : Defect) : Fault :=
  .invalidModel s!"{model.label}: {defect.message}"

/-- Check a model. -/
def check (model : Model) : Except Fault Unit :=
  match model.defect? with
  | some defect => .error (model.fault defect)
  | none => .ok ()

/-! ### Use -/

/-- What the model is specialized for; an empty text means nothing in particular. -/
def specialization (model : Model) : Option String :=
  model.specializedFor.filter fun tag => !tag.isEmpty

/-- The time that a call may take. -/
def limit (model : Model) : Limit :=
  .ofSeconds model.timeout

/-- The request that puts a prompt to the model. -/
def request (model : Model) (prompt : String) : Request :=
  ⟨prompt, model.kind, model.maxTokens, model.temperature⟩

/-! ### JSON -/

/-- A model as JSON. -/
def toJson (model : Model) : Json := .object [
  ("provider", .text model.provider),
  ("model", .text model.name),
  ("model_type", .text model.kind.name),
  ("weight", .ofFloat model.weight),
  ("max_tokens", .ofNat model.maxTokens.toNat),
  ("temperature", .ofSingle model.temperature),
  ("timeout", .ofFloat model.timeout),
  ("retry_attempts", .ofNat model.retryAttempts.toNat),
  ("specialized_for", .ofOption .text model.specializedFor),
  ("cost_limit", .ofOption .ofFloat model.costLimit)]

/-- The names of the fields of a model, in declared order. -/
def fieldNames : List String := [
  "provider", "model", "model_type", "weight", "max_tokens", "temperature", "timeout",
  "retry_attempts", "specialized_for", "cost_limit"]

/-- A model in a JSON text. -/
def reading : Json.Reading Model := fun nesting tree => do
  let fields ← Json.Fields.read? fieldNames nesting tree
  let base : Model := {
    provider := ← fields.required "provider" .text
    name := ← fields.required "model" .text
    kind := ← fields.required "model_type" ModelKind.reading }
  return { base with
    weight := ← fields.orElse "weight" .double base.weight
    maxTokens := ← fields.orElse "max_tokens" .word32 base.maxTokens
    temperature := ← fields.orElse "temperature" .single base.temperature
    timeout := ← fields.orElse "timeout" .double base.timeout
    retryAttempts := ← fields.orElse "retry_attempts" .word32 base.retryAttempts
    specializedFor := ← fields.orElse "specialized_for" (.nullable .text) none
    costLimit := ← fields.orElse "cost_limit" (.nullable .double) none }

end Model

end Triage
