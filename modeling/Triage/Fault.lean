/-
This file lists what can go wrong, the message for each fault, and which faults are worth another
attempt. Only the faults of a single call to a model may pass; all others stay until somebody
changes something.
-/

import Triage.Number.Layout

namespace Triage

/-- What can go wrong. -/
inductive Fault where
  | providerUnavailable (provider : String)
  | timeout (provider model : String) (seconds : Float)
  | generation (reason : String)
  | unsupportedStrategy (name : String)
  | gateClosed
  | invalidModel (reason : String)
  | notFitted (classifier : String)
  | unknownAlgorithm (name : String)
  | unknownErrorType (name : String)
  | invalidTraining (reason : String)
  | settings (reason : String)
  | io (reason : String)
  /-- A JSON text that does not say what is expected; its message is the reader's own affair. -/
  | malformedJson

namespace Fault

/-- The message for a fault. -/
def message : Fault → String
  | providerUnavailable provider => s!"Provider {provider} not available"
  | timeout provider model seconds =>
    let limit := Number.plainText seconds
    s!"Model {provider}:{model} timed out after {limit}s"
  | generation reason => s!"Generation failed: {reason}"
  | unsupportedStrategy name => s!"Unsupported mixing strategy: {name}"
  | gateClosed => "Concurrency gate closed"
  | invalidModel reason => s!"Invalid model config: {reason}"
  | notFitted classifier => s!"Classifier {classifier} must be fitted before use"
  | unknownAlgorithm name => s!"Unknown classifier algorithm: {name}"
  | unknownErrorType name => s!"Unknown error type: {name}"
  | invalidTraining reason => s!"Invalid training data: {reason}"
  | settings reason => s!"Configuration error: {reason}"
  | io reason => s!"IO error: {reason}"
  | malformedJson => "Serialization error"

/-- Is another attempt worth while? -/
def isRetryable : Fault → Bool
  | timeout .. => true
  | generation _ => true
  | _ => false

end Fault

end Triage
