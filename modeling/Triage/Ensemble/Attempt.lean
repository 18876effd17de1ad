/-
This file follows the attempt to get a reply from one model. A model that is not sound is refused
before it asks the gate; behind the gate, a model whose provider is unknown is refused as well. All
others lead to one call, which ends when the provider has answered or when its time is over,
whichever comes first. What comes of a call and how long it takes depends on the request alone.
-/

import Triage.Ensemble.Model
import Triage.Ensemble.Provider

namespace Triage

/-- A call to a provider. -/
structure Call where
  /-- The millisecond at which the call starts. -/
  start : Nat
  provider : String
  request : Request

/-- How an attempt ends. -/
inductive Ending where
  /-- No call was made. -/
  | refused (fault : Fault)
  /-- The provider answered. -/
  | returned (call : Call) (result : Except Fault Reply)
  /-- The call was cut off at the end of its time. -/
  | cancelled (call : Call) (fault : Fault)

namespace Ending

/-- The reply or the fault that an attempt ends with. -/
def result : Ending → Except Fault Reply
  | refused fault => .error fault
  | returned _ result => result
  | cancelled _ fault => .error fault

/-- The call that was made. -/
def call? : Ending → Option Call
  | refused _ => none
  | returned call _ => some call
  | cancelled call _ => some call

/-- Did the call run to its end? -/
def isReturned : Ending → Bool
  | returned _ _ => true
  | _ => false

/-- The reply, if there is one. -/
def reply? (ending : Ending) : Option Reply :=
  ending.result.toOption

end Ending

/-- The fault of a call that takes too long. -/
def Model.timeoutFault (model : Model) : Fault :=
  .timeout model.provider model.name model.timeout

/-- How an attempt ends that passes the gate at a given time, and how many milliseconds it takes. A
provider that answers just when the time is over is still heard. -/
def Model.attempt (model : Model) (providers : Providers) (prompt : String) (now : Nat) :
    Ending × Nat :=
  match providers.find? model.provider with
  | none => (.refused (.providerUnavailable model.provider), 0)
  | some provider =>
    let request := model.request prompt
    let behaviour := provider.answer request
    let call : Call := ⟨now, provider.name, request⟩
    if behaviour.delay ≤ model.limit.milliseconds then
      (.returned call behaviour.result, behaviour.delay)
    else (.cancelled call model.timeoutFault, model.limit.milliseconds)

end Triage
