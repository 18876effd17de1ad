/-
This file describes where models are found. A provider answers every request in a way that depends
on the request alone: after some time, with a reply or a fault. Providers are looked up by name,
and one that is registered later under the same name takes the place of the earlier one.
-/

import Triage.Ensemble.Request
import Triage.Fault

namespace Triage

/-- How a provider answers a request: after so many milliseconds, with a reply or a fault. -/
structure Behaviour where
  delay : Nat
  result : Except Fault Reply

/-- A provider of models. -/
structure Provider where
  name : String
  answer : Request → Behaviour

/-- Providers by name, in increasing order of their names. -/
structure Providers where
  entries : List Provider

namespace Providers

/-- No providers. -/
def empty : Providers := ⟨[]⟩

/-- Put a provider among others that are in order, in place of one with the same name. -/
def insert (provider : Provider) : List Provider → List Provider
  | [] => [provider]
  | other :: rest =>
    if provider.name < other.name then provider :: other :: rest
    else if provider.name = other.name then provider :: rest
    else other :: insert provider rest

/-- Register a provider under its name. -/
def register (providers : Providers) (provider : Provider) : Providers :=
  ⟨insert provider providers.entries⟩

/-- Register several providers. -/
def ofList (providers : List Provider) : Providers :=
  providers.foldl register empty

/-- The provider with a name. -/
def find? (providers : Providers) (name : String) : Option Provider :=
  providers.entries.find? (·.name == name)

/-- The names of all providers. -/
def names (providers : Providers) : List String :=
  providers.entries.map (·.name)

end Providers

end Triage
