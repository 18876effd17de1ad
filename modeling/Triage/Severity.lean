/-
This file lists how severe an error can be. A severity is written by its name, exactly.
-/

import Triage.Json.Reading

namespace Triage

/-- How severe an error is. -/
inductive Severity where
  | low
  | medium
  | high
  | critical
  deriving DecidableEq, Repr

namespace Severity

/-- All severities, in increasing order. -/
def all : List Severity := [.low, .medium, .high, .critical]

/-- The name of a severity. -/
def name : Severity → String
  | .low => "low"
  | .medium => "medium"
  | .high => "high"
  | .critical => "critical"

/-- The severity with a name. -/
def ofName? (name : String) : Option Severity :=
  all.find? (·.name == name)

/-- A severity in a JSON text. -/
def reading : Json.Reading Severity :=
  .choice ofName?

end Severity

end Triage
