/-
This file lists the strategies by which an ensemble answers a prompt. A person may write the name
of a strategy in any case and with blanks at either end; in a JSON text it is written exactly.
-/

import Triage.Json.Reading
import Triage.Text.Blank
import Triage.Text.Case
import Triage.Fault

namespace Triage

/-- How an ensemble answers a prompt. -/
inductive Strategy where
  /-- All models at once. -/
  | parallel
  /-- One model after the other, whatever happens. -/
  | sequential
  /-- One model after the other, each given the result before it, until one fails. -/
  | cascade
  /-- All models at once, for a vote among the results. -/
  | voting
  /-- All models at once, for a weighing of the results. -/
  | weighted
  /-- The groups of specialized models, each at once, then the general models in turn. -/
  | hierarchical
  deriving DecidableEq, Repr

namespace Strategy

/-- All strategies, in their order. -/
def all : List Strategy := [
  .parallel, .sequential, .cascade, .voting, .weighted, .hierarchical]

/-- The place of a strategy among all of them. -/
def index (strategy : Strategy) : Nat :=
  all.idxOf strategy

/-- The name of a strategy. -/
def name : Strategy → String
  | .parallel => "parallel"
  | .sequential => "sequential"
  | .cascade => "cascade"
  | .voting => "voting"
  | .weighted => "weighted"
  | .hierarchical => "hierarchical"

/-- The strategy with a name. -/
def ofName? (name : String) : Option Strategy :=
  all.find? (·.name == name)

/-- The strategy that a person means; the fault shows the text as it was given. -/
def parse (text : String) : Except Fault Strategy :=
  match ofName? (Text.lowercase (Text.trim text)) with
  | some strategy => .ok strategy
  | none => .error (.unsupportedStrategy text)

/-- A strategy in a JSON text. -/
def reading : Json.Reading Strategy :=
  .choice ofName?

end Strategy

end Triage
