/-
This file keeps the score of the strategies: how often each was used, how often it brought a reply
and how long it took. A strategy that has been used is rated by its rate of success and by its
average time, seven to three, and the best one is the first with the highest rating.
-/

import Triage.Ensemble.Strategy
import Triage.Timestamp

namespace Triage

/-- What is known about the use of one strategy. -/
structure Tally where
  total : Nat := 0
  successful : Nat := 0
  failed : Nat := 0
  /-- The sum of all times, in seconds. -/
  totalTime : Float := 0
  averageTime : Float := 0
  /-- In hundredths. -/
  successRate : Float := 0
  lastExecution : Option Timestamp := none

namespace Tally

/-- Count one more use, which took some seconds and ended at a moment. -/
def record (tally : Tally) (seconds : Float) (success : Bool) (moment : Timestamp) : Tally :=
  let total := tally.total + 1
  let successful := if success then tally.successful + 1 else tally.successful
  let failed := if success then tally.failed else tally.failed + 1
  let totalTime := tally.totalTime + seconds
  { total, successful, failed, totalTime
    averageTime := totalTime / Float.ofNat total
    successRate := Float.ofNat successful / Float.ofNat total * 100
    lastExecution := some moment }

/-- The rating. The part for speed has no lower end: it falls below zero when the average time
exceeds ten seconds. -/
def score (tally : Tally) : Float :=
  tally.successRate * 0.7 + (100 - tally.averageTime * 10) * 0.3

/-- A tally as JSON. -/
def toJson (tally : Tally) : Json := .object [
  ("total_executions", .ofNat tally.total),
  ("successful_executions", .ofNat tally.successful),
  ("failed_executions", .ofNat tally.failed),
  ("total_execution_time", .ofFloat tally.totalTime),
  ("average_execution_time", .ofFloat tally.averageTime),
  ("success_rate", .ofFloat tally.successRate),
  ("last_execution", .ofOption (fun moment => .text moment.toText) tally.lastExecution)]

/-- A tally in a JSON text. -/
def reading : Json.Reading Tally := fun nesting tree => do
  let fields ← Json.Fields.read? ["total_executions", "successful_executions",
    "failed_executions", "total_execution_time", "average_execution_time", "success_rate",
    "last_execution"] nesting tree
  return {
    total := ← fields.required "total_executions" .word64
    successful := ← fields.required "successful_executions" .word64
    failed := ← fields.required "failed_executions" .word64
    totalTime := ← fields.required "total_execution_time" .double
    averageTime := ← fields.required "average_execution_time" .double
    successRate := ← fields.required "success_rate" .double
    lastExecution := ← fields.optional "last_execution" Timestamp.reading }

end Tally

/-- The tallies of strategies, in the order of the strategies. -/
structure Scoreboard where
  entries : List (Strategy × Tally)

namespace Scoreboard

/-- Every strategy has an entry, and none has been used. -/
def empty : Scoreboard := ⟨Strategy.all.map fun strategy => (strategy, {})⟩

/-- The tally of a strategy, if it has an entry. -/
def get? (board : Scoreboard) (strategy : Strategy) : Option Tally :=
  (board.entries.find? (·.1 == strategy)).map (·.2)

/-- The tally of a strategy; one without an entry has not been used. -/
def tally (board : Scoreboard) (strategy : Strategy) : Tally :=
  (board.get? strategy).getD {}

/-- Change the tally of a strategy among entries in order. A strategy without an entry is given one,
in its place. -/
def change (strategy : Strategy) (use : Tally → Tally) :
    List (Strategy × Tally) → List (Strategy × Tally)
  | [] => [(strategy, use {})]
  | (other, tally) :: rest =>
    if other = strategy then (other, use tally) :: rest
    else if strategy.index < other.index then (strategy, use {}) :: (other, tally) :: rest
    else (other, tally) :: change strategy use rest

/-- Count one more use of a strategy. -/
def record (board : Scoreboard) (strategy : Strategy) (seconds : Float) (success : Bool)
    (moment : Timestamp) : Scoreboard :=
  ⟨change strategy (·.record seconds success moment) board.entries⟩

/-- The tallies of all strategies that have an entry, in their order. -/
def all (board : Scoreboard) : List (Strategy × Tally) :=
  board.entries

/-- The better of the best strategy so far and another one; the earlier one wins a tie, and a
strategy that has not been used does not count. -/
def better (board : Scoreboard) (best : Option (Strategy × Float)) (strategy : Strategy) :
    Option (Strategy × Float) :=
  match board.get? strategy with
  | none => best
  | some tally =>
    if tally.total = 0 then best
    else match best with
      | none => some (strategy, tally.score)
      | some (_, score) => if tally.score > score then some (strategy, tally.score) else best

/-- The best strategy, if any has been used. -/
def best (board : Scoreboard) : Option Strategy :=
  (Strategy.all.foldl board.better none).map (·.1)

end Scoreboard

end Triage
