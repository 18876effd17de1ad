/-
This file holds the engine that answers prompts with ensembles. All batches of an engine share one
gate, and each of them is counted on the scoreboard when it has ended: as a success if it brought
any reply. A batch whose strategy is given by an unknown name does not run and is not counted.
-/

import Triage.Ensemble.Run
import Triage.Ensemble.Scoreboard

namespace Triage

/-- The largest number of permits that a gate can have. -/
def largestCapacity : Nat := 2305843009213693951

/-- What is wanted of an engine. -/
structure EngineSettings where
  /-- How many calls may be under way at once. -/
  concurrency : Nat
  defaultStrategy : Strategy

/-- An engine with the state that it keeps between batches. -/
structure Engine where
  settings : EngineSettings
  providers : Providers
  gate : Gate
  board : Scoreboard := .empty
  /-- The milliseconds that have passed since the engine was made. -/
  now : Nat := 0

/-- What a clock outside the engine says about a batch: the seconds that it took, and when it
ended. -/
structure Timing where
  elapsed : Float
  moment : Timestamp

namespace Engine

/-- The number of permits for a wanted one: the nearest that a gate can have. -/
def capacityFor (concurrency : Nat) : Nat :=
  max 1 (min concurrency largestCapacity)

/-- A new engine. -/
def create (providers : Providers) (settings : EngineSettings) : Engine where
  settings
  providers
  gate := .withPermits (capacityFor settings.concurrency)

/-- The warning about a wanted number of permits that a gate cannot have. -/
def capacityWarning? (settings : EngineSettings) : Option String :=
  let capacity := capacityFor settings.concurrency
  if capacity = settings.concurrency then none
  else some s!"Concurrency limit {settings.concurrency} out of range, using {capacity}"

/-- The run of batches that are started together. -/
def runOf (engine : Engine) (batches : List Batch) : Run :=
  (Run.start engine.providers engine.gate engine.now batches).complete

/-- Did a batch bring any reply? -/
def isSuccess (slots : List (Option Reply)) : Bool :=
  slots.any (·.isSome)

/-- Count batches that have ended, given the number of the first of them. -/
def countFrom (board : Scoreboard) (run : Run) (timing : Timing) (number : Nat) :
    List Batch → Scoreboard
  | [] => board
  | batch :: rest =>
    countFrom (board.record batch.strategy timing.elapsed (isSuccess (run.results number))
      timing.moment) run timing (number + 1) rest

/-- Start batches together and wait until all of them have ended. -/
def together (engine : Engine) (batches : List Batch) (timing : Timing) : Run × Engine :=
  let run := engine.runOf batches
  (run, { engine with
    gate := run.gate
    board := countFrom engine.board run timing 0 batches
    now := run.now })

/-- Run one batch. -/
def mix (engine : Engine) (strategy : Strategy) (models : List Model) (prompt : String)
    (timing : Timing) : Run × Engine :=
  engine.together [⟨strategy, models, prompt⟩] timing

/-- Run one batch under a strategy given by its name. -/
def mixByName (engine : Engine) (name : String) (models : List Model) (prompt : String)
    (timing : Timing) : Except Fault (Run × Engine) :=
  (Strategy.parse name).map fun strategy => engine.mix strategy models prompt timing

/-- Run one batch under the default strategy. -/
def mixDefault (engine : Engine) (models : List Model) (prompt : String) (timing : Timing) :
    Run × Engine :=
  engine.mix engine.settings.defaultStrategy models prompt timing

/-- Forget the use of all strategies. -/
def reset (engine : Engine) : Engine :=
  { engine with board := .empty }

end Engine

end Triage
