/-
This file holds the program. It reads the variables and the files that a command needs, writes what
comes of the command, and ends as the command ends.
-/

import Triage.Command.Outcome

open Triage

/-- The bytes of a file, if it can be read. -/
def readBytes (path : String) : IO (Option ByteArray) := do
  try
    return some (← IO.FS.readBinFile path)
  catch _ =>
    return none

/-- The names of the files that arguments ask for. -/
def filesOf (arguments : List String) : List String :=
  match Command.ofArguments arguments with
  | .ok (.classify _ training _ _) => [training]
  | .ok (.score training test _) => [training, test]
  | _ => []

/-- The variables that settings are read from. -/
def variableNames : List String :=
  ["MAX_CONCURRENT_REQUESTS", "DEFAULT_MIXING_STRATEGY", "CLASSIFIER_ALGORITHM"]

/-- Carry out the command that the arguments give. -/
def main (arguments : List String) : IO UInt32 := do
  let values ← variableNames.mapM fun name => return (name, ← IO.getEnv name)
  let files ← (filesOf arguments).mapM fun path => return (path, ← readBytes path)
  let surroundings : Surroundings := {
    setting? := fun name => (values.find? (·.1 == name)).bind (·.2)
    file? := fun path => (files.find? (·.1 == path)).bind (·.2) }
  let outcome := Command.run arguments surroundings
  IO.print outcome.output
  match outcome.problem with
  | some problem => IO.eprintln problem
  | none => pure ()
  return UInt32.ofNat outcome.exitCode
