/-
This file reads the settings of the program from variables. A limit that is not a whole number of
64 bits counts as missing; one that no gate can have is refused.
-/

import Triage.Ensemble.Engine
import Triage.Learning.Classifier

namespace Triage

/-- The settings of the program. -/
structure Settings where
  /-- How many calls may be under way at once. -/
  concurrency : Nat
  strategy : Strategy
  algorithm : Algorithm

namespace Settings

/-- The limit when none is given. -/
def defaultConcurrency : Nat := 10

/-- One more than the greatest number of 64 bits. -/
def wordBound : Nat := UInt64.size

/-- The number that digits write, with a plus sign before them or without, if 64 bits hold it. -/
def readCount? (text : String) : Option Nat :=
  let digits := match text.toList with
    | '+' :: rest => rest
    | digits => digits
  let number := digits.foldl (fun number digit => number * 10 + (digit.toNat - 48)) 0
  if !digits.isEmpty && digits.all (·.isDigit) && decide (number < wordBound) then some number
  else none

/-- The limit that a variable gives. -/
def readConcurrency (value : Option String) : Nat :=
  (value.bind readCount?).getD defaultConcurrency

/-- The fault of a limit that no gate can have. -/
def concurrencyFault : Fault :=
  .settings s!"MAX_CONCURRENT_REQUESTS must be between 1 and {largestCapacity}"

/-- The fault of a variable, given the fault of its value. -/
def variableFault (name : String) (fault : Fault) : Fault :=
  .settings s!"{name}: {fault.message}"

/-- The settings that variables give. -/
def ofVariables (setting? : String → Option String) : Except Fault Settings := do
  let concurrency := readConcurrency (setting? "MAX_CONCURRENT_REQUESTS")
  if concurrency = 0 ∨ largestCapacity < concurrency then throw concurrencyFault
  let strategy ← (Strategy.parse ((setting? "DEFAULT_MIXING_STRATEGY").getD "parallel")).mapError
    (variableFault "DEFAULT_MIXING_STRATEGY")
  let algorithm ← (Algorithm.parse ((setting? "CLASSIFIER_ALGORITHM").getD "hybrid")).mapError
    (variableFault "CLASSIFIER_ALGORITHM")
  return ⟨concurrency, strategy, algorithm⟩

/-- The settings for an engine. -/
def engineSettings (settings : Settings) : EngineSettings :=
  ⟨settings.concurrency, settings.strategy⟩

end Settings

end Triage
