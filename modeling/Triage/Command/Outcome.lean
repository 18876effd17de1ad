/-
This file carries out commands. Settings and files are given from outside, and what a command
writes and how it ends is returned, so that nothing is read or written here.
-/

import Triage.Command.Arguments
import Triage.Json.Writer
import Triage.Pattern.Compiled
import Triage.Settings

namespace Triage

/-! ### Sorted JSON -/

mutual

/-- A value with the members of all objects in the order of their keys. -/
def Json.sorted : Json → Json
  | .array items => .array (Json.sortedItems items)
  | .object members => .object (Json.Members.ofList (Json.sortedMembers members))
  | value => value

/-- Items with the members of all objects in order. -/
def Json.sortedItems : List Json → List Json
  | [] => []
  | item :: rest => item.sorted :: Json.sortedItems rest

/-- Members with the members of all objects inside them in order. -/
def Json.sortedMembers : List (String × Json) → List (String × Json)
  | [] => []
  | (key, value) :: rest => (key, value.sorted) :: Json.sortedMembers rest

end

/-! ### Outcomes -/

/-- What comes of a command. -/
structure Outcome where
  exitCode : Nat
  output : String
  /-- What went wrong, if anything. -/
  problem : Option String

namespace Outcome

/-- Everything went well. -/
def success (output : String) : Outcome := ⟨0, output, none⟩

/-- Something went wrong. -/
def failure (problem : String) : Outcome := ⟨1, "", some problem⟩

end Outcome

/-- Where settings and files come from. -/
structure Surroundings where
  setting? : String → Option String
  /-- The bytes of a file, if it can be read. -/
  file? : String → Option ByteArray

namespace Command

/-- The training set in a file. -/
def load (surroundings : Surroundings) (path : String) : Except String TrainingSet :=
  (TrainingSet.ofFile (surroundings.file? path)).mapError fun _ =>
    s!"Failed to load training data from {path}"

/-- The classifier that a command asks for, fitted to the training set in a file. -/
def fitted (surroundings : Surroundings) (settings : Settings) (algorithm : Option String)
    (training : String) : Except String Classifier := do
  let name := algorithm.getD settings.algorithm.name
  let classifier ← (Classifier.createByName name none).mapError (·.message)
  let (fitted, result) := classifier.fit (← load surroundings training)
  result.mapError (·.message)
  return fitted

/-- A verdict with the decision that follows from it, in JSON. -/
def jsonText (verdict : Verdict) : String :=
  let value : Json := .object [
    ("result", verdict.toJson), ("classification", (RetryDecision.ofVerdict verdict).toJson)]
  value.sorted.renderIndented

/-- A text with blanks behind it, up to a width. -/
def column (width : Nat) (text : String) : String :=
  text ++ String.ofList (List.replicate (width - text.length) ' ')

/-- The line about an error type. -/
def errorTypeLine (errorType : ErrorType) : String :=
  let policy := errorType.policy
  let retry := if policy.isRetryable then
      let delay := Number.plainText policy.retryDelay
      s!"retry {policy.maxRetries.toNat}x after {delay}s"
    else "no retry"
  " ".intercalate [column 32 errorType.id, column 15 policy.category.name,
    column 9 policy.severity.name, retry] ++ "\n"

/-- The lines about the strategies. -/
def strategyLines (settings : Settings) : String :=
  s!"Concurrency limit: {settings.concurrency} requests " ++
    s!"(default strategy: {settings.strategy.name})\n" ++
    String.join (Strategy.all.map fun strategy =>
      let mark := if strategy = settings.strategy then " *" else ""
      s!"  - {strategy.name}{mark}\n")

/-- What a command writes, given the settings of the program. -/
def output (command : Command) (surroundings : Surroundings) (settings : Settings) :
    Except String String :=
  match command with
  | classify message training algorithm format => do
    let classifier ← fitted surroundings settings algorithm training
    let verdict ← (classifier.predict message).mapError (·.message)
    return (if format = "json" then jsonText verdict else verdict.toText) ++ "\n"
  | score training test algorithm => do
    let classifier ← fitted surroundings settings algorithm training
    let set ← load surroundings test
    let accuracy ← (classifier.score set).mapError (·.message)
    let hundredths := Number.fixedText 1 (accuracy * 100)
    return s!"{classifier.name}: accuracy {hundredths}% over {set.messages.length} samples\n"
  | strategies => .ok (strategyLines settings)
  | errorTypes none => .ok (String.join ((Catalogue.listed none).map errorTypeLine))
  | errorTypes (some name) => match Category.ofText? name with
    | some category => .ok (String.join ((Catalogue.listed (some category)).map errorTypeLine))
    | none => .error s!"Unknown error category: {name}"

/-- What the program is called, with its version. -/
def versionLine : String := "sreagent 0.1.0\n"

/-- How the program is used. -/
def helpText : String :=
  "Usage: sreagent <COMMAND>\n\nCommands:\n" ++
    "  classify     Train a classifier and classify a single error message\n" ++
    "  score        Train a classifier and report its accuracy on a labelled test set\n" ++
    "  strategies   List supported mixing strategies\n" ++
    "  error-types  List registered error types\n"

/-- Carry out what the arguments ask for. -/
def run (arguments : List String) (surroundings : Surroundings) : Outcome :=
  match ofArguments arguments with
  | .error .usage => ⟨2, "", some "error: unusable arguments"⟩
  | .error .help => .success helpText
  | .error .version => .success versionLine
  | .ok command => match Settings.ofVariables surroundings.setting? with
    | .error fault => .failure s!"Error: {fault.message}"
    | .ok settings => match command.output surroundings settings with
      | .error problem => .failure s!"Error: {problem}"
      | .ok output => .success output

end Command

end Triage
