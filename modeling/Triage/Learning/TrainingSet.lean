/-
This file holds labelled messages, from which classifiers learn and by which they are scored. The
messages, their types, their contexts and their labels are columns: what stands at one place in
each of them belongs together. A set is aligned when there is a type for every message, and when
contexts and labels are either missing or there for every message too.
-/

import Triage.Policy

namespace Triage

/-- Labelled messages. -/
structure TrainingSet where
  messages : List String
  errorTypes : List ErrorType
  contexts : List Json.Members := []
  labels : List String := []

/-- What is wrong with columns that do not belong together. -/
inductive Misalignment where
  | errorTypes (messages count : Nat)
  | contexts (messages count : Nat)
  | labels (messages count : Nat)
  deriving DecidableEq, Repr

/-- What is wrong, in words. -/
def Misalignment.message : Misalignment → String
  | errorTypes messages count => s!"{messages} messages but {count} error types"
  | contexts messages count => s!"{messages} messages but {count} contexts"
  | labels messages count => s!"{messages} messages but {count} labels"

namespace TrainingSet

/-! ### Alignment -/

/-- Is a column there that is not as long as it should be? -/
def isAstray (column length : Nat) : Bool :=
  column != 0 && column != length

/-- The first thing that is wrong with the columns. -/
def misalignment? (set : TrainingSet) : Option Misalignment :=
  let count := set.messages.length
  if set.errorTypes.length ≠ count then some (.errorTypes count set.errorTypes.length)
  else if isAstray set.contexts.length count then some (.contexts count set.contexts.length)
  else if isAstray set.labels.length count then some (.labels count set.labels.length)
  else none

/-- Check a set. -/
def check (set : TrainingSet) : Except Fault Unit :=
  match set.misalignment? with
  | some misalignment => .error (.invalidTraining misalignment.message)
  | none => .ok ()

/-! ### Reading -/

/-- A set in a JSON text. -/
def reading : Json.Reading TrainingSet := fun nesting tree => do
  let fields ←
    Json.Fields.read? ["error_messages", "error_types", "contexts", "labels"] nesting tree
  return {
    messages := ← fields.required "error_messages" (.list .text)
    errorTypes := ← fields.required "error_types" (.list ErrorType.reading)
    contexts := ← fields.orElse "contexts" (.list .members) []
    labels := ← fields.orElse "labels" (.list .text) [] }

/-- The set that a JSON text describes, if it is aligned. -/
def ofJson (text : String) : Except Fault TrainingSet :=
  match reading.run? text with
  | none => .error .malformedJson
  | some set => set.check.map fun () => set

/-- The set that the bytes of a file describe; without a file there are none. -/
def ofFile (bytes : Option ByteArray) : Except Fault TrainingSet :=
  match bytes with
  | none => .error (.io "No such file or directory (os error 2)")
  | some bytes => match String.fromUTF8? bytes with
    | none => .error (.io "stream did not contain valid UTF-8")
    | some text => ofJson text

/-! ### Messages by type -/

/-- The messages with their types. -/
def samples (set : TrainingSet) : List (String × ErrorType) :=
  set.messages.zip set.errorTypes

/-- Put a message into the group of its type, or open a new group at the end. -/
def addToGroup (message : String) (errorType : ErrorType) :
    List (ErrorType × List String) → List (ErrorType × List String)
  | [] => [(errorType, [message])]
  | (other, group) :: rest =>
    if other = errorType then (other, group ++ [message]) :: rest
    else (other, group) :: addToGroup message errorType rest

/-- The messages of every type, with the types in the order in which they are first seen. -/
def groups (set : TrainingSet) : List (ErrorType × List String) :=
  set.samples.foldl (fun groups sample => addToGroup sample.1 sample.2 groups) []

end TrainingSet

end Triage
