/-
This file says in which order a strategy asks the models of an ensemble. The models are divided
into stages: those of one stage are asked at once, and a stage opens when all stages before it
have ended. A cascade is chained: it puts the latest result before the task, and it stops at the
first failure.
-/

import Triage.Ensemble.Model
import Triage.Ensemble.Strategy

namespace Triage

/-- Put a model into the group of its tag, or open a new group at the end. -/
def addToGroup (tag : String) (model : Model) :
    List (String × List Model) → List (String × List Model)
  | [] => [(tag, [model])]
  | (other, group) :: rest =>
    if other = tag then (other, group ++ [model]) :: rest
    else (other, group) :: addToGroup tag model rest

/-- The models that are specialized, in groups by what they are specialized for. The groups stand
in the order in which their tags are first seen. -/
def specializedGroups (models : List Model) : List (String × List Model) :=
  models.foldl (fun groups model =>
    match model.specialization with
    | some tag => addToGroup tag model groups
    | none => groups) []

/-- The models that are not specialized. -/
def generalModels (models : List Model) : List Model :=
  models.filter (·.specialization.isNone)

namespace Strategy

/-- The stages in which a strategy asks models. -/
def stages (strategy : Strategy) (models : List Model) : List (List Model) :=
  match strategy with
  | .parallel | .voting | .weighted => [models]
  | .sequential | .cascade => models.map fun model => [model]
  | .hierarchical =>
    (specializedGroups models).map (·.2) ++ (generalModels models).map fun model => [model]

/-- Does every result go into the next prompt, and does a failure end the batch? -/
def isChained : Strategy → Bool
  | .cascade => true
  | _ => false

end Strategy

/-- The prompt that puts a result before the task. -/
def chainedPrompt (content task : String) : String :=
  s!"Previous result: {content}\n\nOriginal task: {task}"

end Triage
