/-
This file blends the verdicts of rules and of cues. The one that is more sure gives the type, and
cues win a tie; the confidence is a weighted sum of both, and all evidence and advice is kept, that
of the winner first.
-/

import Triage.Learning.Cue

namespace Triage.Blend

/-- The weight of rules. -/
def ruleWeight : Float := 0.4

/-- The weight of cues. -/
def cueWeight : Float := 0.6

/-- The blend of the confidences of rules and of cues. -/
def confidence (byRules byCues : Float) : Float :=
  byRules * ruleWeight + byCues * cueWeight

/-- A verdict with the evidence and the advice of another one behind its own. -/
def extend (winner other : Verdict) (confidence : Float) : Verdict where
  errorType := winner.errorType
  confidence
  metadata := winner.metadata.orElse other.metadata
  path := winner.path ++ other.path
  matched := winner.matched ++ other.matched
  actions := winner.actions ++ other.actions

/-- The blend of two verdicts. -/
def verdict (byRules byCues : Verdict) : Verdict :=
  let confidence := confidence byRules.confidence byCues.confidence
  if byRules.confidence > byCues.confidence then extend byRules byCues confidence
  else extend byCues byRules confidence

/-- The blend of two lists of probabilities; a type that is missing from one of them counts as
impossible there. -/
def probabilities (byRules byCues : Probabilities) : Probabilities :=
  let onlyByCues := byCues.filter fun entry => (byRules.get? entry.1).isNone
  (byRules ++ onlyByCues).map fun (errorType, _) =>
    (errorType, confidence ((byRules.get? errorType).getD 0) ((byCues.get? errorType).getD 0))

end Triage.Blend
