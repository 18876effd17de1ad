/-
This file holds the classifiers: one that learns rules, one that learns cues, and one that blends
the two. A classifier holds what it has learned and whether it has been fitted. All of them forget
what they have learned when they are fitted again, refuse to answer before they are fitted for the
first time, and are scored in the same way. What is learned depends on the dialect of patterns, and a
classifier that has been fitted holds compiled patterns, so that it answers without one.
-/

import Triage.Learning.Blend
import Triage.Learning.RetryDecision

namespace Triage

variable [Pattern.Dialect]

/-! ### Algorithms -/

/-- How a classifier learns. -/
inductive Algorithm where
  | rules
  | cues
  | blend
  deriving DecidableEq, Repr

namespace Algorithm

/-- All algorithms, in their order. -/
def all : List Algorithm := [.rules, .cues, .blend]

/-- The name of an algorithm. -/
def name : Algorithm → String
  | .rules => "rule_based"
  | .cues => "pattern_based"
  | .blend => "hybrid"

/-- The algorithm with a name. -/
def ofName? (name : String) : Option Algorithm :=
  all.find? (·.name == name)

/-- The algorithm with a name, which has to be written exactly. -/
def parse (name : String) : Except Fault Algorithm :=
  match ofName? name with
  | some algorithm => .ok algorithm
  | none => .error (.unknownAlgorithm name)

/-- How a classifier is called that has no name of its own. -/
def defaultName (algorithm : Algorithm) : String :=
  s!"{algorithm.name}_classifier"

end Algorithm

/-! ### A classifier that learns rules -/

/-- A classifier that learns rules. -/
structure RuleClassifier where
  name : String
  library : List String := Rule.library
  rules : List Rule := []
  /-- The patterns of the library that are well formed. -/
  compiled : List Pattern := []
  isFitted : Bool := false

namespace RuleClassifier

/-- Forget all rules and patterns. -/
def clear (classifier : RuleClassifier) : RuleClassifier :=
  { classifier with rules := [], compiled := [] }

def compileLibrary (classifier : RuleClassifier) : RuleClassifier :=
  { classifier with compiled := classifier.compiled ++ Rule.compileAll classifier.library }

/-- The compiled pattern with a text. -/
def pattern? (classifier : RuleClassifier) (source : String) : Option Pattern :=
  classifier.compiled.find? (·.source == source)

/-- Add the rules that a set gives. -/
def addRules (classifier : RuleClassifier) (set : TrainingSet) : RuleClassifier :=
  let patterns := classifier.library.filterMap classifier.pattern?
  { classifier with rules := classifier.rules ++ Rule.learnUnsorted patterns set }

def sortRules (classifier : RuleClassifier) : RuleClassifier :=
  { classifier with rules := Rule.sort classifier.rules }

/-- Learn the rules that a set gives in place of those learned before. -/
def buildRules (classifier : RuleClassifier) (set : TrainingSet) : RuleClassifier :=
  (classifier.clear.compileLibrary.addRules set).sortRules

/-- Fit the classifier to a set, which has to be aligned. -/
def fit (classifier : RuleClassifier) (set : TrainingSet) : RuleClassifier × Except Fault Unit :=
  match set.check with
  | .error fault => (classifier, .error fault)
  | .ok () => ({ classifier.buildRules set with isFitted := true }, .ok ())

/-- Does the rule fire on a message? -/
def fires (classifier : RuleClassifier) (message : String) (rule : Rule) : Bool :=
  (classifier.pattern? rule.pattern).any (·.occursIn message)

def firing (classifier : RuleClassifier) (message : String) : List Rule :=
  classifier.rules.filter (classifier.fires message)

def predict (classifier : RuleClassifier) (message : String) : Except Fault Verdict :=
  if classifier.isFitted then .ok (Rule.judge (classifier.firing message) message)
  else .error (.notFitted classifier.name)

def probabilities (classifier : RuleClassifier) (message : String) : Except Fault Probabilities :=
  (classifier.predict message).map fun verdict =>
    Rule.probabilities verdict (classifier.firing message)

/-- The warnings about patterns that a fit finds to be malformed. -/
def warnings (classifier : RuleClassifier) : List String :=
  Rule.compileWarnings classifier.name classifier.library

end RuleClassifier

/-! ### A classifier that learns cues -/

/-- A classifier that learns cues. -/
structure CueClassifier where
  name : String
  table : List (ErrorType × List Cue) := []
  isFitted : Bool := false

namespace CueClassifier

/-- Fit the classifier to a set, which has to be aligned. -/
def fit (classifier : CueClassifier) (set : TrainingSet) : CueClassifier × Except Fault Unit :=
  match set.check with
  | .error fault => (classifier, .error fault)
  | .ok () => ({ classifier with table := Cue.learn set, isFitted := true }, .ok ())

def cuesFor (classifier : CueClassifier) (errorType : ErrorType) : List Cue :=
  ((classifier.table.find? (·.1 == errorType)).map (·.2)).getD []

def predict (classifier : CueClassifier) (message : String) : Except Fault Verdict :=
  if classifier.isFitted then .ok (Cue.judge classifier.table message)
  else .error (.notFitted classifier.name)

def probabilities (classifier : CueClassifier) (message : String) : Except Fault Probabilities :=
  if classifier.isFitted then .ok (Cue.probabilities classifier.table message)
  else .error (.notFitted classifier.name)

/-- The warnings about cues that the last fit has found to be malformed. -/
def warnings (classifier : CueClassifier) : List String :=
  classifier.table.flatMap fun (_, cues) =>
    (cues.filter (·.pattern?.isNone)).map fun cue => Rule.compileWarning classifier.name cue.source

end CueClassifier

/-! ### A classifier that learns both -/

/-- A classifier that learns rules and cues and blends their verdicts. -/
structure BlendClassifier where
  name : String
  ruleClassifier : RuleClassifier
  cueClassifier : CueClassifier
  isFitted : Bool := false

namespace BlendClassifier

/-- A new classifier; its parts are called after it. -/
def create (name : String) : BlendClassifier where
  name
  ruleClassifier := { name := s!"{name}_rule" }
  cueClassifier := { name := s!"{name}_pattern" }

/-- Fit one part after the other to a set; when the first one fails, the second one stays as it
is. -/
def fit (classifier : BlendClassifier) (set : TrainingSet) : BlendClassifier × Except Fault Unit :=
  -- What the parts come to is kept in any case; only the flag waits for both.
  let (ruleClassifier, result) := classifier.ruleClassifier.fit set
  match result with
  | .error fault => ({ classifier with ruleClassifier }, .error fault)
  | .ok () =>
    let (cueClassifier, result) := classifier.cueClassifier.fit set
    match result with
    | .error fault => ({ classifier with ruleClassifier, cueClassifier }, .error fault)
    | .ok () => ({ classifier with ruleClassifier, cueClassifier, isFitted := true }, .ok ())

def predict (classifier : BlendClassifier) (message : String) : Except Fault Verdict :=
  if classifier.isFitted then do
    let byRules ← classifier.ruleClassifier.predict message
    let byCues ← classifier.cueClassifier.predict message
    return Blend.verdict byRules byCues
  else .error (.notFitted classifier.name)

def probabilities (classifier : BlendClassifier) (message : String) : Except Fault Probabilities :=
  if classifier.isFitted then do
    let byRules ← classifier.ruleClassifier.probabilities message
    let byCues ← classifier.cueClassifier.probabilities message
    return Blend.probabilities byRules byCues
  else .error (.notFitted classifier.name)

end BlendClassifier

/-! ### Classifiers -/

inductive Classifier where
  | rules (classifier : RuleClassifier)
  | cues (classifier : CueClassifier)
  | blend (classifier : BlendClassifier)

namespace Classifier

def create (algorithm : Algorithm) (name : Option String) : Classifier :=
  let name := name.getD algorithm.defaultName
  match algorithm with
  | .rules => .rules { name }
  | .cues => .cues { name }
  | .blend => .blend (.create name)

/-- A new classifier for an algorithm that is given by its name. -/
def createByName (algorithm : String) (name : Option String) : Except Fault Classifier :=
  (Algorithm.parse algorithm).map fun algorithm => create algorithm name

def name : Classifier → String
  | rules classifier => classifier.name
  | cues classifier => classifier.name
  | blend classifier => classifier.name

/-- Has the classifier been fitted? -/
def isFitted : Classifier → Bool
  | rules classifier => classifier.isFitted
  | cues classifier => classifier.isFitted
  | blend classifier => classifier.isFitted

/-- The part that learns rules. -/
def rulePart? : Classifier → Option RuleClassifier
  | rules classifier => some classifier
  | cues _ => none
  | blend classifier => some classifier.ruleClassifier

/-- The part that learns cues. -/
def cuePart? : Classifier → Option CueClassifier
  | rules _ => none
  | cues classifier => some classifier
  | blend classifier => some classifier.cueClassifier

/-- Fit a classifier to a set; what it has learned before is forgotten. -/
def fit (classifier : Classifier) (set : TrainingSet) : Classifier × Except Fault Unit :=
  match classifier with
  | rules classifier => (classifier.fit set).map .rules id
  | cues classifier => (classifier.fit set).map .cues id
  | blend classifier => (classifier.fit set).map .blend id

/-- The warnings that the fit to the last set has brought. -/
def warnings (classifier : Classifier) : List String :=
  classifier.rulePart?.elim [] (·.warnings) ++ classifier.cuePart?.elim [] (·.warnings)

/-- The verdict about a message. -/
def predict (classifier : Classifier) (message : String) : Except Fault Verdict :=
  match classifier with
  | rules classifier => classifier.predict message
  | cues classifier => classifier.predict message
  | blend classifier => classifier.predict message

/-- The probabilities of the types of a message. -/
def probabilities (classifier : Classifier) (message : String) : Except Fault Probabilities :=
  match classifier with
  | rules classifier => classifier.probabilities message
  | cues classifier => classifier.probabilities message
  | blend classifier => classifier.probabilities message

/-! ### Scores -/

/-- Count the samples about which the verdict is right. -/
def countRight (classifier : Classifier) (samples : List (String × ErrorType)) : Except Fault Nat :=
  samples.foldlM (fun count (message, errorType) => do
    let verdict ← classifier.predict message
    return if verdict.errorType = errorType then count + 1 else count) 0

/-- The part of the messages of a set about which the verdict is right; none of an empty set. -/
def score (classifier : Classifier) (set : TrainingSet) : Except Fault Float := do
  if !classifier.isFitted then throw (.notFitted classifier.name)
  set.check
  if set.messages.isEmpty then return 0
  let count ← classifier.countRight set.samples
  return Float.ofNat count / Float.ofNat set.messages.length

end Classifier

end Triage
