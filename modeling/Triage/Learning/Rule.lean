/-
This file learns rules. A rule says that messages in which a pattern occurs are of a type; it is
learned for every pattern of a library that occurs in enough of the messages of the type, and its
confidence is the part of the messages in which it occurs. The rules with the greatest confidence
among those that fire decide about a message. When none fires, a table of keywords is consulted.

A rule names its pattern by the text of the pattern; whether it fires is found out with the compiled
patterns, which stand in a table of their own. The dialect of the patterns is given from outside.
-/

import Triage.Learning.Keyword
import Triage.Learning.TrainingSet
import Triage.Learning.Verdict
import Triage.Pattern.Dialect

namespace Triage

/-- Messages in which a pattern occurs are of a type. -/
structure Rule where
  /-- The text of the pattern. -/
  pattern : String
  errorType : ErrorType
  /-- The part of the messages of the type in which the pattern occurs. -/
  confidence : Float
  keywords : List String

namespace Rule

/-! ### The patterns that are tried -/

/-- The patterns that are tried unless others are given. -/
def library : List String := [
  "timeout|timed out|deadline exceeded",
  "connection.*reset|reset by peer",
  "network.*error|connection.*failed",
  "dns.*error|name resolution",
  "ssl.*error|tls.*error|certificate.*error",
  "auth.*failed|invalid.*credentials|unauthorized",
  "forbidden|access.*denied|permission.*denied",
  "not.*found|404|missing.*resource",
  "validation.*error|invalid.*input|bad.*request",
  "config.*error|configuration.*error",
  "file.*not.*found|no.*such.*file",
  "disk.*space|no.*space|device.*full",
  "rate.*limit|quota.*exceeded|throttle",
  "server.*error|500|internal.*error",
  "merge.*conflict|conflict.*github|conflict.*gitlab",
  "git.*error|local.*git",
  "ssh.*error|key.*error"]

section

variable [Pattern.Dialect]

/-- The patterns of a library that are well formed. -/
def compileAll (library : List String) : List Pattern :=
  library.filterMap Pattern.compile?

/-- The warning about a pattern that is not well formed. -/
def compileWarning (owner source : String) : String :=
  s!"{owner}: failed to compile pattern '{source}'"

/-- The warnings about the patterns of a library. -/
def compileWarnings (owner : String) (library : List String) : List String :=
  (library.filter fun source => (Pattern.compile? source).isNone).map (compileWarning owner)

end

/-! ### Learning -/

/-- The part of the messages in which a pattern has to occur. -/
def leastSupport : Float := 0.3

/-- The words that are no keywords of rules. -/
def stopwords : List String := ["error", "failed", "invalid"]

/-- Is a pattern that occurs in so many of the messages supported? -/
def isSupported (count total : Nat) : Bool :=
  count != 0 && !decide (Float.ofNat count < Float.ofNat total * leastSupport)

/-- The rule for a pattern and the messages of a type, if it is supported. -/
def learn? (errorType : ErrorType) (messages : List String) (pattern : Pattern) : Option Rule :=
  let count := messages.countP pattern.occursIn
  if isSupported count messages.length then
    some ⟨pattern.source, errorType, Float.ofNat count / Float.ofNat messages.length,
      Keyword.extract pattern.source stopwords⟩
  else none

/-- The rules for all types and patterns, type by type. -/
def learnUnsorted (patterns : List Pattern) (set : TrainingSet) : List Rule :=
  set.groups.flatMap fun (errorType, messages) => patterns.filterMap (learn? errorType messages)

/-- Rules with those of the greatest confidence first, and otherwise in their order. -/
def sort (rules : List Rule) : List Rule :=
  rules.mergeSort fun first second => second.confidence ≤ first.confidence

/-! ### Deciding -/

/-- How a rule is named as evidence. -/
def evidence (rule : Rule) : String :=
  s!"matched_pattern:{rule.pattern}"

/-- The keywords that decide when no rule fires, in the order in which they are tried. -/
def fallback : List (String × ErrorType) := [
  ("timeout", .timeoutError), ("network", .networkError), ("connection", .networkError),
  ("auth", .authenticationError), ("unauthorized", .authenticationError),
  ("forbidden", .authorizationError), ("permission", .permissionDeniedError),
  ("not found", .notFoundError), ("validation", .validationError),
  ("invalid", .invalidInputError), ("config", .configurationError),
  ("file", .fileNotFoundError), ("disk", .diskSpaceError), ("rate", .rateLimitError),
  ("server", .serverError), ("merge", .githubMergeConflict), ("git", .localGitError),
  ("ssh", .githubSshError)]

/-- The confidence of a verdict by keyword. -/
def fallbackConfidence : Float := 0.5

/-- What has been found so far that speaks for a type. -/
structure Finding where
  errorType? : Option ErrorType := none
  confidence : Float := 0
  path : List String := []
  matched : List String := []

namespace Finding

/-- The finding after one more rule that fires. A greater confidence gives another type, and an
equal one is more evidence for the type that has been found. -/
def add (finding : Finding) (rule : Rule) : Finding :=
  if finding.confidence < rule.confidence then
    ⟨some rule.errorType, rule.confidence, [rule.evidence], [rule.pattern]⟩
  else if finding.errorType?.isSome && rule.confidence == finding.confidence then
    { finding with
      path := finding.path ++ [rule.evidence]
      matched := finding.matched ++ [rule.pattern] }
  else finding

/-- The finding, or when there is none the first keyword that occurs in the message. -/
def orKeyword (finding : Finding) (message : String) : Finding :=
  if finding.errorType?.isSome then finding
  else match fallback.find? fun entry => Keyword.occursIn entry.1 message with
    | some (keyword, errorType) =>
      ⟨some errorType, fallbackConfidence, [s!"keyword_match:{keyword}"], [keyword]⟩
    | none => finding

/-- The verdict that a finding leads to. -/
def verdict (finding : Finding) : Verdict :=
  .ofType? finding.errorType? finding.confidence finding.path finding.matched

end Finding

/-- The verdict about a message on which some rules fire. -/
def judge (firing : List Rule) (message : String) : Verdict :=
  ((firing.foldl Finding.add {}).orKeyword message).verdict

end Rule

/-! ### Probabilities -/

/-- How sure a classifier is of each type; no type stands twice. -/
abbrev Probabilities := List (ErrorType × Float)

namespace Probabilities

/-- The probability of a type, if it has one. -/
def get? (probabilities : Probabilities) (errorType : ErrorType) : Option Float :=
  (probabilities.find? (·.1 == errorType)).map (·.2)

/-- Raise the probability of a type to a value, unless it is greater already. -/
def raise (errorType : ErrorType) (value : Float) : Probabilities → Probabilities
  | [] => [(errorType, value)]
  | (other, held) :: rest =>
    if other = errorType then (other, if value > held then value else held) :: rest
    else (other, held) :: raise errorType value rest

end Probabilities

/-- The probabilities that go with a verdict about a message on which some rules fire: those of the
verdict and of all these rules. -/
def Rule.probabilities (verdict : Verdict) (firing : List Rule) : Probabilities :=
  firing.foldl (fun probabilities rule => probabilities.raise rule.errorType rule.confidence)
    [(verdict.errorType, verdict.confidence)]

end Triage
