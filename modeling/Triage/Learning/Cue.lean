/-
This file learns cues. A cue is a phrase or a general signal that occurs in the messages of a type.
The cues of a type that occur in a message are added up, and the type with the greatest sum
decides. A phrase is two to four words of a message in lower case, and it is learned when it stands
in enough of the messages of the type; a signal is learned when it occurs in any of them, and
counts less.
-/

import Triage.Learning.Rule
import Triage.Text.Blank

namespace Triage

/-- A pattern that speaks for a type. -/
structure Cue where
  /-- The text of the pattern. -/
  source : String
  confidence : Float
  keywords : List String
  /-- The compiled pattern, if the text is well formed. -/
  pattern? : Option Pattern

namespace Cue

/-! ### Phrases -/

/-- The number of characters that a phrase exceeds. -/
def shortLength : Nat := 5

/-- How many words a phrase has. -/
def phraseLengths : List Nat := [2, 3, 4]

/-- Words with a blank between them. -/
def join (words : List (List Char)) : List Char :=
  List.intercalate [' '] words

/-- The phrases that begin with the first word, short ones included. -/
def phrasesAtStart (words : List (List Char)) : List (List Char) :=
  (phraseLengths.filter (· ≤ words.length)).map fun count => join (words.take count)

/-- The phrases in a list of words, by the place of their first word, short ones included. -/
def phrasesFrom : List (List Char) → List (List Char)
  | [] => []
  | word :: rest => phrasesAtStart (word :: rest) ++ phrasesFrom rest

/-- The words of a message in lower case. -/
def wordsOf (message : String) : List (List Char) :=
  Text.words (Text.lowerAll [] message.toList)

/-- The phrases of a message, each of them once, in the order in which they first occur. -/
def phrasesOf (message : String) : List (List Char) :=
  ((phrasesFrom (wordsOf message)).filter (shortLength < ·.length)).eraseDups

/-- Count one more message with a phrase. -/
def addPhrase (phrase : List Char) : List (List Char × Nat) → List (List Char × Nat)
  | [] => [(phrase, 1)]
  | (other, count) :: rest =>
    if other = phrase then (other, count + 1) :: rest
    else (other, count) :: addPhrase phrase rest

/-- In how many of the messages every phrase occurs, in the order in which they first occur. -/
def phraseCounts (messages : List String) : List (List Char × Nat) :=
  (messages.flatMap phrasesOf).foldl (fun counts phrase => addPhrase phrase counts) []

/-! ### Signals -/

/-- The general signals, with the weight of each. -/
def signals : List (String × Float) := [
  (r"\d{3}", 0.1),
  ("error|failed|exception", 0.2),
  ("timeout|timed out", 0.3),
  ("connection.*reset", 0.4),
  ("permission.*denied", 0.5),
  ("not.*found", 0.4),
  ("invalid.*input", 0.3)]

/-! ### Learning -/

/-- The part of the messages in which a phrase has to stand. -/
def leastFrequency : Float := 0.3

/-- The words that are no keywords of cues. -/
def stopwords : List String := ["error", "failed"]

/-- Is a phrase in so many of the messages frequent enough? -/
def isFrequent (count total : Nat) : Bool :=
  Float.ofNat total * leastFrequency ≤ Float.ofNat count

section

variable [Pattern.Dialect]

/-- The cue with the text of a pattern. -/
def ofSource (source : String) (confidence : Float) : Cue :=
  ⟨source, confidence, Keyword.extract source stopwords, Pattern.compile? source⟩

/-- The cues that are phrases. -/
def learnPhrases (messages : List String) : List Cue :=
  ((phraseCounts messages).filter fun (_, count) => isFrequent count messages.length).map
    fun (phrase, count) => ofSource (Pattern.quote (String.ofList phrase))
      (Float.ofNat count / Float.ofNat messages.length)

/-- The cue for a signal, if it occurs in any of the messages. -/
def learnSignal? (messages : List String) (signal : String × Float) : Option Cue := do
  let pattern ← Pattern.compile? signal.1
  let count := messages.countP pattern.occursIn
  if count = 0 then none
  else some (ofSource signal.1 (Float.ofNat count / Float.ofNat messages.length * signal.2))

/-- The cues that are signals. -/
def learnSignals (messages : List String) : List Cue :=
  signals.filterMap (learnSignal? messages)

/-- The cues for the messages of one type. -/
def learnFrom (messages : List String) : List Cue :=
  learnPhrases messages ++ learnSignals messages

/-- The cues for every type, with the types in the order in which they are first seen. -/
def learn (set : TrainingSet) : List (ErrorType × List Cue) :=
  set.groups.map fun (errorType, messages) => (errorType, learnFrom messages)

end

/-! ### Deciding -/

/-- Does the cue occur in a message? -/
def fires (cue : Cue) (message : String) : Bool :=
  cue.pattern?.any (·.occursIn message)

/-- A type with the cues for it that occur in a message. -/
structure Support where
  errorType : ErrorType
  cues : List Cue

/-- The sum of the confidences. -/
def Support.total (support : Support) : Float :=
  support.cues.foldl (fun total cue => total + cue.confidence) 0

/-- The types with the cues for them that occur in a message. -/
def supports (table : List (ErrorType × List Cue)) (message : String) : List Support :=
  table.map fun (errorType, cues) => ⟨errorType, cues.filter (·.fires message)⟩

/-- A sum of confidences as a confidence, which is at most one. -/
def capped (total : Float) : Float :=
  if 1 < total then 1 else total

/-- The sum of the best support so far. -/
def bestTotal (best : Option Support) : Float :=
  (best.map (·.total)).getD 0

/-- The better of the best support so far and another one; the earlier one wins a tie. -/
def better (best : Option Support) (support : Support) : Option Support :=
  if bestTotal best < support.total then some support else best

/-- How a cue is named as evidence. -/
def evidence (cue : Cue) : String :=
  s!"pattern_match:{cue.source}"

/-- The verdict of cues. Without any cue the error is of the unknown type. -/
def judge (table : List (ErrorType × List Cue)) (message : String) : Verdict :=
  match (supports table message).foldl better none with
  | some support => .ofType? support.errorType (capped support.total)
      (support.cues.map evidence) (support.cues.map (·.source))
  | none => .ofType? (some .unknownError) 0 [] []

/-- The probabilities of cues: those of all types that have any support. -/
def probabilities (table : List (ErrorType × List Cue)) (message : String) : Probabilities :=
  ((supports table message).filter fun support => 0 < support.total).map fun support =>
    (support.errorType, capped support.total)

end Cue

end Triage
