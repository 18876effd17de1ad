/-
This file proves what is learned for a type. The cues of a type are those of its frequent phrases, in
the order in which the phrases are first met, and then those of the general signals that occur in its
messages, in the order of the signals. All of it can be told from the messages of the type alone: which
phrase stands in how many of them, and which signal occurs in how many. No two of these cues have the
same text, since quoting keeps phrases apart from each other and from the signals, and so no message
can count a text twice for the same type.
-/

import Triage.Proofs.Learning.Phrases
import Triage.Proofs.Learning.Support

namespace Triage

theorem Pattern.any_compile?_iff [Pattern.Dialect] (source message : String) :
    (compile? source).any (·.occursIn message) = true ↔ sourceOccursIn source message :=
  Option.any_eq_true _ _

instance [Pattern.Dialect] (source message : String) : Decidable (Pattern.sourceOccursIn source message) :=
  decidable_of_iff _ (Pattern.any_compile?_iff source message)

/-- There are messages of every type in the data. -/
theorem TrainingSet.HasEvenColumns.messagesOf_ne_nil {set : TrainingSet} (even : set.HasEvenColumns)
    {errorType : ErrorType} (listed : errorType ∈ set.errorTypes) : set.messagesOf errorType ≠ [] := by
  rw [← even.samples_errorTypes] at listed
  obtain ⟨sample, sampled, rfl⟩ := List.mem_map.mp listed
  exact List.ne_nil_of_mem
    (List.mem_map_of_mem (List.mem_filter.mpr ⟨sampled, decide_eq_true rfl⟩))

namespace Cue

/-! ### Phrases that are learned -/

/-- The phrases that stand in enough of the messages, in the order in which they are first met. -/
def frequentPhrases (messages : List String) : List (List Char) :=
  ((phraseCounts messages).filter fun (_, count) => isFrequent count messages.length).map (·.1)

theorem mem_frequentPhrases {messages : List String} {phrase : List Char} :
    phrase ∈ frequentPhrases messages ↔
      5 < phrase.length ∧ (∃ message ∈ messages, StandsIn message phrase) ∧
        Float.ofNat messages.length * 0.3 ≤ Float.ofNat (messages.countP (StandsIn · phrase)) := by
  unfold frequentPhrases
  simp only [List.mem_map, List.mem_filter, Prod.exists, exists_and_right, exists_eq_right]
  constructor
  · rintro ⟨count, counted, frequent⟩
    obtain ⟨long, stands, rfl⟩ := mem_phraseCounts.mp counted
    exact ⟨long, stands, of_decide_eq_true frequent⟩
  · rintro ⟨long, stands, frequent⟩
    exact ⟨_, mem_phraseCounts.mpr ⟨long, stands, rfl⟩, decide_eq_true frequent⟩

theorem frequentPhrases_sublist (messages : List String) :
    (frequentPhrases messages).Sublist ((phraseCounts messages).map (·.1)) :=
  List.filter_sublist.map _

theorem nodup_frequentPhrases (messages : List String) : (frequentPhrases messages).Nodup := by
  refine List.Nodup.sublist (frequentPhrases_sublist messages) ?_
  rw [map_fst_phraseCounts]
  exact Table.nodup_eraseDups _

theorem pairwise_frequentPhrases (messages : List String) :
    (frequentPhrases messages).Pairwise fun one two =>
      ∃ first second : Place, first.IsFirst messages one ∧ second.IsFirst messages two ∧
        first.Precedes second := by
  refine List.Pairwise.sublist (frequentPhrases_sublist messages) ?_
  rw [map_fst_phraseCounts_eq]
  refine (Table.pairwise_isFirst ((pairwise_entries messages).filter _)).imp ?_
  rintro one two ⟨first, second, isFirst, isSecond, earlier⟩
  exact ⟨first, second, isFirst_of_isFirst_entries isFirst, isFirst_of_isFirst_entries isSecond,
    earlier⟩

theorem learnPhrases_eq [Pattern.Dialect] (messages : List String) :
    learnPhrases messages = (frequentPhrases messages).map fun phrase =>
      ofPhrase messages phrase (messages.countP (StandsIn · phrase)) := by
  unfold learnPhrases frequentPhrases
  rw [List.map_map]
  refine List.map_congr_left ?_
  rintro ⟨phrase, count⟩ kept
  obtain ⟨-, -, rfl⟩ := mem_phraseCounts.mp (List.mem_of_mem_filter kept)
  rfl

/-! ### Signals that are learned -/

/-- In how many of the messages a signal occurs. -/
def occurrences [Pattern.Dialect] (messages : List String) (signal : String × Float) : Nat :=
  messages.countP (Pattern.sourceOccursIn signal.1)

/-- The cue that a signal is made when it is learned from messages. -/
def ofSignal [Pattern.Dialect] (messages : List String) (signal : String × Float) : Cue :=
  ofSource signal.1
    (Float.ofNat (occurrences messages signal) / Float.ofNat messages.length * signal.2)

theorem learnSignal?_eq [Pattern.Dialect] (messages : List String) (signal : String × Float) :
    learnSignal? messages signal =
      if 1 ≤ occurrences messages signal then some (ofSignal messages signal) else none := by
  have counted : occurrences messages signal =
      messages.countP fun message => (Pattern.compile? signal.1).any (·.occursIn message) :=
    List.countP_congr fun message _ => by
      rw [decide_eq_true_iff, Pattern.any_compile?_iff]
  unfold learnSignal? ofSignal
  rw [counted]
  cases Pattern.compile? signal.1 with
  | none =>
    have never : messages.countP (fun message => (none : Option Pattern).any (·.occursIn message)) = 0 :=
      List.countP_eq_zero.mpr fun _ _ => Bool.false_ne_true
    rw [never]
    rfl
  | some pattern =>
    show (if messages.countP pattern.occursIn = 0 then none else some _) =
      if 1 ≤ messages.countP pattern.occursIn then some _ else none
    simp only [Nat.one_le_iff_ne_zero, ne_eq, ite_not]
    rfl

theorem learnSignals_eq [Pattern.Dialect] (messages : List String) :
    learnSignals messages =
      (signals.filter fun signal => 1 ≤ occurrences messages signal).map (ofSignal messages) := by
  unfold learnSignals
  rw [← List.filterMap_eq_map, List.filterMap_filter]
  refine List.filterMap_congr fun signal _ => ?_
  simp only [learnSignal?_eq, decide_eq_true_eq, Function.comp_apply]

end Cue

namespace CueClassifier

/-- What a classifier has learned from a valid set. For a type in the data there is a cue for each phrase
of more than five characters that stands in enough of the messages of the type, with the part of the
messages in which it stands as its confidence; these cues are in the order in which the phrases are first
met. Behind them there is a cue for each signal that occurs in any of the messages, with the part of the
messages in which it occurs times its weight; these are in the order of the signals. No two cues of a type
have the same text, so that on no message a text counts twice for a type. For all other types there are no
cues. -/
theorem phrases_and_signals_learned [Pattern.Dialect] (classifier : CueClassifier) {set : TrainingSet}
    (valid : set.IsValid) :
    let fitted := (classifier.fit set).1
    (classifier.fit set).2 = .ok () ∧
      (∀ errorType ∉ set.errorTypes, fitted.cuesFor errorType = []) ∧
      ∀ errorType ∈ set.errorTypes,
        let messages := set.messagesOf errorType
        let total := Float.ofNat messages.length
        let standing (phrase : List Char) := messages.countP (Cue.StandsIn · phrase)
        let occurring (source : String) := messages.countP (Pattern.sourceOccursIn source)
        1 ≤ messages.length ∧
          (∃ phrases : List (List Char),
            (phrases.Nodup ∧ ∀ phrase, phrase ∈ phrases ↔
              5 < phrase.length ∧ (∃ message ∈ messages, Cue.StandsIn message phrase) ∧
                total * 0.3 ≤ Float.ofNat (standing phrase)) ∧
            (phrases.Pairwise fun one two => ∃ first second : Cue.Place,
              first.IsFirst messages one ∧ second.IsFirst messages two ∧ first.Precedes second) ∧
            fitted.cuesFor errorType =
              phrases.map (fun phrase => Cue.ofSource (Pattern.quote (String.ofList phrase))
                (Float.ofNat (standing phrase) / total)) ++
              (Cue.signals.filter fun signal => 1 ≤ occurring signal.1).map fun signal =>
                Cue.ofSource signal.1 (Float.ofNat (occurring signal.1) / total * signal.2)) ∧
          ((fitted.cuesFor errorType).map (·.source)).Nodup ∧
          ∀ message, ((fitted.support message errorType).cues.map (·.source)).Nodup := by
  intro fitted
  have fit := classifier.fit_of_ok valid.check_eq
  refine ⟨congrArg Prod.snd fit, fun errorType missing => ?_, fun errorType listed => ?_⟩
  · show (((classifier.fit set).1.table.find? _).map _).getD [] = []
    rw [classifier.table_fit valid, List.find?_eq_none.mpr]
    · rfl
    · intro entry member own
      obtain ⟨other, known, rfl⟩ := List.mem_map.mp member
      exact missing (eq_of_beq own ▸ List.mem_eraseDups.mp known)
  · intro messages total standing occurring
    have learned : fitted.cuesFor errorType = Cue.learnFrom messages :=
      classifier.cuesFor_fit valid listed
    refine ⟨?_, ⟨Cue.frequentPhrases messages, ⟨Cue.nodup_frequentPhrases messages, fun phrase =>
      Cue.mem_frequentPhrases⟩, Cue.pairwise_frequentPhrases messages, ?_⟩, ?_, fun message => ?_⟩
    · exact List.length_pos_of_ne_nil (valid.hasEvenColumns.messagesOf_ne_nil listed)
    · rw [learned, Cue.learnFrom, Cue.learnPhrases_eq, Cue.learnSignals_eq]
      rfl
    · rw [learned]
      exact Cue.nodup_sources messages
    · exact classifier.nodup_sources_support valid message listed

/-- The case of a type with four messages: two of them are enough for a phrase, and a single one is not,
while a signal is learned with its weight. -/
theorem phrases_and_signals_learned_of_four_messages :
    let set : TrainingSet := ⟨["Request timed out", "gateway timeout", "cable cut", "it timed out",
      "gateway gone"], [.timeoutError, .timeoutError, .networkError, .timeoutError, .timeoutError], [], []⟩
    let fitted := (({ name := "own" } : CueClassifier).fit set).1
    let cues := fitted.cuesFor .timeoutError
    Cue.ofSource "timed out" 0.5 ∈ cues ∧ "gateway timeout" ∉ cues.map (·.source) ∧
      Cue.ofSource "timeout|timed out" (0.75 * 0.3) ∈ cues ∧ (cues.map (·.source)).Nodup ∧
      fitted.cuesFor .dnsError = [] := by
  intro set fitted cues
  have valid : set.IsValid := ⟨rfl, by decide⟩
  obtain ⟨-, absent, learned⟩ := phrases_and_signals_learned { name := "own" } valid
  obtain ⟨-, ⟨phrases, ⟨-, listed⟩, -, table⟩, distinct, -⟩ := learned .timeoutError (by decide)
  change cues = _ at table
  rw [table]
  refine ⟨List.mem_append_left _ (List.mem_map.mpr ⟨"timed out".toList, ?_, ?_⟩), fun known => ?_,
    List.mem_append_right _ (List.mem_map.mpr ⟨("timeout|timed out", 0.3), ?_, ?_⟩), table ▸ distinct,
    absent .dnsError (by decide)⟩
  · exact (listed _).mpr (by decide +kernel)
  · exact congrArg₂ Cue.ofSource (by decide +kernel) (by decide +kernel)
  · obtain ⟨cue, member, source⟩ := List.mem_map.mp known
    obtain first | last := List.mem_append.mp member
    · obtain ⟨phrase, kept, rfl⟩ := List.mem_map.mp first
      have quoted : Pattern.quote (String.ofList phrase) = Pattern.quote "gateway timeout" :=
        source.trans (by decide +kernel)
      obtain rfl : phrase = "gateway timeout".toList :=
        String.ofList_injective (Pattern.quote_injective quoted)
      exact absurd ((listed _).mp kept).2.2 (by decide +kernel)
    · obtain ⟨signal, kept, rfl⟩ := List.mem_map.mp last
      have none : ∀ signal ∈ Cue.signals, signal.1 ≠ "gateway timeout" := by decide +kernel
      exact none signal (List.mem_of_mem_filter kept) source
  · have third : Cue.signals[2]? = some ("timeout|timed out", 0.3) := rfl
    exact List.mem_filter.mpr ⟨List.mem_of_getElem? third, by decide +kernel⟩
  · exact congrArg₂ Cue.ofSource rfl (by decide +kernel)

end CueClassifier

end Triage
