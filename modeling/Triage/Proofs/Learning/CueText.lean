/-
This file proves that the cues of a type are told apart by their texts. Every phrase is counted once,
and quoting keeps phrases apart, as a quoted text can be read back. A quoted phrase is no signal either:
it has a blank between its words, and nothing special stands in it without a backslash.
-/

import Mathlib.Data.List.Nodup
import Triage.Proofs.Learning.Counts
import Triage.Proofs.Pattern.Quoting

namespace Triage

/-! ### Texts of cues -/

namespace Cue

theorem blank_mem_of_mem_phrasesAtStart {words : List (List Char)} {phrase : List Char}
    (member : phrase ∈ phrasesAtStart words) : ' ' ∈ phrase := by
  obtain ⟨count, kept, rfl⟩ := List.mem_map.mp member
  obtain ⟨listed, enough⟩ := List.mem_filter.mp kept
  have several : ∀ count ∈ phraseLengths, 2 ≤ count := by decide
  have two : 2 ≤ (words.take count).length := by
    rw [List.length_take_of_le (of_decide_eq_true enough)]
    exact several count listed
  unfold join
  match words.take count, two with
  | first :: second :: rest, _ =>
    rw [List.intercalate_cons_cons]
    simp

/-- A phrase has a blank between its words. -/
theorem blank_mem_of_mem_phrasesOf {message : String} {phrase : List Char}
    (member : phrase ∈ phrasesOf message) : ' ' ∈ phrase := by
  have inside : phrase ∈ phrasesFrom (wordsOf message) :=
    List.mem_of_mem_filter (List.mem_eraseDups.mp member)
  generalize wordsOf message = words at inside
  induction words with
  | nil => exact absurd inside List.not_mem_nil
  | cons word rest inductionHypothesis =>
    obtain first | later := List.mem_append.mp inside
    · exact blank_mem_of_mem_phrasesAtStart first
    · exact inductionHypothesis later

/-- A signal is one word, or something special stands in it without a backslash. -/
theorem signal_cases : ∀ signal ∈ signals, ' ' ∉ signal.1.toList ∨
    signal.1.toList.any Pattern.specials.contains = true ∧ '\\' ∉ signal.1.toList := by
  decide +kernel

theorem quote_ne_signal {phrase : List Char} (blank : ' ' ∈ phrase) {signal : String × Float}
    (listed : signal ∈ signals) : Pattern.quote (String.ofList phrase) ≠ signal.1 := by
  intro same
  obtain oneWord | ⟨special, noBackslash⟩ := signal_cases signal listed
  · refine oneWord (same ▸ Pattern.mem_toList_quote ?_)
    rwa [String.toList_ofList]
  · rw [← same] at special noBackslash
    obtain ⟨character, inside, special⟩ := List.any_eq_true.mp special
    exact noBackslash
      (Pattern.backslash_mem_toList_quote (List.contains_iff_mem.mp special) inside)

section

variable [Pattern.Dialect]

theorem exists_of_mem_learnPhrases {messages : List String} {cue : Cue}
    (learned : cue ∈ learnPhrases messages) :
    ∃ phrase, ' ' ∈ phrase ∧ cue.source = Pattern.quote (String.ofList phrase) := by
  obtain ⟨phrase, count, counted, -, rfl⟩ := mem_learnPhrases.mp learned
  have key : phrase ∈ (phraseCounts messages).map (·.1) := List.mem_map_of_mem counted
  rw [map_fst_phraseCounts] at key
  obtain ⟨message, _, inside⟩ := List.mem_flatMap.mp (List.mem_eraseDups.mp key)
  exact ⟨_, blank_mem_of_mem_phrasesOf inside, rfl⟩

theorem source_of_learnSignal? {messages : List String} {signal : String × Float} {cue : Cue}
    (learned : learnSignal? messages signal = some cue) : cue.source = signal.1 := by
  unfold learnSignal? at learned
  obtain ⟨pattern, _, learned⟩ := Option.bind_eq_some_iff.mp learned
  simp only at learned
  split at learned
  · exact nomatch learned
  · exact (Option.some.inj learned) ▸ rfl

theorem nodup_sources_learnPhrases (messages : List String) :
    ((learnPhrases messages).map (·.source)).Nodup := by
  have distinct : ((phraseCounts messages).map (·.1)).Nodup :=
    map_fst_phraseCounts messages ▸ Table.nodup_eraseDups _
  have quoted : Function.Injective fun phrase => Pattern.quote (String.ofList phrase) :=
    Pattern.quote_injective.comp fun _ _ => String.ofList_injective
  unfold learnPhrases
  rw [List.map_map]
  refine List.pairwise_map.mpr (((List.pairwise_map.mp distinct).filter _).imp fun different => ?_)
  exact quoted.ne different

theorem nodup_sources_learnSignals (messages : List String) :
    ((learnSignals messages).map (·.source)).Nodup := by
  have distinct : signals.Pairwise fun one two => one.1 ≠ two.1 := by decide +kernel
  refine List.pairwise_map.mpr (distinct.filterMap _ fun one two different cue learned other => ?_)
  intro otherLearned
  rw [source_of_learnSignal? learned, source_of_learnSignal? otherLearned]
  exact different

/-- No two cues of a type have the same text. -/
theorem nodup_sources (messages : List String) : ((learnFrom messages).map (·.source)).Nodup := by
  unfold learnFrom
  rw [List.map_append]
  refine List.nodup_append.mpr
    ⟨nodup_sources_learnPhrases messages, nodup_sources_learnSignals messages, ?_⟩
  intro source phrase other signal same
  obtain ⟨cue, learned, rfl⟩ := List.mem_map.mp phrase
  obtain ⟨otherCue, otherLearned, rfl⟩ := List.mem_map.mp signal
  obtain ⟨words, blank, quoted⟩ := exists_of_mem_learnPhrases learned
  obtain ⟨signal, listed, otherLearned⟩ := List.mem_filterMap.mp otherLearned
  rw [quoted, source_of_learnSignal? otherLearned] at same
  exact quote_ne_signal blank listed same

end

end Cue

end Triage
