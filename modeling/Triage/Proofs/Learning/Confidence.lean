/-
This file proves that whatever is learned has a confidence, which is above zero and at most one: it
is a part of the messages of a type, or such a part with the weight of a signal, and neither of them
can vanish by rounding.

It also proves that the patterns that are searched for when a classifier is asked are those that its
rules and cues are named after.
-/

import Triage.Proofs.Learning.Counts
import Triage.Proofs.Learning.Refit
import Triage.Proofs.Number.Arithmetic

namespace Triage

/-! ### Confidences -/

/-- The columns belong together, and a machine word can count the messages, as it always can. -/
structure TrainingSet.IsValid (set : TrainingSet) : Prop where
  aligned : set.isAligned = true
  countable : set.messages.length < UInt64.size

/-- A confidence is above zero, and far enough from it not to vanish, and at most one. -/
def IsConfidence (value : Float) : Prop :=
  ∃ size : ℚ, Number.HasSize value size ∧ 2 ^ (-68 : Int) ≤ size ∧ size ≤ 1

theorem IsConfidence.pos {value : Float} (isConfidence : IsConfidence value) : 0 < value := by
  obtain ⟨size, sized, above, _⟩ := isConfidence
  exact sized.pos_iff.mpr (WithTop.coe_pos.mpr ((Number.two_zpow_pos _).trans_le above))

theorem isConfidence_ratio {count total : Nat} (some : 0 < count) (within : count ≤ total)
    (countable : total < UInt64.size) : IsConfidence (Float.ofNat count / Float.ofNat total) := by
  obtain ⟨size, sized, above, below⟩ := Number.exists_hasSize_ratio some within countable
  exact ⟨size, sized, (zpow_le_zpow_right₀ one_le_two (by decide)).trans above, below⟩

theorem isConfidence_weighted {count total : Nat} (some : 0 < count) (within : count ≤ total)
    (countable : total < UInt64.size) {weight : Float} (heavy : 0.0625 < weight)
    (light : weight < 1) : IsConfidence (Float.ofNat count / Float.ofNat total * weight) := by
  obtain ⟨size, sized, above, below⟩ := Number.exists_hasSize_ratio some within countable
  exact Number.exists_hasSize_weighted sized above below heavy light

/-! ### Patterns -/

section

variable [Pattern.Dialect]

theorem Pattern.source_of_compile? {source : String} {pattern : Pattern}
    (compiled : Pattern.compile? source = some pattern) : pattern.source = source := by
  obtain ⟨search, _, rfl⟩ := Option.map_eq_some_iff.mp compiled
  rfl

/-- Does a pattern that is given by its text occur in a message? -/
def Pattern.sourceOccursIn (source message : String) : Prop :=
  ∃ pattern, Pattern.compile? source = some pattern ∧ pattern.occursIn message = true

theorem Rule.mem_compileAll {library : List String} {pattern : Pattern} :
    pattern ∈ compileAll library ↔
      pattern.source ∈ library ∧ Pattern.compile? pattern.source = some pattern := by
  unfold compileAll
  rw [List.mem_filterMap]
  constructor
  · rintro ⟨source, known, compiled⟩
    obtain rfl := Pattern.source_of_compile? compiled
    exact ⟨known, compiled⟩
  · rintro ⟨known, compiled⟩
    exact ⟨pattern.source, known, compiled⟩

/-- Among the compiled patterns of a library every text of the library finds its own pattern. -/
theorem Rule.find?_compileAll {library : List String} {source : String} (known : source ∈ library) :
    (compileAll library).find? (·.source == source) = Pattern.compile? source := by
  cases found : (compileAll library).find? (·.source == source) with
  | some pattern =>
    obtain ⟨_, compiled⟩ := mem_compileAll.mp (List.mem_of_find?_eq_some found)
    have same : pattern.source = source := by simpa using List.find?_some found
    rw [← compiled, same]
  | none =>
    cases compiled : Pattern.compile? source with
    | none => rfl
    | some pattern =>
      obtain rfl := Pattern.source_of_compile? compiled
      have missing := List.find?_eq_none.mp found pattern (mem_compileAll.mpr ⟨known, compiled⟩)
      exact absurd (beq_self_eq_true pattern.source) missing

end

/-! ### Rules -/

/-- A rule is learned from a pattern and the messages of a type. -/
theorem Rule.mem_learnUnsorted {patterns : List Pattern} {set : TrainingSet} {rule : Rule} :
    rule ∈ learnUnsorted patterns set ↔
      ∃ errorType messages, (errorType, messages) ∈ set.groups ∧
        ∃ pattern ∈ patterns, learn? errorType messages pattern = some rule := by
  unfold learnUnsorted
  simp only [List.mem_flatMap, List.mem_filterMap, Prod.exists]

theorem Rule.learn?_eq_some {errorType : ErrorType} {messages : List String} {pattern : Pattern}
    {rule : Rule} (learned : learn? errorType messages pattern = some rule) :
    rule.pattern = pattern.source ∧ rule.errorType = errorType ∧
      0 < messages.countP pattern.occursIn ∧
      rule.confidence =
        Float.ofNat (messages.countP pattern.occursIn) / Float.ofNat messages.length := by
  unfold learn? at learned
  simp only at learned
  split at learned
  · rename_i supported
    obtain rfl := Option.some.inj learned
    refine ⟨rfl, rfl, Nat.pos_of_ne_zero fun none => ?_, rfl⟩
    rw [none] at supported
    exact nomatch supported
  · exact nomatch learned

theorem Rule.isConfidence_of_mem_learnUnsorted {patterns : List Pattern} {set : TrainingSet}
    (countable : set.messages.length < UInt64.size) {rule : Rule}
    (learned : rule ∈ learnUnsorted patterns set) : IsConfidence rule.confidence := by
  obtain ⟨errorType, messages, group, pattern, _, learned⟩ := mem_learnUnsorted.mp learned
  obtain ⟨rfl, _⟩ := TrainingSet.mem_groups.mp group
  obtain ⟨_, _, some, confidence⟩ := learn?_eq_some learned
  rw [confidence]
  exact isConfidence_ratio some List.countP_le_length
    ((set.length_messagesOf_le errorType).trans_lt countable)

namespace RuleClassifier

variable [Pattern.Dialect] (classifier : RuleClassifier) (set : TrainingSet)

theorem rules_buildRules :
    (classifier.buildRules set).rules =
      Rule.sort (Rule.learnUnsorted (Rule.compileAll classifier.library) set) := by
  have patterns : classifier.library.filterMap classifier.clear.compileLibrary.pattern? =
      Rule.compileAll classifier.library :=
    List.filterMap_congr fun source known => Rule.find?_compileAll known
  rw [← patterns]
  rfl

theorem mem_rules_buildRules {rule : Rule} :
    rule ∈ (classifier.buildRules set).rules ↔
      rule ∈ Rule.learnUnsorted (Rule.compileAll classifier.library) set := by
  rw [rules_buildRules]
  exact List.mem_mergeSort

/-- A learned rule fires on the messages in which the pattern with its text occurs. -/
theorem fires_buildRules {rule : Rule} (learned : rule ∈ (classifier.buildRules set).rules)
    (message : String) :
    (classifier.buildRules set).fires message rule = true ↔
      Pattern.sourceOccursIn rule.pattern message := by
  obtain ⟨errorType, messages, _, pattern, compiled, learned⟩ :=
    Rule.mem_learnUnsorted.mp ((classifier.mem_rules_buildRules set).mp learned)
  obtain ⟨source, _⟩ := Rule.learn?_eq_some learned
  have known : rule.pattern ∈ classifier.library := source ▸ (Rule.mem_compileAll.mp compiled).1
  have found : (classifier.buildRules set).pattern? rule.pattern = Pattern.compile? rule.pattern :=
    Rule.find?_compileAll known
  unfold fires Pattern.sourceOccursIn
  rw [found, Option.any_eq_true]

end RuleClassifier

/-! ### Cues -/

namespace Cue

theorem weight_of_mem_signals : ∀ signal ∈ signals, 0.0625 < signal.2 ∧ signal.2 < 1 := by
  decide +kernel

section

variable [Pattern.Dialect]

theorem mem_learn {set : TrainingSet} {errorType : ErrorType} {cues : List Cue} :
    (errorType, cues) ∈ learn set ↔
      ∃ messages, (errorType, messages) ∈ set.groups ∧ cues = learnFrom messages := by
  unfold learn
  simp only [List.mem_map, Prod.exists, Prod.mk.injEq]
  constructor
  · rintro ⟨_, messages, group, rfl, rfl⟩
    exact ⟨messages, group, rfl⟩
  · rintro ⟨messages, group, rfl⟩
    exact ⟨errorType, messages, group, rfl, rfl⟩

/-- A cue with the pattern of its text fires on the messages in which that pattern occurs. -/
theorem fires_iff {cue : Cue} (own : cue.pattern? = Pattern.compile? cue.source) (message : String) :
    cue.fires message = true ↔ Pattern.sourceOccursIn cue.source message := by
  unfold fires Pattern.sourceOccursIn
  rw [own, Option.any_eq_true]

/-- A cue is made of a text, and has the confidence of a phrase or of a signal. -/
theorem eq_ofSource_of_mem_learnFrom {messages : List String}
    (countable : messages.length < UInt64.size) {cue : Cue} (learned : cue ∈ learnFrom messages) :
    ∃ source confidence, cue = ofSource source confidence ∧ IsConfidence confidence := by
  obtain phrase | signal := List.mem_append.mp learned
  · obtain ⟨phrase, count, counted, -, rfl⟩ := mem_learnPhrases.mp phrase
    obtain ⟨some, within⟩ := count_of_mem_phraseCounts counted
    exact ⟨_, _, rfl, isConfidence_ratio some within countable⟩
  · unfold learnSignals at signal
    obtain ⟨signal, listed, learned⟩ := List.mem_filterMap.mp signal
    obtain ⟨heavy, light⟩ := weight_of_mem_signals signal listed
    unfold learnSignal? at learned
    obtain ⟨pattern, _, learned⟩ := Option.bind_eq_some_iff.mp learned
    simp only at learned
    split at learned
    · exact nomatch learned
    · rename_i some
      exact ⟨_, _, (Option.some.inj learned).symm, isConfidence_weighted (Nat.pos_of_ne_zero some)
        List.countP_le_length countable heavy light⟩

theorem isConfidence_of_mem_learn {set : TrainingSet} (countable : set.messages.length < UInt64.size)
    {errorType : ErrorType} {cues : List Cue} (entry : (errorType, cues) ∈ learn set) {cue : Cue}
    (listed : cue ∈ cues) :
    IsConfidence cue.confidence ∧ cue.pattern? = Pattern.compile? cue.source := by
  obtain ⟨messages, group, rfl⟩ := mem_learn.mp entry
  obtain ⟨rfl, _⟩ := TrainingSet.mem_groups.mp group
  have fewer := (set.length_messagesOf_le errorType).trans_lt countable
  obtain ⟨source, confidence, rfl, isConfidence⟩ := eq_ofSource_of_mem_learnFrom fewer listed
  exact ⟨isConfidence, rfl⟩

end

end Cue

end Triage
