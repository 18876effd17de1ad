/-
This file proves that the types are learned apart. All types share one pass over the data, and the rules
of all of them are sorted together; yet what is learned for a type is determined by the messages of
the type, in their order, whatever other samples there are and wherever these stand.

For rules the sort has to be taken apart. It is stable, so that a part of what is sorted can as well
be taken out before: the rules for a type in the order of all rules are the rules that are learned from
the messages of the type, sorted by themselves.
-/

import Triage.Proofs.Learning.CueTable
import Triage.Proofs.Learning.Probabilities

namespace Triage

/-! ### Lists -/

section

variable {Item Key : Type} {le : Item → Item → Bool}

/-- One more item at the front goes before all that it may stand before. -/
theorem mergeSort_cons_eq (trans : ∀ one two three, le one two = true → le two three = true →
      le one three = true) (total : ∀ one two, (le one two || le two one) = true)
    (first : Item) (rest : List Item) :
    (first :: rest).mergeSort le = (rest.mergeSort le).filter (fun item => !le first item) ++
      first :: (rest.mergeSort le).filter (le first) := by
  obtain ⟨before, behind, sorted, split, above⟩ := List.mergeSort_cons trans total first rest
  have below : ∀ item ∈ behind, le first item = true := by
    have inOrder := List.pairwise_mergeSort trans total (first :: rest)
    rw [sorted] at inOrder
    exact (List.pairwise_cons.mp (List.pairwise_append.mp inOrder).2.1).1
  have notAbove : ∀ item ∈ behind, ¬ (!le first item) = true := fun item member => by
    rw [below item member]
    exact Bool.false_ne_true
  have notBelow : ∀ item ∈ before, ¬ le first item = true := fun item member isBelow =>
    absurd (above item member) (by rw [isBelow]; exact Bool.false_ne_true)
  rw [sorted, split, List.filter_append, List.filter_append, List.filter_eq_self.mpr above,
    List.filter_eq_nil_iff.mpr notAbove, List.filter_eq_nil_iff.mpr notBelow,
    List.filter_eq_self.mpr below, List.append_nil, List.nil_append]

/-- It makes no difference whether items are sorted before some of them are kept or behind. -/
theorem mergeSort_filter (trans : ∀ one two three, le one two = true → le two three = true →
      le one three = true) (total : ∀ one two, (le one two || le two one) = true)
    (keep : Item → Bool) (items : List Item) :
    (items.filter keep).mergeSort le = (items.mergeSort le).filter keep := by
  induction items with
  | nil => rw [List.mergeSort_nil, List.filter_nil, List.mergeSort_nil]
  | cons first rest inductionHypothesis =>
    by_cases kept : keep first
    · rw [List.filter_cons_of_pos kept, mergeSort_cons_eq trans total, inductionHypothesis,
        mergeSort_cons_eq trans total, List.filter_append, List.filter_cons_of_pos kept,
        List.filter_comm, List.filter_comm keep (le first)]
    · -- What is not kept leaves no gap between those before and those behind it.
      obtain ⟨before, behind, sorted, split, -⟩ := List.mergeSort_cons trans total first rest
      rw [List.filter_cons_of_neg kept, inductionHypothesis, split, sorted, List.filter_append,
        List.filter_append, List.filter_cons_of_neg kept]

/-- Of lists that belong to different keys, just the list of a key has items of the key. -/
theorem filter_flatMap_key [DecidableEq Key] {keys : List Key} (distinct : keys.Nodup)
    {values : Key → List Item} {keyOf : Item → Key}
    (own : ∀ key, ∀ item ∈ values key, keyOf item = key) (key : Key) :
    (keys.flatMap values).filter (fun item => keyOf item = key) =
      if key ∈ keys then values key else [] := by
  induction keys with
  | nil => rfl
  | cons first rest inductionHypothesis =>
    obtain ⟨new, distinct⟩ := List.nodup_cons.mp distinct
    rw [List.flatMap_cons, List.filter_append, inductionHypothesis distinct]
    by_cases same : key = first
    · subst same
      rw [if_neg new, if_pos List.mem_cons_self, List.append_nil]
      exact List.filter_eq_self.mpr fun item member => decide_eq_true (own key item member)
    · have none : (values first).filter (fun item => keyOf item = key) = [] :=
        List.filter_eq_nil_iff.mpr fun item member isOwn =>
          same ((of_decide_eq_true isOwn).symm.trans (own first item member))
      simp only [none, List.nil_append, List.mem_cons, same, false_or]

end

/-! ### The rules for a type -/

namespace Rule

/-- The rules for a type are learned from its messages. -/
theorem filter_learnUnsorted (patterns : List Pattern) (set : TrainingSet) (errorType : ErrorType) :
    (learnUnsorted patterns set).filter (·.errorType = errorType) =
      patterns.filterMap (learn? errorType (set.messagesOf errorType)) := by
  have own (other : ErrorType) (rule : Rule)
      (learned : rule ∈ patterns.filterMap (learn? other (set.messagesOf other))) :
      rule.errorType = other := by
    obtain ⟨pattern, -, learned⟩ := List.mem_filterMap.mp learned
    exact (learn?_eq_some learned).2.1
  unfold learnUnsorted
  rw [TrainingSet.groups_eq, List.flatMap_map,
    filter_flatMap_key (Table.nodup_eraseDups _) own errorType]
  split
  · rfl
  · rename_i missing
    have none : set.messagesOf errorType = [] := by
      refine List.map_eq_nil_iff.mpr (List.filter_eq_nil_iff.mpr fun sample sampled same => ?_)
      exact missing (List.mem_eraseDups.mpr
        (List.mem_map.mpr ⟨sample, sampled, of_decide_eq_true same⟩))
    rw [none]
    exact (List.filterMap_eq_nil_iff.mpr fun pattern _ => rfl).symm

/-- A part of the rules can be sorted by itself. -/
theorem filter_sort {rules : List Rule} (confident : ∀ rule ∈ rules, IsConfidence rule.confidence)
    (keep : Rule → Bool) : (sort rules).filter keep = sort (rules.filter keep) := by
  rw [sort_eq confident, sort_eq fun rule kept => confident rule (List.mem_of_mem_filter kept)]
  let size (rule : Rule) := Number.magnitude rule.confidence
  exact (mergeSort_filter (ranked_trans size) (ranked_total size) keep rules).symm

end Rule

theorem RuleClassifier.filter_rules_fit [Pattern.Dialect] (classifier : RuleClassifier) {set : TrainingSet}
    (valid : set.IsValid) (errorType : ErrorType) :
    (classifier.fit set).1.rules.filter (·.errorType = errorType) =
      Rule.sort ((Rule.compileAll classifier.library).filterMap
        (Rule.learn? errorType (set.messagesOf errorType))) := by
  rw [classifier.rules_fit valid.check_eq, Rule.filter_sort fun rule learned =>
    Rule.isConfidence_of_mem_learnUnsorted valid.countable learned, Rule.filter_learnUnsorted]

/-! ### The cues for a type -/

theorem TrainingSet.HasEvenColumns.mem_errorTypes_iff {set : TrainingSet} (even : set.HasEvenColumns)
    {errorType : ErrorType} : errorType ∈ set.errorTypes ↔ set.messagesOf errorType ≠ [] := by
  refine ⟨even.messagesOf_ne_nil, fun some => ?_⟩
  obtain ⟨message, own⟩ := List.exists_mem_of_ne_nil _ some
  exact TrainingSet.mem_errorTypes_of_mem_messagesOf own

namespace CueClassifier

variable [Pattern.Dialect] (classifier : CueClassifier) {set : TrainingSet} (valid : set.IsValid)

include valid

/-- The entry for a type is learned from its messages, and without any of them there is none. -/
theorem find?_table_fit (errorType : ErrorType) :
    (classifier.fit set).1.table.find? (·.1 == errorType) =
      if set.messagesOf errorType = [] then none
      else some (errorType, Cue.learnFrom (set.messagesOf errorType)) := by
  have listed : errorType ∈ set.errorTypes ↔ set.messagesOf errorType ≠ [] :=
    valid.hasEvenColumns.mem_errorTypes_iff
  rw [classifier.table_fit valid]
  split
  · rename_i none
    refine List.find?_eq_none.mpr fun entry member own => ?_
    obtain ⟨other, known, rfl⟩ := List.mem_map.mp member
    obtain rfl : other = errorType := eq_of_beq own
    exact listed.mp (List.mem_eraseDups.mp known) none
  · rename_i some
    exact find?_map_key _ _ (List.mem_eraseDups.mpr (listed.mpr some))

theorem probabilities_fit (message : String) :
    (classifier.fit set).1.probabilities message =
      .ok (Cue.probabilities (classifier.fit set).1.table message) := by
  rw [classifier.fit_of_ok valid.check_eq]
  rfl

end CueClassifier

/-! ### Fitting to sets that share the messages of a type -/

section

variable [Pattern.Dialect] {set other : TrainingSet} (valid : set.IsValid) (otherValid : other.IsValid)
  {errorType : ErrorType} (same : set.messagesOf errorType = other.messagesOf errorType)

include valid otherValid same

theorem CueClassifier.get?_probabilities_fit_congr (classifier otherClassifier : CueClassifier)
    (message : String) :
    (Cue.probabilities (classifier.fit set).1.table message).get? errorType =
      (Cue.probabilities (otherClassifier.fit other).1.table message).get? errorType := by
  have listed : errorType ∈ set.errorTypes ↔ errorType ∈ other.errorTypes := by
    rw [valid.hasEvenColumns.mem_errorTypes_iff, otherValid.hasEvenColumns.mem_errorTypes_iff, same]
  have support : (classifier.fit set).1.support message errorType =
      (otherClassifier.fit other).1.support message errorType := by
    unfold CueClassifier.support cuesFor
    rw [classifier.find?_table_fit valid, otherClassifier.find?_table_fit otherValid, same]
  refine Option.ext fun value => ?_
  rw [Probabilities.get?_eq_some_iff (classifier.nodup_keys_fit valid message),
    Probabilities.get?_eq_some_iff (otherClassifier.nodup_keys_fit otherValid message),
    classifier.mem_probabilities_fit valid, otherClassifier.mem_probabilities_fit otherValid, listed,
    support]

/-- The types are learned apart. When two valid sets have the same messages of a type, in the same order,
and whatever else, classifiers with the same library that learn rules and have been fitted to them have
the same rules for the type, in the same order, and classifiers that learn cues have the same entry for
the type in their tables, or none. The latter answer to every message, and give the type the same
probability, or none. -/
theorem Classifier.types_learned_apart (ruleClassifier otherRuleClassifier : RuleClassifier)
    (sameLibrary : ruleClassifier.library = otherRuleClassifier.library)
    (cueClassifier otherCueClassifier : CueClassifier) :
    let byCues := (cueClassifier.fit set).1
    let otherByCues := (otherCueClassifier.fit other).1
    (ruleClassifier.fit set).1.rules.filter (·.errorType = errorType) =
        (otherRuleClassifier.fit other).1.rules.filter (·.errorType = errorType) ∧
      byCues.table.find? (·.1 == errorType) = otherByCues.table.find? (·.1 == errorType) ∧
      ∀ message, ∃ probabilities otherProbabilities,
        byCues.probabilities message = .ok probabilities ∧
          otherByCues.probabilities message = .ok otherProbabilities ∧
          (probabilities.map (·.1)).Nodup ∧ (otherProbabilities.map (·.1)).Nodup ∧
          probabilities.get? errorType = otherProbabilities.get? errorType := by
  intro byCues otherByCues
  refine ⟨?_, ?_, fun message => ⟨_, _, cueClassifier.probabilities_fit valid message,
    otherCueClassifier.probabilities_fit otherValid message,
    cueClassifier.nodup_keys_fit valid message, otherCueClassifier.nodup_keys_fit otherValid message,
    ?_⟩⟩
  · rw [ruleClassifier.filter_rules_fit valid, otherRuleClassifier.filter_rules_fit otherValid,
      sameLibrary, same]
  · rw [cueClassifier.find?_table_fit valid, otherCueClassifier.find?_table_fit otherValid, same]
  · exact CueClassifier.get?_probabilities_fit_congr valid otherValid same _ _ message

end

/-- The case of sets that share two messages of a type, between samples of different types. -/
theorem Classifier.types_learned_apart_between_others :
    let set : TrainingSet := ⟨["link lost", "frame late", "link down"],
      [.networkError, .timeoutError, .networkError], [], []⟩
    let other : TrainingSet := ⟨["link denied", "link lost", "link down"],
      [.permissionDeniedError, .networkError, .networkError], [], []⟩
    let rules : RuleClassifier := { name := "own", library := ["down", "link"] }
    let cues : CueClassifier := { name := "own" }
    (rules.fit set).1.rules.filter (·.errorType = .networkError) =
        (rules.fit other).1.rules.filter (·.errorType = .networkError) ∧
      ∃ probabilities otherProbabilities,
        (cues.fit set).1.probabilities "Link lost" = .ok probabilities ∧
          (cues.fit other).1.probabilities "Link lost" = .ok otherProbabilities ∧
          probabilities.get? .networkError = some 0.5 ∧
          otherProbabilities.get? .networkError = some 0.5 := by
  intro set other rules cues
  have valid : set.IsValid := ⟨rfl, by decide⟩
  have otherValid : other.IsValid := ⟨rfl, by decide⟩
  have same : set.messagesOf .networkError = other.messagesOf .networkError := by decide
  obtain ⟨sameRules, _, answers⟩ :=
    Classifier.types_learned_apart valid otherValid same rules rules rfl cues cues
  obtain ⟨probabilities, otherProbabilities, given, otherGiven, _, _, agree⟩ := answers "Link lost"
  have half : probabilities.get? .networkError = some 0.5 := by
    obtain rfl := Except.ok.inj (given.symm.trans (cues.probabilities_fit valid "Link lost"))
    decide +kernel
  exact ⟨sameRules, probabilities, otherProbabilities, given, otherGiven, half, agree ▸ half⟩

end Triage
