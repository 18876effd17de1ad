/-
This file proves that the order of the training data does not matter to rules, except where it breaks a
tie. A rule is learned from counts, and counts do not depend on an order; so the same rules are learned
from the same samples in any order, and the same rules fire on a message. Only the order in which they
stand may be another one.

What is said about a message depends on the rules that fire as a collection. The confidence is the
greatest of theirs, the evidence consists of all that reach it, and the probability of a type is the
greatest among the rules for the type. Only one of the rules that reach the confidence gives its type to
the verdict, and this is the first one.
-/

import Triage.Proofs.Learning.Probabilities
import Triage.Proofs.Number.Parts

namespace Triage

/-! ### Confidences -/

/-- Confidences that do not exceed each other are the same double, as neither of them is a zero. -/
theorem IsConfidence.eq_of_le_of_le {value other : Float} (isConfidence : IsConfidence value)
    (below : value ≤ other) (above : other ≤ value) : value = other := by
  obtain ⟨size, sized, least, -⟩ := isConfidence
  have otherSized := sized.isSized.of_le below
  have equal := (sized.isSized.beq_iff otherSized).mp ((Number.beq_iff value other).mpr ⟨below, above⟩)
  refine sized.inj ?_ ((Number.two_zpow_pos _).trans_le least)
  rw [← sized.magnitude_eq, equal]
  exact otherSized.hasSize

/-! ### The same rules -/

namespace TrainingSet

variable {set reordered : TrainingSet}

theorem messagesOf_perm (same : set.samples.Perm reordered.samples) (errorType : ErrorType) :
    (set.messagesOf errorType).Perm (reordered.messagesOf errorType) :=
  (same.filter _).map _

end TrainingSet

theorem Table.eraseDups_perm {Key : Type} [BEq Key] [LawfulBEq Key] {keys reordered : List Key}
    (same : keys.Perm reordered) : keys.eraseDups.Perm reordered.eraseDups := by
  refine (List.perm_ext_iff_of_nodup (nodup_eraseDups _) (nodup_eraseDups _)).mpr fun key => ?_
  rw [List.mem_eraseDups, List.mem_eraseDups, same.mem_iff]

namespace Rule

/-- A rule is learned from how many messages there are and in how many of them its pattern occurs. -/
theorem learn?_of_perm {messages reordered : List String} (same : messages.Perm reordered)
    (errorType : ErrorType) : learn? errorType messages = learn? errorType reordered := by
  funext pattern
  unfold learn?
  rw [same.countP_eq, same.length_eq]

theorem learnUnsorted_perm {set reordered : TrainingSet}
    (same : set.samples.Perm reordered.samples) (patterns : List Pattern) :
    (learnUnsorted patterns set).Perm (learnUnsorted patterns reordered) := by
  have types := Table.eraseDups_perm (same.map (·.2))
  unfold learnUnsorted
  rw [TrainingSet.groups_eq, TrainingSet.groups_eq, List.flatMap_map, List.flatMap_map]
  simp only [learn?_of_perm (TrainingSet.messagesOf_perm same _)]
  exact types.flatMap_right _

theorem sort_perm {rules reordered : List Rule} (same : rules.Perm reordered) :
    (sort rules).Perm (sort reordered) :=
  (List.mergeSort_perm rules _).trans (same.trans (List.mergeSort_perm reordered _).symm)

end Rule

namespace RuleClassifier

variable {classifier other : RuleClassifier} {set reordered : TrainingSet}

theorem rules_fit_perm [Pattern.Dialect] (checked : set.check = .ok ())
    (otherChecked : reordered.check = .ok ()) (sameLibrary : classifier.library = other.library)
    (same : set.samples.Perm reordered.samples) :
    (classifier.fit set).1.rules.Perm (other.fit reordered).1.rules := by
  rw [classifier.rules_fit checked, other.rules_fit otherChecked, sameLibrary]
  exact Rule.sort_perm (Rule.learnUnsorted_perm same _)

end RuleClassifier

/-! ### The same verdicts -/

/-- Verdicts are equally sure for the same reasons, and if they agree about the type they agree about
what follows from it. -/
structure Verdict.Resembles (verdict other : Verdict) : Prop where
  confidence : verdict.confidence = other.confidence
  matched : verdict.matched.Perm other.matched
  path : verdict.path.Perm other.path
  consequences : verdict.errorType = other.errorType →
    verdict.metadata = other.metadata ∧ verdict.actions = other.actions

namespace Rule

/-- One of the surest rules is for a type. -/
def HasSurest (firing : List Rule) (errorType : ErrorType) (confidence : Float) : Prop :=
  (∃ rule ∈ firing, rule.errorType = errorType ∧ rule.confidence = confidence) ∧
    ∀ rule ∈ firing, rule.confidence ≤ confidence

variable {firing reordered : List Rule} {finding other : Finding} {first otherFirst : Rule}

theorem Finding.Leads.hasSurest (leads : finding.Leads firing first) :
    HasSurest firing first.errorType finding.confidence :=
  ⟨⟨first, List.mem_of_find?_eq_some leads.found, rfl, leads.confidence.symm⟩, leads.greatest⟩

theorem HasSurest.of_perm {errorType : ErrorType} {confidence : Float}
    (surest : HasSurest firing errorType confidence) (same : firing.Perm reordered) :
    HasSurest reordered errorType confidence := by
  obtain ⟨⟨rule, fires, own, equal⟩, greatest⟩ := surest
  exact ⟨⟨rule, same.mem_iff.mp fires, own, equal⟩,
    fun rule fires => greatest rule (same.mem_iff.mpr fires)⟩

/-- The greatest confidence is one double. -/
theorem HasSurest.confidence_eq (confident : ∀ rule ∈ firing, IsConfidence rule.confidence)
    {errorType otherType : ErrorType} {confidence otherConfidence : Float}
    (surest : HasSurest firing errorType confidence)
    (otherSurest : HasSurest firing otherType otherConfidence) : confidence = otherConfidence := by
  obtain ⟨⟨rule, fires, -, rfl⟩, greatest⟩ := surest
  obtain ⟨⟨other, otherFires, -, rfl⟩, otherGreatest⟩ := otherSurest
  exact (confident rule fires).eq_of_le_of_le (otherGreatest rule fires) (greatest other otherFires)

/-- The rules of a lead are known by their confidence. -/
theorem Finding.Leads.resembles (leads : finding.Leads firing first)
    (otherLeads : other.Leads reordered otherFirst) (same : firing.Perm reordered)
    (equal : finding.confidence = other.confidence) : finding.verdict.Resembles other.verdict := by
  refine ⟨equal, ?_, ?_, fun sameType => ?_⟩
  · show finding.matched.Perm other.matched
    rw [leads.matched, otherLeads.matched, equal]
    exact (same.filter _).map _
  · show finding.path.Perm other.path
    rw [leads.path, otherLeads.path, equal]
    exact (same.filter _).map _
  · have sameFirst : finding.errorType? = other.errorType? := by
      have agree : finding.errorType?.getD .unknownError = other.errorType?.getD .unknownError :=
        sameType
      rw [leads.errorType?, otherLeads.errorType?] at agree ⊢
      exact congrArg some agree
    unfold Finding.verdict Verdict.ofType?
    rw [sameFirst]
    exact ⟨rfl, rfl⟩

/-- When any rule fires, the verdict is on a type of one of the surest. -/
theorem hasSurest_judge (some : firing ≠ [])
    (confident : ∀ rule ∈ firing, IsConfidence rule.confidence) (message : String) :
    HasSurest firing (judge firing message).errorType (judge firing message).confidence := by
  obtain ⟨first, leads⟩ := Finding.exists_leads some confident
  rw [leads.judge_eq message]
  have winner : (firing.foldl Finding.add {}).verdict.errorType = first.errorType :=
    congrArg (·.getD .unknownError) leads.errorType?
  rw [winner]
  exact leads.hasSurest

/-- When the same rules fire in another order, only a tie can have another winner. -/
theorem judge_of_perm (confident : ∀ rule ∈ firing, IsConfidence rule.confidence)
    (same : firing.Perm reordered) (message : String) :
    (judge firing message).Resembles (judge reordered message) ∧
      ((judge firing message).errorType = (judge reordered message).errorType ∨
        HasSurest firing (judge firing message).errorType (judge firing message).confidence ∧
          HasSurest firing (judge reordered message).errorType
            (judge firing message).confidence) := by
  obtain rfl | some := eq_or_ne firing []
  · obtain rfl := same.nil_eq
    exact ⟨⟨rfl, .refl _, .refl _, fun _ => ⟨rfl, rfl⟩⟩, .inl rfl⟩
  · have otherSome : reordered ≠ [] := fun none => some (none ▸ same).eq_nil
    have otherConfident : ∀ rule ∈ reordered, IsConfidence rule.confidence :=
      fun rule fires => confident rule (same.mem_iff.mpr fires)
    have surest := hasSurest_judge some confident message
    have otherSurest := (hasSurest_judge otherSome otherConfident message).of_perm same.symm
    have equal := surest.confidence_eq confident otherSurest
    refine ⟨?_, .inr ⟨surest, equal ▸ otherSurest⟩⟩
    obtain ⟨first, leads⟩ := Finding.exists_leads some confident
    obtain ⟨otherFirst, otherLeads⟩ := Finding.exists_leads otherSome otherConfident
    rw [leads.judge_eq message, otherLeads.judge_eq message] at equal ⊢
    exact leads.resembles otherLeads same equal

end Rule

/-! ### The same probabilities -/

namespace Rule

variable {firing reordered : List Rule} {errorType : ErrorType} {value : Float}

/-- A type of a rule that fires has the greatest confidence among its rules. -/
theorem exists_get?_probabilities_judge (confident : ∀ rule ∈ firing, IsConfidence rule.confidence)
    (message : String) {rule : Rule} (fires : rule ∈ firing) (own : rule.errorType = errorType) :
    ∃ value, (probabilities (judge firing message) firing).get? errorType = some value ∧
      HasSurest (firing.filter (·.errorType = errorType)) errorType value := by
  have ofType {rule : Rule} : rule ∈ firing.filter (·.errorType = errorType) ↔
      rule ∈ firing ∧ rule.errorType = errorType := by
    rw [List.mem_filter, decide_eq_true_eq]
  by_cases predicted : (judge firing message).errorType = errorType
  · subst predicted
    obtain ⟨⟨first, leads, firstOwn, confidence⟩, greatest⟩ :=
      hasSurest_judge (List.ne_nil_of_mem fires) confident message
    exact ⟨_, get?_probabilities_self greatest,
      ⟨first, ofType.mpr ⟨leads, firstOwn⟩, firstOwn, confidence⟩,
      fun rule member => greatest rule (ofType.mp member).1⟩
  · obtain ⟨surest, member, surestOwn, held, greatest⟩ :=
      exists_get?_probabilities confident predicted fires own
    exact ⟨_, held, ⟨surest, ofType.mpr ⟨member, surestOwn⟩, surestOwn, rfl⟩,
      fun rule member => greatest rule (ofType.mp member).1 (ofType.mp member).2⟩

/-- Where any rule fires, the probabilities are the greatest confidences by type. -/
theorem mem_probabilities_judge_iff (some : firing ≠ [])
    (confident : ∀ rule ∈ firing, IsConfidence rule.confidence) (message : String) :
    (errorType, value) ∈ probabilities (judge firing message) firing ↔
      HasSurest (firing.filter (·.errorType = errorType)) errorType value := by
  rw [← Probabilities.get?_eq_some_iff (nodup_probabilities _ firing)]
  constructor
  · intro held
    have key := Probabilities.mem_keys_iff.mpr (Option.isSome_of_eq_some held)
    obtain ⟨rule, fires, own⟩ : ∃ rule ∈ firing, rule.errorType = errorType := by
      obtain rfl | own := mem_keys_probabilities.mp key
      · obtain ⟨⟨first, fires, own, -⟩, -⟩ := hasSurest_judge some confident message
        exact ⟨first, fires, own⟩
      · exact own
    obtain ⟨greatest, heldToo, surest⟩ := exists_get?_probabilities_judge confident message fires own
    obtain rfl : greatest = value := Option.some.inj (heldToo.symm.trans held)
    exact surest
  · intro surest
    obtain ⟨rule, member, own, -⟩ := surest.1
    have fires := List.mem_of_mem_filter member
    obtain ⟨greatest, held, surestToo⟩ := exists_get?_probabilities_judge confident message fires own
    have equal := surestToo.confidence_eq
      (fun rule member => confident rule (List.mem_of_mem_filter member)) surest
    exact equal ▸ held

/-- When the same rules fire in another order, the same probabilities are given. -/
theorem probabilities_judge_of_perm (confident : ∀ rule ∈ firing, IsConfidence rule.confidence)
    (same : firing.Perm reordered) (message : String) :
    (probabilities (judge firing message) firing).Perm
      (probabilities (judge reordered message) reordered) := by
  obtain rfl | some := eq_or_ne firing []
  · obtain rfl := same.nil_eq
    rfl
  · have otherSome : reordered ≠ [] := fun none => some (none ▸ same).eq_nil
    refine (List.perm_ext_iff_of_nodup (nodup_probabilities _ firing).of_map
      (nodup_probabilities _ reordered).of_map).mpr fun entry => ?_
    obtain ⟨errorType, value⟩ := entry
    rw [mem_probabilities_judge_iff some confident message,
      mem_probabilities_judge_iff otherSome
        (fun rule fires => confident rule (same.mem_iff.mpr fires)) message]
    have sameOfType := same.filter (·.errorType = errorType)
    exact ⟨(·.of_perm sameOfType), (·.of_perm sameOfType.symm)⟩

end Rule

/-! ### Fitting to samples in another order -/

namespace RuleClassifier

/-- The order of the samples only breaks ties. Two classifiers with the same library that have been
fitted to valid sets with the same samples, in whatever order, have learned the same rules. They answer
to every message, with the same confidence, for the same reasons and with the same probabilities, and
when they name the same type, with the same metadata and actions. When they name different types, a rule
for each of these fires whose confidence is that of the verdict, and no rule that fires is surer. -/
theorem order_of_samples_only_breaks_ties [Pattern.Dialect] (classifier other : RuleClassifier)
    (sameLibrary : classifier.library = other.library) {set reordered : TrainingSet}
    (valid : set.IsValid) (otherValid : reordered.IsValid)
    (same : set.samples.Perm reordered.samples) :
    let fitted := (classifier.fit set).1
    let refitted := (other.fit reordered).1
    fitted.rules.Perm refitted.rules ∧
      ∀ message, ∃ verdict otherVerdict probabilities otherProbabilities,
        fitted.predict message = .ok verdict ∧ refitted.predict message = .ok otherVerdict ∧
        fitted.probabilities message = .ok probabilities ∧
        refitted.probabilities message = .ok otherProbabilities ∧
        verdict.confidence = otherVerdict.confidence ∧
        verdict.matched.Perm otherVerdict.matched ∧
        verdict.path.Perm otherVerdict.path ∧
        (probabilities.map (·.1)).Nodup ∧ probabilities.Perm otherProbabilities ∧
        (verdict.errorType = otherVerdict.errorType →
          verdict.metadata = otherVerdict.metadata ∧ verdict.actions = otherVerdict.actions) ∧
        (verdict.errorType ≠ otherVerdict.errorType →
          let firing := fitted.firing message
          (∃ rule ∈ firing, rule.errorType = verdict.errorType ∧
              rule.confidence = verdict.confidence) ∧
            (∃ rule ∈ firing, rule.errorType = otherVerdict.errorType ∧
              rule.confidence = verdict.confidence) ∧
            ∀ rule ∈ firing, rule.confidence ≤ verdict.confidence) := by
  intro fitted refitted
  have checked := valid.check_eq
  have otherChecked := otherValid.check_eq
  have sameRules := rules_fit_perm checked otherChecked sameLibrary same
  refine ⟨sameRules, fun message => ?_⟩
  have sameFiring : (fitted.firing message).Perm (refitted.firing message) := by
    have sameFires : fitted.fires = refitted.fires :=
      classifier.fires_fit_congr checked otherChecked sameLibrary
    unfold RuleClassifier.firing
    rw [sameFires]
    exact sameRules.filter _
  have confident := classifier.isConfidence_of_mem_firing valid message
  obtain ⟨alike, sameType | ⟨surest, otherSurest⟩⟩ := Rule.judge_of_perm confident sameFiring message
  all_goals
    refine ⟨_, _, _, _, classifier.predict_fit valid message, other.predict_fit otherValid message,
      classifier.probabilities_fit valid message, other.probabilities_fit otherValid message,
      alike.confidence, alike.matched, alike.path, Rule.nodup_probabilities _ _,
      Rule.probabilities_judge_of_perm confident sameFiring message, alike.consequences, ?_⟩
  · exact absurd sameType
  · exact fun _ => ⟨surest.1, otherSurest.1, surest.2⟩

/-- The case of two types that are equally sure: the first one of the samples wins. -/
theorem order_of_samples_breaks_tie :
    let classifier : RuleClassifier := { name := "own", library := ["lost", "late"] }
    let set : TrainingSet := ⟨["link lost", "frame late"], [.networkError, .timeoutError], [], []⟩
    let reordered : TrainingSet :=
      ⟨["frame late", "link lost"], [.timeoutError, .networkError], [], []⟩
    ∃ verdict otherVerdict,
      (classifier.fit set).1.predict "late or lost" = .ok verdict ∧
        (classifier.fit reordered).1.predict "late or lost" = .ok otherVerdict ∧
        verdict.confidence = otherVerdict.confidence ∧
        verdict.matched.Perm otherVerdict.matched ∧
        verdict.errorType = .networkError ∧ otherVerdict.errorType = .timeoutError := by
  intro classifier set reordered
  have valid : set.IsValid := ⟨rfl, by decide⟩
  have otherValid : reordered.IsValid := ⟨rfl, by decide⟩
  obtain ⟨_, answers⟩ := order_of_samples_only_breaks_ties classifier classifier rfl valid otherValid
    (List.Perm.swap _ _ [])
  obtain ⟨verdict, otherVerdict, _, _, predicted, otherPredicted, _, _, confidence, matched, _⟩ :=
    answers "late or lost"
  -- The rules are in order as they are collected, and all of them fire.
  let collected (set : TrainingSet) := Rule.learnUnsorted (Rule.compileAll classifier.library) set
  have decided {set : TrainingSet} (valid : set.IsValid) {verdict : Verdict}
      (predicted : (classifier.fit set).1.predict "late or lost" = .ok verdict)
      (sorted : (collected set).Pairwise fun one two => decide (two.confidence ≤ one.confidence))
      (fire : ∀ rule ∈ collected set, (classifier.fit set).1.fires "late or lost" rule) :
      verdict = Rule.judge (collected set) "late or lost" := by
    have firing : (classifier.fit set).1.firing "late or lost" = collected set := by
      unfold RuleClassifier.firing
      rw [rules_fit _ valid.check_eq, Rule.sort, List.mergeSort_of_pairwise sorted]
      exact List.filter_eq_self.mpr fire
    have answer := predicted.symm.trans (classifier.predict_fit valid "late or lost")
    exact (Except.ok.inj answer).trans (congrArg (Rule.judge · "late or lost") firing)
  refine ⟨verdict, otherVerdict, predicted, otherPredicted, confidence, matched, ?_, ?_⟩
  · rw [decided valid predicted (by decide +kernel) (by decide +kernel)]
    decide +kernel
  · rw [decided otherValid otherPredicted (by decide +kernel) (by decide +kernel)]
    decide +kernel

end RuleClassifier

end Triage
