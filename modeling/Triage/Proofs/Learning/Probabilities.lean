/-
This file proves that the verdict and the probabilities of rules agree. The probabilities begin with
the type and the confidence of the verdict, and then the rules that fire are gone through once more, each
of them raising the probability of its type if it is surer. What is held for a type in the end is the
greatest of all that has been entered for it, and the first of those that are equally great.

As no rule that fires is surer than the verdict, what the list begins with is never raised. So the
probability of the type of the verdict is the confidence itself, and not merely as great.
-/

import Triage.Proofs.Learning.Strongest

namespace Triage

open Number (IsSized)

namespace Probabilities

variable {probabilities : Probabilities} {errorType other : ErrorType} {value : Float}

/-! ### Raising one probability -/

/-- What is held for a type after one more value. -/
def surer (held? : Option Float) (value : Float) : Float :=
  held?.elim value fun held => if value > held then value else held

theorem get?_cons (entry : ErrorType × Float) (rest : Probabilities) (errorType : ErrorType) :
    get? (entry :: rest) errorType =
      if entry.1 = errorType then some entry.2 else get? rest errorType := by
  unfold get?
  rw [List.find?_cons]
  by_cases own : entry.1 = errorType
  · rw [if_pos own, beq_iff_eq.mpr own]
    rfl
  · rw [if_neg own, beq_eq_false_iff_ne.mpr own]

theorem get?_raise (probabilities : Probabilities) (errorType other : ErrorType) (value : Float) :
    (probabilities.raise errorType value).get? other =
      if other = errorType then some (surer (probabilities.get? errorType) value)
      else probabilities.get? other := by
  induction probabilities with
  | nil =>
    rw [raise, get?_cons]
    simp only [eq_comm]
    rfl
  | cons entry rest inductionHypothesis =>
    obtain ⟨first, held⟩ := entry
    rw [raise]
    by_cases own : first = errorType
    · subst own
      rw [if_pos rfl, get?_cons, get?_cons, get?_cons, if_pos rfl]
      by_cases same : other = first
      · rw [if_pos same.symm, if_pos same]
        rfl
      · rw [if_neg (Ne.symm same), if_neg (Ne.symm same), if_neg same]
    · rw [if_neg own, get?_cons, get?_cons, get?_cons, if_neg own, inductionHypothesis]
      by_cases same : other = errorType
      · subst same
        rw [if_neg own, if_pos rfl, if_pos rfl]
      · rw [if_neg same, if_neg same]

theorem map_fst_raise (probabilities : Probabilities) (errorType : ErrorType) (value : Float) :
    (probabilities.raise errorType value).map (·.1) =
      if errorType ∈ probabilities.map (·.1) then probabilities.map (·.1)
      else probabilities.map (·.1) ++ [errorType] := by
  induction probabilities with
  | nil => rfl
  | cons entry rest inductionHypothesis =>
    obtain ⟨first, held⟩ := entry
    rw [raise]
    by_cases own : first = errorType
    · subst own
      rw [if_pos rfl, List.map_cons, List.map_cons, if_pos List.mem_cons_self]
    · rw [if_neg own, List.map_cons, inductionHypothesis, List.map_cons]
      simp only [List.mem_cons, Ne.symm own, false_or]
      split <;> rfl

theorem nodup_raise (distinct : (probabilities.map (·.1)).Nodup) (errorType : ErrorType)
    (value : Float) : ((probabilities.raise errorType value).map (·.1)).Nodup := by
  rw [map_fst_raise]
  split
  · exact distinct
  · rename_i new
    rw [← List.concat_eq_append]
    exact (List.nodup_concat _ _).mpr ⟨new, distinct⟩

/-- Where no type stands twice, an entry is what its type finds. -/
theorem get?_eq_some_iff (distinct : (probabilities.map (·.1)).Nodup) :
    probabilities.get? errorType = some value ↔ (errorType, value) ∈ probabilities := by
  induction probabilities with
  | nil => exact iff_of_false nofun List.not_mem_nil
  | cons entry rest inductionHypothesis =>
    obtain ⟨first, held⟩ := entry
    obtain ⟨new, distinct⟩ := List.nodup_cons.mp distinct
    rw [get?_cons, List.mem_cons, Prod.mk.injEq]
    by_cases own : first = errorType
    · subst own
      have missing : (first, value) ∉ rest :=
        fun member => new (List.mem_map.mpr ⟨(first, value), member, rfl⟩)
      rw [if_pos rfl, Option.some.injEq]
      exact ⟨fun same => .inl ⟨rfl, same.symm⟩, fun either => (either.resolve_right missing).2.symm⟩
    · rw [if_neg own, inductionHypothesis distinct]
      exact (or_iff_right fun same => own same.1.symm).symm

theorem mem_keys_iff : errorType ∈ probabilities.map (·.1) ↔ (probabilities.get? errorType).isSome := by
  unfold get?
  rw [Option.isSome_map, List.find?_isSome, List.mem_map]
  simp only [beq_iff_eq]

/-! ### The greatest of some values -/

/-- Values that are not greater leave alone what is held. -/
theorem foldl_surer_of_le {held : Float} {values : List Float} (below : ∀ value ∈ values, value ≤ held) :
    values.foldl (fun held? value => some (surer held? value)) (some held) = some held := by
  induction values with
  | nil => rfl
  | cons value rest inductionHypothesis =>
    have notAbove : ¬ value > held :=
      ((Number.le_iff value held).mp (below value List.mem_cons_self)).2
    rw [List.foldl_cons, show surer (some held) value = held from if_neg notAbove]
    exact inductionHypothesis fun later member => below later (List.mem_cons_of_mem value member)

/-- What is held in the end is one of the values, and none is greater. -/
theorem exists_foldl_surer {held : Float} {values : List Float} (sized : IsSized held)
    (allSized : ∀ value ∈ values, IsSized value) :
    ∃ greatest ∈ held :: values,
      values.foldl (fun held? value => some (surer held? value)) (some held) = some greatest ∧
        ∀ value ∈ held :: values, value ≤ greatest := by
  induction values using List.reverseRecOn with
  | nil => exact ⟨held, List.mem_cons_self, rfl, List.forall_mem_singleton.mpr sized.le_refl⟩
  | append_singleton early last inductionHypothesis =>
    obtain ⟨before, own⟩ := List.forall_mem_append.mp allSized
    have lastSized : IsSized last := own last List.mem_cons_self
    obtain ⟨greatest, member, folded, bound⟩ := inductionHypothesis before
    have greatestSized : IsSized greatest := List.forall_mem_cons.mpr ⟨sized, before⟩ greatest member
    rw [List.foldl_append, folded, List.foldl_cons, List.foldl_nil, ← List.cons_append]
    by_cases above : last > greatest
    · refine ⟨last, List.mem_append_right _ List.mem_cons_self, congrArg some (if_pos above),
        List.forall_mem_append.mpr ⟨fun value earlier => ?_,
          List.forall_mem_singleton.mpr lastSized.le_refl⟩⟩
      have valueSized : IsSized value := List.forall_mem_cons.mpr ⟨sized, before⟩ value earlier
      exact valueSized.le_of_lt lastSized
        (valueSized.lt_of_le_of_lt greatestSized lastSized (bound value earlier) above)
    · exact ⟨greatest, List.mem_append_left _ member, congrArg some (if_neg above),
        List.forall_mem_append.mpr ⟨bound,
          List.forall_mem_singleton.mpr ((greatestSized.not_lt_iff lastSized).mp above)⟩⟩

end Probabilities

/-! ### The probabilities of rules -/

namespace Rule

open Probabilities (surer)

variable {verdict : Verdict} {firing : List Rule} {errorType : ErrorType}

/-- The confidences of the rules for a type. -/
def confidencesFor (firing : List Rule) (errorType : ErrorType) : List Float :=
  (firing.filter (·.errorType = errorType)).map (·.confidence)

theorem mem_confidencesFor {value : Float} :
    value ∈ confidencesFor firing errorType ↔
      ∃ rule ∈ firing, rule.errorType = errorType ∧ rule.confidence = value := by
  unfold confidencesFor
  simp only [List.mem_map, List.mem_filter, decide_eq_true_eq, and_assoc]

theorem probabilities_append_singleton (verdict : Verdict) (early : List Rule) (last : Rule) :
    probabilities verdict (early ++ [last]) =
      (probabilities verdict early).raise last.errorType last.confidence := by
  unfold probabilities
  rw [List.foldl_append]
  rfl

theorem nodup_probabilities (verdict : Verdict) (firing : List Rule) :
    ((probabilities verdict firing).map (·.1)).Nodup := by
  induction firing using List.reverseRecOn with
  | nil => exact List.nodup_singleton _
  | append_singleton early last inductionHypothesis =>
    rw [probabilities_append_singleton]
    exact Probabilities.nodup_raise inductionHypothesis _ _

theorem get?_probabilities (verdict : Verdict) (firing : List Rule) (errorType : ErrorType) :
    (probabilities verdict firing).get? errorType =
      (confidencesFor firing errorType).foldl (fun held? value => some (surer held? value))
        (if verdict.errorType = errorType then some verdict.confidence else none) := by
  induction firing using List.reverseRecOn with
  | nil => exact Probabilities.get?_cons _ [] errorType
  | append_singleton early last inductionHypothesis =>
    rw [probabilities_append_singleton, Probabilities.get?_raise]
    unfold confidencesFor at inductionHypothesis ⊢
    rw [List.filter_append, List.map_append, List.foldl_append, ← inductionHypothesis]
    by_cases own : errorType = last.errorType
    · subst own
      rw [if_pos rfl, List.filter_singleton, decide_eq_true rfl]
      rfl
    · rw [if_neg own, List.filter_singleton, decide_eq_false (Ne.symm own)]
      rfl

/-- There are probabilities for the type of the verdict and for those of the rules. -/
theorem mem_keys_probabilities :
    errorType ∈ (probabilities verdict firing).map (·.1) ↔
      errorType = verdict.errorType ∨ ∃ rule ∈ firing, rule.errorType = errorType := by
  induction firing using List.reverseRecOn with
  | nil => simp [probabilities]
  | append_singleton early last inductionHypothesis =>
    rw [probabilities_append_singleton, Probabilities.map_fst_raise]
    simp only [List.mem_append, List.mem_singleton, or_and_right, exists_or, exists_eq_left,
      ← or_assoc, ← inductionHypothesis]
    split
    · rename_i known
      exact (or_iff_left_of_imp fun own => own ▸ known).symm
    · rw [List.mem_append, List.mem_singleton, eq_comm]

/-- What the probabilities begin with stays when no rule is surer. -/
theorem get?_probabilities_self (sure : ∀ rule ∈ firing, rule.confidence ≤ verdict.confidence) :
    (probabilities verdict firing).get? verdict.errorType = some verdict.confidence := by
  rw [get?_probabilities, if_pos rfl]
  refine Probabilities.foldl_surer_of_le fun value member => ?_
  obtain ⟨rule, fires, -, rfl⟩ := mem_confidencesFor.mp member
  exact sure rule fires

/-- Another type has the confidence of the surest of its rules. -/
theorem exists_get?_probabilities (confident : ∀ rule ∈ firing, IsConfidence rule.confidence)
    (other : verdict.errorType ≠ errorType) {rule : Rule} (fires : rule ∈ firing)
    (own : rule.errorType = errorType) :
    ∃ surest ∈ firing, surest.errorType = errorType ∧
      (probabilities verdict firing).get? errorType = some surest.confidence ∧
      ∀ rule ∈ firing, rule.errorType = errorType → rule.confidence ≤ surest.confidence := by
  have listed {rule : Rule} (fires : rule ∈ firing) (own : rule.errorType = errorType) :
      rule.confidence ∈ confidencesFor firing errorType :=
    mem_confidencesFor.mpr ⟨rule, fires, own, rfl⟩
  have sized : ∀ value ∈ confidencesFor firing errorType, IsSized value := by
    intro value member
    obtain ⟨rule, fires, -, rfl⟩ := mem_confidencesFor.mp member
    exact (confident rule fires).isSized
  have held := get?_probabilities verdict firing errorType
  rw [if_neg other] at held
  cases split : confidencesFor firing errorType with
  | nil => exact absurd (split ▸ listed fires own) List.not_mem_nil
  | cons first rest =>
    rw [split, List.foldl_cons, show surer none first = first from rfl] at held
    obtain ⟨firstSized, restSized⟩ := List.forall_mem_cons.mp (split ▸ sized)
    obtain ⟨greatest, member, folded, bound⟩ :=
      Probabilities.exists_foldl_surer firstSized restSized
    obtain ⟨surest, fires, own, rfl⟩ := mem_confidencesFor.mp (split ▸ member)
    exact ⟨surest, fires, own, held.trans folded,
      fun rule fires own => bound _ (split ▸ listed fires own)⟩

end Rule

/-! ### The probabilities of a classifier -/

namespace RuleClassifier

section Fitted

variable [Pattern.Dialect] (classifier : RuleClassifier) {set : TrainingSet} (valid : set.IsValid)
  (message : String)

include valid

theorem probabilities_fit :
    let fitted := (classifier.fit set).1
    let firing := fitted.firing message
    fitted.probabilities message = .ok (Rule.probabilities (Rule.judge firing message) firing) := by
  intro fitted firing
  unfold RuleClassifier.probabilities
  rw [classifier.predict_fit valid message]
  rfl

/-- The verdict is on the first of the surest rules, as far as any rule fires. -/
theorem exists_leads_fit (some : (classifier.fit set).1.firing message ≠ []) :
    ∃ first ∈ (classifier.fit set).1.firing message,
      (Rule.judge ((classifier.fit set).1.firing message) message).errorType = first.errorType ∧
      (Rule.judge ((classifier.fit set).1.firing message) message).confidence = first.confidence ∧
      ∀ rule ∈ (classifier.fit set).1.firing message, rule.confidence ≤ first.confidence := by
  obtain ⟨first, leads⟩ :=
    Rule.Finding.exists_leads some (classifier.isConfidence_of_mem_firing valid message)
  rw [leads.judge_eq message]
  refine ⟨first, List.mem_of_find?_eq_some leads.found, ?_, leads.confidence, fun rule fires => ?_⟩
  · exact congrArg (·.getD .unknownError) leads.errorType?
  · exact leads.confidence ▸ leads.greatest rule fires

theorem le_confidence_judge_fit :
    let firing := (classifier.fit set).1.firing message
    ∀ rule ∈ firing, rule.confidence ≤ (Rule.judge firing message).confidence := by
  intro firing rule fires
  obtain ⟨first, -, -, confidence, greatest⟩ :=
    classifier.exists_leads_fit valid message (List.ne_nil_of_mem fires)
  exact confidence ▸ greatest rule fires

/-- A verdict has a confidence above zero, or nothing is known. -/
theorem judge_fit_cases :
    let verdict := Rule.judge ((classifier.fit set).1.firing message) message
    0 < verdict.confidence ∨ verdict.errorType = .unknownError ∧ verdict.confidence = 0 := by
  intro verdict
  by_cases none : (classifier.fit set).1.firing message = []
  · rw [show verdict = Rule.judge [] message from congrArg (Rule.judge · message) none]
    unfold Rule.judge Rule.Finding.orKeyword
    cases Rule.fallback.find? fun entry => Keyword.occursIn entry.1 message with
    | none => exact .inr ⟨rfl, rfl⟩
    | some entry =>
      have half : 0 < Rule.fallbackConfidence := by decide +kernel
      exact .inl half
  · obtain ⟨first, fires, -, confidence, -⟩ := classifier.exists_leads_fit valid message none
    rw [show verdict.confidence = first.confidence from confidence]
    exact .inl (classifier.isConfidence_of_mem_firing valid message first fires).pos

theorem isSized_confidence_judge_fit :
    IsSized (Rule.judge ((classifier.fit set).1.firing message) message).confidence := by
  obtain positive | ⟨-, zero⟩ := classifier.judge_fit_cases valid message
  · exact Number.exists_hasSize_of_pos positive
  · rw [zero]
    exact Number.hasSize_zero_literal.isSized

theorem mem_firing_fit (rule : Rule) :
    rule ∈ (classifier.fit set).1.firing message ↔
      rule ∈ (classifier.fit set).1.rules ∧ Pattern.sourceOccursIn rule.pattern message := by
  rw [classifier.fit_of_ok valid.check_eq]
  refine List.mem_filter.trans (and_congr_right fun learned => ?_)
  exact classifier.fires_buildRules set learned message

end Fitted

/-- Verdict and probabilities agree. A classifier that has been fitted to a valid set gives both for
every message. The rules that fire are those learned ones whose patterns occur in the message. There is
one probability each for the type of the verdict and for the types of the rules that fire, and there
are no others. That of the verdict's type is the confidence of the verdict, and none is greater. For
every type with a rule that fires it is the confidence of the surest of its rules. When no rule fires,
the type of the verdict and its confidence are all there is. -/
theorem verdict_among_probabilities [Pattern.Dialect] (classifier : RuleClassifier) {set : TrainingSet}
    (valid : set.IsValid) (message : String) :
    let fitted := (classifier.fit set).1
    let firing := fitted.firing message
    ∃ verdict probabilities, fitted.predict message = .ok verdict ∧
      fitted.probabilities message = .ok probabilities ∧
      (∀ rule, rule ∈ firing ↔
        rule ∈ fitted.rules ∧ Pattern.sourceOccursIn rule.pattern message) ∧
      (probabilities.map (·.1)).Nodup ∧
      (∀ errorType, errorType ∈ probabilities.map (·.1) ↔
        errorType = verdict.errorType ∨ ∃ rule ∈ firing, rule.errorType = errorType) ∧
      (verdict.errorType, verdict.confidence) ∈ probabilities ∧
      (∀ errorType value, (errorType, value) ∈ probabilities → value ≤ verdict.confidence) ∧
      (∀ errorType, (∃ rule ∈ firing, rule.errorType = errorType) →
        ∃ surest ∈ firing, surest.errorType = errorType ∧
          (errorType, surest.confidence) ∈ probabilities ∧
          ∀ rule ∈ firing, rule.errorType = errorType → rule.confidence ≤ surest.confidence) ∧
      (firing = [] → probabilities = [(verdict.errorType, verdict.confidence)]) := by
  intro fitted firing
  let verdict := Rule.judge firing message
  have distinct := Rule.nodup_probabilities verdict firing
  have find {errorType : ErrorType} {value : Float} :
      (Rule.probabilities verdict firing).get? errorType = some value ↔
        (errorType, value) ∈ Rule.probabilities verdict firing :=
    Probabilities.get?_eq_some_iff distinct
  have sure := classifier.le_confidence_judge_fit valid message
  have own := Rule.get?_probabilities_self sure
  have surest (errorType : ErrorType) (some : ∃ rule ∈ firing, rule.errorType = errorType) :
      ∃ surest ∈ firing, surest.errorType = errorType ∧
        (errorType, surest.confidence) ∈ Rule.probabilities verdict firing ∧
        ∀ rule ∈ firing, rule.errorType = errorType → rule.confidence ≤ surest.confidence := by
    obtain ⟨rule, fires, same⟩ := some
    by_cases predicted : verdict.errorType = errorType
    · obtain ⟨first, member, firstType, confidence, greatest⟩ :=
        classifier.exists_leads_fit valid message (List.ne_nil_of_mem fires)
      subst predicted
      refine ⟨first, member, firstType.symm, ?_, fun rule fires _ => greatest rule fires⟩
      exact confidence ▸ find.mp own
    · obtain ⟨surest, member, surestType, held, greatest⟩ := Rule.exists_get?_probabilities
        (classifier.isConfidence_of_mem_firing valid message) predicted fires same
      exact ⟨surest, member, surestType, find.mp held, greatest⟩
  refine ⟨verdict, Rule.probabilities verdict firing, classifier.predict_fit valid message,
    classifier.probabilities_fit valid message, classifier.mem_firing_fit valid message, distinct,
    fun _ => Rule.mem_keys_probabilities, find.mp own, fun errorType value member => ?_, surest,
    fun none => ?_⟩
  · obtain rfl | some := Rule.mem_keys_probabilities.mp (List.mem_map_of_mem member)
    · obtain rfl : verdict.confidence = value :=
        Option.some.inj (own.symm.trans (find.mpr member))
      exact (classifier.isSized_confidence_judge_fit valid message).le_refl
    · obtain ⟨surest, fires, -, held, -⟩ := surest errorType some
      obtain rfl : surest.confidence = value :=
        Option.some.inj ((find.mpr held).symm.trans (find.mpr member))
      exact sure surest fires
  · unfold Rule.probabilities
    rw [none]
    rfl

/-- The case of a type with two rules that fire, of which the surer one counts, behind a type that is as
sure. -/
theorem verdict_among_probabilities_of_two_rules :
    let set : TrainingSet := ⟨["frame late", "link lost", "link down"],
      [.timeoutError, .networkError, .networkError], [], []⟩
    let fitted := (({ name := "own", library := ["late", "link", "lost"] } : RuleClassifier).fit set).1
    ∃ verdict probabilities, fitted.predict "link late or lost" = .ok verdict ∧
      fitted.probabilities "link late or lost" = .ok probabilities ∧
      (verdict.errorType, verdict.confidence) ∈ probabilities ∧
      (.networkError, 1) ∈ probabilities ∧ (1 : Float) ≤ verdict.confidence := by
  intro set fitted
  have valid : set.IsValid := ⟨rfl, by decide⟩
  -- The rules are in order as they are collected, and all of them fire.
  let collected := Rule.learnUnsorted (Rule.compileAll ["late", "link", "lost"]) set
  have rules : fitted.rules = collected :=
    (congrArg (·.1.rules) (fit_of_ok _ valid.check_eq)).trans
      ((rules_buildRules _ set).trans (List.mergeSort_of_pairwise (by decide +kernel)))
  have firing : fitted.firing "link late or lost" = collected := by
    unfold RuleClassifier.firing
    rw [rules]
    exact List.filter_eq_self.mpr (by decide +kernel)
  obtain ⟨verdict, probabilities, predicted, given, _, _, _, own, greatest, surest, _⟩ :=
    verdict_among_probabilities { name := "own", library := ["late", "link", "lost"] } valid
      "link late or lost"
  change ∀ errorType, (∃ rule ∈ fitted.firing "link late or lost", _) → _ at surest
  rw [firing] at surest
  obtain ⟨rule, fires, type, held, bound⟩ := surest .networkError (by decide +kernel)
  have second : ∀ one ∈ collected, one.errorType = .networkError →
      (∀ two ∈ collected, two.errorType = .networkError → two.confidence ≤ one.confidence) →
        one.confidence = 1 := by
    decide +kernel
  rw [second rule fires type bound] at held
  exact ⟨verdict, probabilities, predicted, given, own, held, greatest _ _ held⟩

end RuleClassifier

end Triage
