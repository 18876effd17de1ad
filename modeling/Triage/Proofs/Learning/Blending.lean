/-
This file proves what a blend makes of its two parts. Verdicts are blended in one way and probabilities
in another, and a type that is missing among the probabilities of a part counts as impossible there. The
two ways agree where the parts name the same type: what a part holds for the type of its own verdict is
the confidence of this verdict, also when the cues have found nothing and hold nothing for any type,
since they then have no confidence either.

For the same reason the type of a blended verdict always has a probability. The cues win without having
found anything only when the rules know nothing, and then both are about the unknown type, for which the
rules hold a probability in any case.
-/

import Triage.Proofs.Learning.Probabilities
import Triage.Proofs.Learning.Support

namespace Triage

/-! ### The verdict of cues among their probabilities -/

/-- A verdict by cues is on a type with a probability, or there is none and nothing is known. -/
theorem Cue.judge_cases (table : List (ErrorType × List Cue)) (message : String) :
    let verdict := judge table message
    (verdict.errorType, verdict.confidence) ∈ probabilities table message ∨
      probabilities table message = [] ∧ verdict.errorType = .unknownError ∧
        verdict.confidence = 0 := by
  unfold judge
  cases found : (supports table message).foldl better none with
  | none =>
    obtain ⟨-, weak⟩ := (foldl_better_eq_none_iff _ none).mp found
    refine .inr ⟨List.map_eq_nil_iff.mpr (List.filter_eq_nil_iff.mpr ?_), rfl, rfl⟩
    exact fun support listed positive => weak support listed (of_decide_eq_true positive)
  | some support =>
    have positive : 0 < support.total := isPositive_foldl _ isPositive_none support found
    refine .inl (List.mem_map.mpr ⟨support, List.mem_filter.mpr ⟨?_, decide_eq_true positive⟩, rfl⟩)
    exact mem_of_foldl_better found

/-! ### Blended probabilities -/

namespace Blend

variable {byRules byCues : Probabilities} {errorType : ErrorType}

theorem map_fst_probabilities (byRules byCues : Probabilities) :
    (probabilities byRules byCues).map (·.1) =
      byRules.map (·.1) ++ (byCues.map (·.1)).filter fun errorType =>
        (byRules.get? errorType).isNone := by
  unfold probabilities
  rw [List.map_map, List.filter_map]
  exact List.map_append

theorem mem_keys_probabilities :
    errorType ∈ (probabilities byRules byCues).map (·.1) ↔
      errorType ∈ byRules.map (·.1) ∨ errorType ∈ byCues.map (·.1) := by
  rw [map_fst_probabilities, List.mem_append, List.mem_filter, Probabilities.mem_keys_iff]
  cases byRules.get? errorType with
  | none => simp
  | some _ => simp

theorem nodup_probabilities (rules : (byRules.map (·.1)).Nodup) (cues : (byCues.map (·.1)).Nodup) :
    ((probabilities byRules byCues).map (·.1)).Nodup := by
  rw [map_fst_probabilities]
  refine List.nodup_append.mpr ⟨rules, cues.filter _, ?_⟩
  rintro errorType held other missing rfl
  have absent := (List.mem_filter.mp missing).2
  rw [Option.isNone_iff_eq_none] at absent
  exact absurd (Probabilities.mem_keys_iff.mp held) (by rw [absent]; decide)

/-- A type that has a probability in either part has the weighted sum of both. -/
theorem get?_probabilities (known : errorType ∈ (probabilities byRules byCues).map (·.1)) :
    (probabilities byRules byCues).get? errorType =
      some (confidence ((byRules.get? errorType).getD 0) ((byCues.get? errorType).getD 0)) := by
  let value (errorType : ErrorType) : Float :=
    confidence ((byRules.get? errorType).getD 0) ((byCues.get? errorType).getD 0)
  have entries : probabilities byRules byCues =
      ((probabilities byRules byCues).map (·.1)).map fun errorType => (errorType, value errorType) := by
    conv_lhs => unfold probabilities
    unfold probabilities
    rw [List.map_map, List.map_map]
    rfl
  unfold Probabilities.get?
  rw [entries, find?_map_key _ value known]
  rfl

end Blend

/-! ### The parts by themselves -/

/-- What rules say after a fit depends on the library and the set alone. -/
theorem RuleClassifier.firing_fit_congr [Pattern.Dialect] {classifier other : RuleClassifier}
    {set : TrainingSet} (checked : set.check = .ok ()) (same : classifier.library = other.library)
    (message : String) :
    (classifier.fit set).1.firing message = (other.fit set).1.firing message := by
  unfold RuleClassifier.firing
  rw [classifier.fires_fit_congr checked checked same, classifier.rules_fit checked,
    other.rules_fit checked, same]

theorem CueClassifier.predict_fit [Pattern.Dialect] (classifier : CueClassifier) {set : TrainingSet}
    (checked : set.check = .ok ()) (message : String) :
    (classifier.fit set).1.predict message = .ok (Cue.judge (Cue.learn set) message) ∧
      (classifier.fit set).1.probabilities message =
        .ok (Cue.probabilities (Cue.learn set) message) := by
  rw [classifier.fit_of_ok checked]
  exact ⟨rfl, rfl⟩

/-! ### What a blend says -/

namespace BlendClassifier

variable (classifier : BlendClassifier) {set : TrainingSet} {message : String}
  {byRules byCues : Verdict} {ruleOdds cueOdds : Probabilities}

/-- A fitted blend answers by what its parts say that are fitted to the same set. -/
theorem answers_of_parts [Pattern.Dialect] (checked : set.check = .ok ())
    (rules : (classifier.ruleClassifier.fit set).1.predict message = .ok byRules)
    (cues : (classifier.cueClassifier.fit set).1.predict message = .ok byCues)
    (ruleProbabilities : (classifier.ruleClassifier.fit set).1.probabilities message = .ok ruleOdds)
    (cueProbabilities : (classifier.cueClassifier.fit set).1.probabilities message = .ok cueOdds) :
    (classifier.fit set).1.predict message = .ok (Blend.verdict byRules byCues) ∧
      (classifier.fit set).1.probabilities message = .ok (Blend.probabilities ruleOdds cueOdds) := by
  rw [classifier.fit_of_ok checked]
  unfold predict probabilities
  simp only [rules, cues, ruleProbabilities, cueProbabilities]
  exact ⟨rfl, rfl⟩

end BlendClassifier

theorem Blend.verdict_errorType (byRules byCues : Verdict) :
    (verdict byRules byCues).errorType =
      if byRules.confidence > byCues.confidence then byRules.errorType else byCues.errorType := by
  unfold verdict
  simp only
  split
  · rfl
  · rfl

theorem Blend.verdict_confidence (byRules byCues : Verdict) :
    (verdict byRules byCues).confidence = confidence byRules.confidence byCues.confidence := by
  unfold verdict
  simp only
  split
  · rfl
  · rfl

namespace BlendClassifier

/-- A blend is made of its parts. A classifier that has been fitted to a valid set gives a verdict and
probabilities for every message, and so do classifiers by rules with the same library and by cues that
are fitted to the set by themselves. The type of the blend is that of the rules when they are surer, and
else that of the cues, and its confidence is the weighted sum of both in either case. Its type always
has a probability. When both parts name the same type, this probability is the confidence of the
blend. -/
theorem blend_made_of_parts [Pattern.Dialect] (classifier : BlendClassifier) {set : TrainingSet}
    (valid : set.IsValid) (message : String) (rules : RuleClassifier)
    (sameLibrary : rules.library = classifier.ruleClassifier.library) (cues : CueClassifier) :
    let fitted := (classifier.fit set).1
    ∃ byRules byCues verdict probabilities,
      (rules.fit set).1.predict message = .ok byRules ∧
      (cues.fit set).1.predict message = .ok byCues ∧
      fitted.predict message = .ok verdict ∧ fitted.probabilities message = .ok probabilities ∧
      verdict.errorType =
        (if byRules.confidence > byCues.confidence then byRules.errorType else byCues.errorType) ∧
      verdict.confidence = byRules.confidence * 0.4 + byCues.confidence * 0.6 ∧
      (probabilities.map (·.1)).Nodup ∧ verdict.errorType ∈ probabilities.map (·.1) ∧
      (byRules.errorType = byCues.errorType →
        (verdict.errorType, verdict.confidence) ∈ probabilities) := by
  intro fitted
  have checked := valid.check_eq
  let firing := (classifier.ruleClassifier.fit set).1.firing message
  let byRules := Rule.judge firing message
  let byCues := Cue.judge (Cue.learn set) message
  let ruleOdds := Rule.probabilities byRules firing
  let cueOdds := Cue.probabilities (Cue.learn set) message
  have byThemselves : (rules.fit set).1.predict message = .ok byRules := by
    rw [rules.predict_fit valid, RuleClassifier.firing_fit_congr checked sameLibrary]
  obtain ⟨cuesPredict, cuesGive⟩ := classifier.cueClassifier.predict_fit checked message
  obtain ⟨predicted, given⟩ := classifier.answers_of_parts checked
    (classifier.ruleClassifier.predict_fit valid message) cuesPredict
    (classifier.ruleClassifier.probabilities_fit valid message) cuesGive
  have ruleFind : ruleOdds.get? byRules.errorType = some byRules.confidence :=
    Rule.get?_probabilities_self (classifier.ruleClassifier.le_confidence_judge_fit valid message)
  have ruleKey : byRules.errorType ∈ ruleOdds.map (·.1) :=
    Rule.mem_keys_probabilities.mpr (.inl rfl)
  have cueDistinct : (cueOdds.map (·.1)).Nodup := by
    have distinct := classifier.cueClassifier.nodup_keys_fit valid message
    rwa [classifier.cueClassifier.fit_of_ok checked] at distinct
  have distinct : ((Blend.probabilities ruleOdds cueOdds).map (·.1)).Nodup :=
    Blend.nodup_probabilities (Rule.nodup_probabilities byRules firing) cueDistinct
  have key : (Blend.verdict byRules byCues).errorType ∈
      (Blend.probabilities ruleOdds cueOdds).map (·.1) := by
    rw [Blend.mem_keys_probabilities, Blend.verdict_errorType]
    split
    · exact .inl ruleKey
    · rename_i notSurer
      obtain held | ⟨-, unknown, zero⟩ := Cue.judge_cases (Cue.learn set) message
      · exact .inr (List.mem_map_of_mem held)
      · -- Cues without any confidence win only against rules without any.
        obtain positive | ⟨ruleUnknown, -⟩ :=
          classifier.ruleClassifier.judge_fit_cases valid message
        · exact absurd (show byRules.confidence > byCues.confidence from zero ▸ positive) notSurer
        · exact .inl (show byCues.errorType ∈ _ from unknown.trans ruleUnknown.symm ▸ ruleKey)
  refine ⟨byRules, byCues, _, _, byThemselves, (cues.predict_fit checked message).1, predicted, given,
    Blend.verdict_errorType _ _, Blend.verdict_confidence _ _, distinct, key, fun same => ?_⟩
  have own : (Blend.verdict byRules byCues).errorType = byRules.errorType := by
    rw [Blend.verdict_errorType, same]
    split <;> rfl
  have cueFind : (cueOdds.get? byRules.errorType).getD 0 = byCues.confidence := by
    obtain held | ⟨empty, -, zero⟩ := Cue.judge_cases (Cue.learn set) message
    · rw [same, (Probabilities.get?_eq_some_iff cueDistinct).mpr held]
      rfl
    · rw [show cueOdds = [] from empty, show byCues.confidence = 0 from zero]
      rfl
  rw [← Probabilities.get?_eq_some_iff distinct, Blend.get?_probabilities key,
    Blend.verdict_confidence, own, ruleFind, cueFind]
  rfl

/-- The case of a rule that has been learned for the unknown type, beside cues that find nothing. -/
theorem blend_made_of_parts_without_cues :
    let set : TrainingSet := ⟨["unauthorized"], [.unknownError], [], []⟩
    let fitted := ((create "own").fit set).1
    ∃ verdict probabilities, fitted.predict "Unauthorized!" = .ok verdict ∧
      fitted.probabilities "Unauthorized!" = .ok probabilities ∧
      verdict.errorType = .unknownError ∧ verdict.confidence = 0.4 ∧
      (.unknownError, 0.4) ∈ probabilities := by
  intro set fitted
  have valid : set.IsValid := ⟨rfl, by decide⟩
  obtain ⟨byRules, byCues, verdict, probabilities, rules, cues, predicted, given, type, confidence, _,
    _, agree⟩ := blend_made_of_parts (create "own") valid "Unauthorized!" { name := "rules" } rfl
      { name := "cues" }
  have ruleFound : ((({ name := "rules" } : RuleClassifier).fit set).1.predict
      "Unauthorized!").toOption.map (fun verdict => (verdict.errorType, verdict.confidence)) =
        some (.unknownError, 1) := by decide +kernel
  have cueFound : ((({ name := "cues" } : CueClassifier).fit set).1.predict
      "Unauthorized!").toOption.map (fun verdict => (verdict.errorType, verdict.confidence)) =
        some (.unknownError, 0) := by decide +kernel
  rw [rules] at ruleFound
  rw [cues] at cueFound
  obtain ⟨ruleType, ruleConfidence⟩ := Prod.mk.inj (Option.some.inj ruleFound)
  obtain ⟨cueType, cueConfidence⟩ := Prod.mk.inj (Option.some.inj cueFound)
  have own : verdict.errorType = .unknownError := by
    rw [type]
    split
    · exact ruleType
    · exact cueType
  have sum : verdict.confidence = 0.4 := by
    rw [confidence, ruleConfidence, cueConfidence]
    decide +kernel
  have held := agree (ruleType.trans cueType.symm)
  rw [own, sum] at held
  exact ⟨verdict, probabilities, predicted, given, own, sum, held⟩

end BlendClassifier

end Triage
