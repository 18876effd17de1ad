/-
This file proves that whatever a classifier says about its own sureness is a degree between zero and one,
and that it is zero just when nothing has been found. What is learned is above zero and at most one from
the beginning. Rules hand one such confidence on, or the fixed one of a keyword. Cues are added up, but a
sum is cut off at one before anybody sees it.

A blend adds two weighted parts, each of which is rounded. The weights are doubles whose exact sum is one,
so that no rounding can lead beyond it: a part is at most its weight, and the sum of the parts is at most
the sum of the weights. Nor can rounding lose what has been found, because a confidence is far enough from
zero to stay above it when it is weighted.
-/

import Triage.Proofs.Learning.Blending

namespace Triage

open Number (HasSize IsDouble IsSized)

/-! ### Degrees -/

/-- A value is zero or a confidence. -/
def IsDegree (value : Float) : Prop :=
  value = 0 ∨ IsConfidence value

/-- A value lies between zero and one. -/
def IsWithinUnit (value : Float) : Prop :=
  0 ≤ value ∧ value ≤ 1

theorem isWithinUnit_of_hasSize {value : Float} {size : ℚ} (sized : HasSize value size)
    (below : size ≤ 1) : IsWithinUnit value := by
  refine ⟨(Cue.isSized_zero.le_iff sized.isSized).mpr ?_,
    (sized.isSized.le_iff Cue.isSized_one).mpr ?_⟩
  · rw [Number.hasSize_zero_literal.magnitude_eq, sized.magnitude_eq]
    exact WithTop.coe_nonneg.mpr sized.isDouble.nonneg
  · rw [Number.hasSize_literal_one.magnitude_eq, sized.magnitude_eq]
    exact WithTop.coe_le_coe.mpr below

theorem IsDegree.exists_hasSize {value : Float} (isDegree : IsDegree value) :
    ∃ size : ℚ, HasSize value size ∧ size ≤ 1 ∧ (value ≠ 0 → 2 ^ (-68 : Int) ≤ size) := by
  obtain rfl | ⟨size, sized, above, below⟩ := isDegree
  · exact ⟨0, Number.hasSize_zero_literal, zero_le_one, fun nonzero => absurd rfl nonzero⟩
  · exact ⟨size, sized, below, fun _ => above⟩

theorem IsDegree.isWithinUnit {value : Float} (isDegree : IsDegree value) : IsWithinUnit value := by
  obtain ⟨size, sized, below, _⟩ := isDegree.exists_hasSize
  exact isWithinUnit_of_hasSize sized below

theorem IsConfidence.le_one {value : Float} (isConfidence : IsConfidence value) : value ≤ 1 :=
  (IsDegree.isWithinUnit (.inr isConfidence)).2

theorem IsConfidence.ne_zero {value : Float} (isConfidence : IsConfidence value) : value ≠ 0 := by
  rintro rfl
  exact Number.not_lt_self 0 isConfidence.pos

theorem isConfidence_one : IsConfidence 1 :=
  ⟨1, Number.hasSize_literal_one, zpow_le_one_of_nonpos₀ one_le_two (by decide), le_rfl⟩

/-- A verdict has found nothing and has no confidence, or it has found something and has one. -/
def Verdict.IsMeasured (verdict : Verdict) : Prop :=
  verdict.matched = [] ∧ verdict.confidence = 0 ∨
    verdict.matched ≠ [] ∧ IsConfidence verdict.confidence

theorem Verdict.IsMeasured.isDegree {verdict : Verdict} (measured : verdict.IsMeasured) :
    IsDegree verdict.confidence := by
  obtain ⟨-, zero⟩ | ⟨-, isConfidence⟩ := measured
  · exact .inl zero
  · exact .inr isConfidence

/-- A verdict has a degree for its confidence, which is zero just when it has found nothing. -/
structure Verdict.IsBounded (verdict : Verdict) : Prop where
  within : IsWithinUnit verdict.confidence
  zero_iff : (verdict.confidence == 0) = true ↔ verdict.matched = []

theorem beq_zero_of_pos {value : Float} (positive : 0 < value) : (value == 0) = false :=
  Bool.eq_false_iff.mpr fun same => Number.not_lt_of_lt positive
    (absurd positive ((Number.le_iff value 0).mp ((Number.beq_iff value 0).mp same).1).2)

theorem Verdict.IsMeasured.isBounded {verdict : Verdict} (measured : verdict.IsMeasured) :
    verdict.IsBounded := by
  refine ⟨measured.isDegree.isWithinUnit, ?_⟩
  obtain ⟨nothing, zero⟩ | ⟨found, isConfidence⟩ := measured
  · exact iff_of_true (zero ▸ Cue.isSized_zero.beq_self) nothing
  · exact iff_of_false (Bool.eq_false_iff.mp (beq_zero_of_pos isConfidence.pos)) found

/-! ### Rules -/

theorem isConfidence_fallback : IsConfidence Rule.fallbackConfidence := by
  have unpacked : Rule.fallbackConfidence.toModel.unpack =
      .finite .positive (2 ^ 52) (-53) (by decide) := by rfl
  have value : ((2 ^ 52 : Nat) * 2 ^ (-53 : Int) : ℚ) = 2 ^ (-1 : Int) := by norm_num
  refine ⟨2 ^ (-1 : Int), ?_, zpow_le_zpow_right₀ one_le_two (by decide),
    zpow_le_one_of_nonpos₀ one_le_two (by decide)⟩
  rw [← value, HasSize, unpacked]
  rfl

namespace Rule

variable {firing : List Rule} (confident : ∀ rule ∈ firing, IsConfidence rule.confidence)

include confident

/-- The confidence is that of a rule or of a keyword. -/
theorem isMeasured_judge (message : String) : (judge firing message).IsMeasured := by
  obtain rfl | some := eq_or_ne firing []
  · unfold judge Finding.orKeyword
    cases fallback.find? fun entry => Keyword.occursIn entry.1 message with
    | none => exact .inl ⟨rfl, rfl⟩
    | some entry => exact .inr ⟨List.cons_ne_nil _ _, isConfidence_fallback⟩
  · obtain ⟨first, leads⟩ := Finding.exists_leads some confident
    have member : first ∈ firing := List.mem_of_find?_eq_some leads.found
    rw [leads.judge_eq message]
    refine .inr ⟨?_, ?_⟩
    · show (firing.foldl Finding.add {}).matched ≠ []
      rw [leads.matched]
      refine List.ne_nil_of_mem (List.mem_map_of_mem (List.mem_filter.mpr ⟨member, ?_⟩))
      simpa using List.find?_some leads.found
    · show IsConfidence (firing.foldl Finding.add {}).confidence
      exact leads.confidence ▸ confident first member

theorem isDegree_of_mem_probabilities {verdict : Verdict} (isDegree : IsDegree verdict.confidence)
    (sure : ∀ rule ∈ firing, rule.confidence ≤ verdict.confidence) :
    ∀ entry ∈ probabilities verdict firing, IsDegree entry.2 := by
  rintro ⟨errorType, value⟩ member
  have held := (Probabilities.get?_eq_some_iff (nodup_probabilities verdict firing)).mpr member
  obtain rfl | other := eq_or_ne verdict.errorType errorType
  · obtain rfl : verdict.confidence = value :=
      Option.some.inj ((get?_probabilities_self sure).symm.trans held)
    exact isDegree
  · have key := mem_keys_probabilities.mp (List.mem_map_of_mem member)
    obtain ⟨rule, fires, own⟩ := key.resolve_left (Ne.symm other)
    obtain ⟨surest, fires, -, surestHeld, -⟩ := exists_get?_probabilities confident other fires own
    obtain rfl : surest.confidence = value := Option.some.inj (surestHeld.symm.trans held)
    exact .inr (confident surest fires)

end Rule

/-! ### Cues -/

namespace Cue

/-- A sum with something to add is a confidence when it is cut off. -/
theorem isConfidence_capped_total {support : Support}
    (confident : ∀ cue ∈ support.cues, IsConfidence cue.confidence) (some : support.cues ≠ []) :
    IsConfidence (capped support.total) := by
  obtain ⟨total, sized, above⟩ := exists_hasSize_total support.cues confident
  unfold capped
  split
  · exact isConfidence_one
  · rename_i within
    have below : total ≤ (1 : ℚ) :=
      not_lt.mp fun above => within ((Number.hasSize_literal_one.lt_iff sized).mpr above)
    obtain ⟨size, rfl⟩ := WithTop.ne_top_iff_exists.mp (ne_top_of_le_ne_top WithTop.coe_ne_top below)
    exact ⟨size, sized, WithTop.coe_le_coe.mp (above some), WithTop.coe_le_coe.mp below⟩

section

variable {table : List (ErrorType × List Cue)}
  (confident : ∀ entry ∈ table, ∀ cue ∈ entry.2, IsConfidence cue.confidence) (message : String)

include confident

theorem isConfidence_of_mem_supports {support : Support}
    (listed : support ∈ supports table message) (positive : 0 < support.total) :
    IsConfidence (capped support.total) ∧ support.cues ≠ [] := by
  obtain ⟨errorType, cues, entry, rfl⟩ := mem_supports.mp listed
  have own : ∀ cue ∈ cues.filter (·.fires message), IsConfidence cue.confidence :=
    fun cue member => confident _ entry cue (List.mem_of_mem_filter member)
  have some := (total_pos_iff own).mp positive
  exact ⟨isConfidence_capped_total own some, some⟩

theorem isMeasured_judge : (judge table message).IsMeasured := by
  unfold judge
  cases found : (supports table message).foldl better none with
  | none => exact .inl ⟨rfl, rfl⟩
  | some support =>
    obtain ⟨isConfidence, some⟩ := isConfidence_of_mem_supports confident message
      (mem_of_foldl_better found) (isPositive_foldl _ isPositive_none support found)
    exact .inr ⟨mt List.map_eq_nil_iff.mp some, isConfidence⟩

theorem isDegree_of_mem_probabilities :
    ∀ entry ∈ probabilities table message, IsDegree entry.2 := by
  intro entry member
  obtain ⟨support, kept, rfl⟩ := List.mem_map.mp member
  obtain ⟨listed, positive⟩ := List.mem_filter.mp kept
  exact .inr (isConfidence_of_mem_supports confident message listed (of_decide_eq_true positive)).1

end

theorem confident_learn [Pattern.Dialect] {set : TrainingSet} (valid : set.IsValid) :
    ∀ entry ∈ learn set, ∀ cue ∈ entry.2, IsConfidence cue.confidence :=
  fun _ entry _ listed => (isConfidence_of_mem_learn valid.countable entry listed).1

end Cue

/-! ### Blends -/

namespace Blend

theorem hasSize_ruleWeight : HasSize ruleWeight (7205759403792794 * 2 ^ (-54 : Int) : ℚ) := by
  have unpacked : ruleWeight.toModel.unpack =
      .finite .positive 7205759403792794 (-54) (by decide) := by rfl
  rw [HasSize, unpacked]
  rfl

theorem hasSize_cueWeight : HasSize cueWeight (5404319552844595 * 2 ^ (-53 : Int) : ℚ) := by
  have unpacked : cueWeight.toModel.unpack =
      .finite .positive 5404319552844595 (-53) (by decide) := by rfl
  rw [HasSize, unpacked]
  rfl

/-- The weights are not the decimals that they are written as, but they add up to one all the same. -/
theorem weights_eq_one :
    (7205759403792794 * 2 ^ (-54 : Int) + 5404319552844595 * 2 ^ (-53 : Int) : ℚ) = 1 := by
  norm_num

/-- A blend of degrees lies between zero and one, and it is above zero when one of them is. -/
theorem confidence_bounds {byRules byCues : Float} (rules : IsDegree byRules)
    (cues : IsDegree byCues) :
    IsWithinUnit (confidence byRules byCues) ∧
      (byRules ≠ 0 ∨ byCues ≠ 0 → 0 < confidence byRules byCues) := by
  obtain ⟨ruleSize, ruleSized, ruleBelow, ruleAbove⟩ := rules.exists_hasSize
  obtain ⟨cueSize, cueSized, cueBelow, cueAbove⟩ := cues.exists_hasSize
  -- Both weights are above a quarter, so that a weighted confidence loses two binary places at most.
  let least (value : Float) : ℚ := if value = 0 then 0 else 2 ^ (-70 : Int)
  have isDouble (value : Float) : IsDouble (least value) := by
    unfold least
    split
    · exact Number.isDouble_zero
    · exact Number.isDouble_zpow (by decide) (by decide)
  have reached {value : Float} {size weight : ℚ} (nonneg : 0 ≤ size)
      (above : value ≠ 0 → 2 ^ (-68 : Int) ≤ size) (heavy : 2 ^ (-2 : Int) ≤ weight) :
      least value ≤ size * weight := by
    unfold least
    split
    · exact mul_nonneg nonneg ((Number.two_zpow_pos _).le.trans heavy)
    · rename_i nonzero
      calc (2 ^ (-70 : Int) : ℚ)
        _ = 2 ^ (-68 : Int) * 2 ^ (-2 : Int) := by rw [← zpow_add₀ two_ne_zero]; rfl
        _ ≤ size * weight := mul_le_mul (above nonzero) heavy (Number.two_zpow_pos _).le nonneg
  obtain ⟨part, partSized, partAbove, partBelow⟩ := ruleSized.exists_weighted hasSize_ruleWeight
    ruleBelow (isDouble byRules) (reached ruleSized.isDouble.nonneg ruleAbove (by norm_num))
  obtain ⟨other, otherSized, otherAbove, otherBelow⟩ := cueSized.exists_weighted hasSize_cueWeight
    cueBelow (isDouble byCues) (reached cueSized.isDouble.nonneg cueAbove (by norm_num))
  have limit : part + other ≤ 1 := weights_eq_one ▸ add_le_add partBelow otherBelow
  have sumSized := partSized.add otherSized
  obtain ⟨sum, rounded, -, below⟩ := Number.exists_rounded_eq Number.isDouble_zero Number.isDouble_one
    (add_nonneg partSized.isDouble.nonneg otherSized.isDouble.nonneg) limit
  rw [rounded] at sumSized
  refine ⟨isWithinUnit_of_hasSize sumSized below, fun found => ?_⟩
  have positive : 0 < least byRules ∨ 0 < least byCues := by
    unfold least
    exact found.imp (fun nonzero => by rw [if_neg nonzero]; exact Number.two_zpow_pos _)
      fun nonzero => by rw [if_neg nonzero]; exact Number.two_zpow_pos _
  refine sumSized.pos_iff.mpr ?_
  rw [← rounded]
  obtain positive | positive := positive
  · refine (WithTop.coe_pos.mpr positive).trans_le ((isDouble byRules).le_rounded ?_)
    exact partAbove.trans (le_add_of_nonneg_right otherSized.isDouble.nonneg)
  · refine (WithTop.coe_pos.mpr positive).trans_le ((isDouble byCues).le_rounded ?_)
    exact otherAbove.trans (le_add_of_nonneg_left partSized.isDouble.nonneg)

/-- A blend has found nothing just when neither part has. -/
theorem matched_verdict_eq_nil_iff (byRules byCues : Verdict) :
    (verdict byRules byCues).matched = [] ↔ byRules.matched = [] ∧ byCues.matched = [] := by
  unfold verdict
  simp only
  split
  · exact List.append_eq_nil_iff
  · exact List.append_eq_nil_iff.trans and_comm

theorem isBounded_verdict {byRules byCues : Verdict} (rules : byRules.IsMeasured)
    (cues : byCues.IsMeasured) : (verdict byRules byCues).IsBounded := by
  obtain ⟨within, positive⟩ := confidence_bounds rules.isDegree cues.isDegree
  rw [← verdict_confidence] at within positive
  refine ⟨within, ?_⟩
  rw [matched_verdict_eq_nil_iff]
  obtain ⟨ruleNothing, ruleZero⟩ | ⟨found, isConfidence⟩ := rules
  · obtain ⟨cueNothing, cueZero⟩ | ⟨found, isConfidence⟩ := cues
    · refine iff_of_true ?_ ⟨ruleNothing, cueNothing⟩
      rw [verdict_confidence, ruleZero, cueZero, confidence_zero]
      exact Cue.isSized_zero.beq_self
    · refine iff_of_false ?_ fun nothing => found nothing.2
      exact Bool.eq_false_iff.mp (beq_zero_of_pos (positive (.inr isConfidence.ne_zero)))
  · refine iff_of_false ?_ fun nothing => found nothing.1
    exact Bool.eq_false_iff.mp (beq_zero_of_pos (positive (.inl isConfidence.ne_zero)))

/-- A type that is missing from one part is no exception, as zero is a degree. -/
theorem isWithinUnit_of_mem_probabilities {byRules byCues : Probabilities}
    (rules : ∀ entry ∈ byRules, IsDegree entry.2) (cues : ∀ entry ∈ byCues, IsDegree entry.2) :
    ∀ entry ∈ probabilities byRules byCues, IsWithinUnit entry.2 := by
  have degree {odds : Probabilities} (all : ∀ entry ∈ odds, IsDegree entry.2)
      (errorType : ErrorType) : IsDegree ((odds.get? errorType).getD 0) := by
    unfold Probabilities.get?
    cases found : odds.find? (·.1 == errorType) with
    | none => exact .inl rfl
    | some entry => exact all entry (List.mem_of_find?_eq_some found)
  intro entry member
  obtain ⟨⟨errorType, _⟩, _, rfl⟩ := List.mem_map.mp member
  exact (confidence_bounds (degree rules errorType) (degree cues errorType)).1

end Blend

/-! ### Classifiers -/

/-- What is learned has a confidence, whichever part has learned it. -/
theorem Classifier.isConfidence_of_learned [Pattern.Dialect] (classifier : Classifier)
    {set : TrainingSet} (valid : set.IsValid) :
    (∀ part, (classifier.fit set).1.rulePart? = some part →
        ∀ rule ∈ part.rules, IsConfidence rule.confidence) ∧
      ∀ part, (classifier.fit set).1.cuePart? = some part →
        ∀ entry ∈ part.table, ∀ cue ∈ entry.2, IsConfidence cue.confidence := by
  have byRules (part : RuleClassifier) :
      ∀ rule ∈ (part.fit set).1.rules, IsConfidence rule.confidence := by
    rw [part.fit_of_ok valid.check_eq]
    exact fun rule learned => Rule.isConfidence_of_mem_learnUnsorted valid.countable
      ((part.mem_rules_buildRules set).mp learned)
  have byCues (part : CueClassifier) :
      ∀ entry ∈ (part.fit set).1.table, ∀ cue ∈ entry.2, IsConfidence cue.confidence := by
    rw [part.fit_of_ok valid.check_eq]
    exact Cue.confident_learn valid
  cases classifier with
  | rules part => exact ⟨fun _ same => Option.some.inj same ▸ byRules part, nofun⟩
  | cues part => exact ⟨nofun, fun _ same => Option.some.inj same ▸ byCues part⟩
  | blend part =>
    simp only [fit, part.fit_of_ok valid.check_eq]
    exact ⟨fun _ same => Option.some.inj same ▸ byRules part.ruleClassifier,
      fun _ same => Option.some.inj same ▸ byCues part.cueClassifier⟩

/-- A fitted classifier answers with a bounded verdict and with probabilities between zero and one. -/
theorem Classifier.exists_bounded_answers [Pattern.Dialect] (classifier : Classifier)
    {set : TrainingSet} (valid : set.IsValid) (message : String) :
    ∃ verdict probabilities, (classifier.fit set).1.predict message = .ok verdict ∧
      (classifier.fit set).1.probabilities message = .ok probabilities ∧ verdict.IsBounded ∧
        ∀ entry ∈ probabilities, IsWithinUnit entry.2 := by
  have rules (part : RuleClassifier) :
      let firing := (part.fit set).1.firing message
      (Rule.judge firing message).IsMeasured ∧
        ∀ entry ∈ Rule.probabilities (Rule.judge firing message) firing, IsDegree entry.2 := by
    intro firing
    have confident := part.isConfidence_of_mem_firing valid message
    have measured := Rule.isMeasured_judge confident message
    exact ⟨measured, Rule.isDegree_of_mem_probabilities confident measured.isDegree
      (part.le_confidence_judge_fit valid message)⟩
  have cueMeasured := Cue.isMeasured_judge (Cue.confident_learn valid) message
  have cueDegrees := Cue.isDegree_of_mem_probabilities (Cue.confident_learn valid) message
  cases classifier with
  | rules part =>
    obtain ⟨measured, degrees⟩ := rules part
    exact ⟨_, _, part.predict_fit valid message, part.probabilities_fit valid message,
      measured.isBounded, fun entry member => (degrees entry member).isWithinUnit⟩
  | cues part =>
    obtain ⟨predicted, given⟩ := part.predict_fit valid.check_eq message
    exact ⟨_, _, predicted, given, cueMeasured.isBounded,
      fun entry member => (cueDegrees entry member).isWithinUnit⟩
  | blend part =>
    obtain ⟨measured, degrees⟩ := rules part.ruleClassifier
    obtain ⟨cuesPredict, cuesGive⟩ := part.cueClassifier.predict_fit valid.check_eq message
    obtain ⟨predicted, given⟩ := part.answers_of_parts valid.check_eq
      (part.ruleClassifier.predict_fit valid message) cuesPredict
      (part.ruleClassifier.probabilities_fit valid message) cuesGive
    exact ⟨_, _, predicted, given, Blend.isBounded_verdict measured cueMeasured,
      Blend.isWithinUnit_of_mem_probabilities degrees cueDegrees⟩

/-- A classifier is never less sure than not at all and never more than wholly. Once it has been fitted
to a valid set, it gives a verdict and probabilities for every message. The confidence of the verdict and
all probabilities lie between zero and one, in the arithmetic of doubles, and the confidence is zero just
when there is no evidence. All rules and cues that have been learned have a confidence above zero that is
at most one. -/
theorem Classifier.sureness_between_zero_and_one [Pattern.Dialect] (classifier : Classifier)
    {set : TrainingSet} (valid : set.IsValid) (message : String) :
    let fitted := (classifier.fit set).1
    ∃ verdict probabilities, fitted.predict message = .ok verdict ∧
      fitted.probabilities message = .ok probabilities ∧
      (0 ≤ verdict.confidence ∧ verdict.confidence ≤ 1) ∧
      ((verdict.confidence == 0) = true ↔ verdict.matched = []) ∧
      (∀ errorType value, (errorType, value) ∈ probabilities → 0 ≤ value ∧ value ≤ 1) ∧
      (∀ part, fitted.rulePart? = some part →
        ∀ rule ∈ part.rules, 0 < rule.confidence ∧ rule.confidence ≤ 1) ∧
      ∀ part, fitted.cuePart? = some part →
        ∀ entry ∈ part.table, ∀ cue ∈ entry.2, 0 < cue.confidence ∧ cue.confidence ≤ 1 := by
  intro fitted
  obtain ⟨verdict, probabilities, predicted, given, bounded, within⟩ :=
    classifier.exists_bounded_answers valid message
  obtain ⟨byRules, byCues⟩ := classifier.isConfidence_of_learned valid
  refine ⟨verdict, probabilities, predicted, given, bounded.within, bounded.zero_iff,
    fun errorType value member => within (errorType, value) member, fun part same rule learned => ?_,
    fun part same entry listed cue learned => ?_⟩
  · have isConfidence := byRules part same rule learned
    exact ⟨isConfidence.pos, isConfidence.le_one⟩
  · have isConfidence := byCues part same entry listed cue learned
    exact ⟨isConfidence.pos, isConfidence.le_one⟩

/-- The case of a blend that reaches both bounds: where the rules and the cut-off cues are wholly sure, and
where neither part finds anything. -/
theorem Classifier.sureness_reaches_bounds :
    let set : TrainingSet := ⟨["Timed out"], [.timeoutError], [], []⟩
    let fitted := ((create .blend none).fit set).1
    (∃ verdict, fitted.predict "timed out" = .ok verdict ∧ verdict.confidence = 1 ∧
      verdict.confidence ≤ 1 ∧ verdict.matched ≠ []) ∧
    ∃ verdict, fitted.predict "well" = .ok verdict ∧ (verdict.confidence == 0) = true ∧
      verdict.matched = [] := by
  intro set fitted
  have valid : set.IsValid := ⟨rfl, by decide⟩
  have answers : (fitted.predict "timed out").toOption.map (·.confidence) = some 1 ∧
      (fitted.predict "well").toOption.map (·.matched) = some [] := by decide +kernel
  obtain ⟨sure, nothing⟩ := answers
  constructor
  · obtain ⟨verdict, _, predicted, _, ⟨_, below⟩, zero, _⟩ :=
      sureness_between_zero_and_one (create .blend none) valid "timed out"
    rw [show fitted.predict "timed out" = .ok verdict from predicted] at sure
    have whole : verdict.confidence = 1 := Option.some.inj sure
    refine ⟨verdict, predicted, whole, below, fun nothing => ?_⟩
    have none := zero.mpr nothing
    rw [whole] at none
    exact absurd none (by decide +kernel)
  · obtain ⟨verdict, _, predicted, _, _, zero, _⟩ :=
      sureness_between_zero_and_one (create .blend none) valid "well"
    rw [show fitted.predict "well" = .ok verdict from predicted] at nothing
    have empty : verdict.matched = [] := Option.some.inj nothing
    exact ⟨verdict, predicted, zero.mpr empty, empty⟩

end Triage
