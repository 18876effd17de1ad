/-
This file proves that the decision about trying again follows the type that was predicted. A verdict
either rests on the policy of its type, which it carries in its JSON form, or nothing has been found
and it is as good as nothing. When verdicts are blended, the one that is more sure is never the one
that has found nothing, and since all policies have the same keys nothing of the other policy gets
into its own.
-/

import Triage.Proofs.Learning.Refit
import Triage.Proofs.Number.Order

namespace Triage

/-! ### Policies as JSON -/

/-- A policy in its JSON form, with the keys in their order. -/
theorem metadataFor_some (policy : Policy) :
    metadataFor (some policy) = [
      ("category", .text policy.category.name),
      ("description", .text policy.description),
      ("is_retryable", .bool policy.isRetryable),
      ("keywords", .ofTexts policy.keywords),
      ("max_retries", .ofNat policy.maxRetries.toNat),
      ("patterns", .ofTexts policy.patterns),
      ("retry_delay", .ofFloat policy.retryDelay),
      ("severity", .text policy.severity.name)] := by
  simp only [metadataFor, Json.Members.ofList, Policy.toMembers, Json.Members.insert, List.foldl,
    String.reduceLT, String.reduceEq, if_true, if_false]

/-- What a policy says about trying again; of circuits it says nothing. -/
theorem get?_metadataFor_some (policy : Policy) :
    (metadataFor (some policy)).get? "is_retryable" = some (.bool policy.isRetryable) ∧
      (metadataFor (some policy)).get? "retry_delay" = some (.ofFloat policy.retryDelay) ∧
      (metadataFor (some policy)).get? "max_retries" = some (.ofNat policy.maxRetries.toNat) ∧
      (metadataFor (some policy)).get? "should_open_circuit" = none := by
  rw [metadataFor_some]
  simp only [Json.Members.get?, List.find?, String.reduceBEq, Option.map_some, Option.map_none,
    and_self]

/-- Members that have all the keys are not changed by others. -/
theorem Json.Members.orElse_eq_self {members others : Json.Members}
    (known : ∀ other ∈ others, members.any (·.1 == other.1) = true) :
    members.orElse others = members := by
  unfold orElse
  induction others with
  | nil => rfl
  | cons other rest inductionHypothesis =>
    rw [List.foldl_cons, if_pos (known other List.mem_cons_self)]
    exact inductionHypothesis fun later member => known later (List.mem_cons_of_mem _ member)

/-- Nothing of another policy gets into a policy. -/
theorem metadataFor_orElse (policy : Policy) (other : Option Policy) :
    (metadataFor (some policy)).orElse (metadataFor other) = metadataFor (some policy) := by
  refine Json.Members.orElse_eq_self fun member listed => ?_
  cases other with
  | none => exact absurd listed List.not_mem_nil
  | some other =>
    rw [metadataFor_some] at listed ⊢
    simp only [List.mem_cons, List.not_mem_nil, or_false] at listed
    rcases listed with rfl | rfl | rfl | rfl | rfl | rfl | rfl | rfl <;> rfl

/-- JSON has a form for the delay of every policy. -/
theorem retryDelay_isFinite (errorType : ErrorType) :
    errorType.policy.retryDelay.isFinite = true := by
  cases errorType <;> decide +kernel

theorem Json.double?_ofFloat {value : Float} (finite : value.isFinite = true) :
    (Json.ofFloat value).double? = some value := by
  unfold ofFloat
  rw [if_pos finite]
  rfl

theorem Json.word32?_ofNat_toNat (word : UInt32) : (Json.ofNat word.toNat).word32? = some word := by
  have fits : (0 : Int) ≤ word.toNat ∧ (word.toNat : Int) < UInt32.size :=
    ⟨Int.natCast_nonneg _, Int.ofNat_lt.mpr word.toNat_lt_size⟩
  show (if (0 : Int) ≤ word.toNat ∧ (word.toNat : Int) < UInt32.size then
    some (UInt32.ofNat (word.toNat : Int).toNat) else none) = some word
  rw [if_pos fits, Int.toNat_natCast, UInt32.ofNat_toNat]

/-! ### What a verdict rests on -/

/-- The first advice of a policy says whether to try again. -/
theorem Policy.head?_actions (policy : Policy) :
    policy.actions.head? =
      some (if policy.isRetryable then retryAdvice policy.retryDelay else noRetryAdvice) := by
  unfold actions
  split <;> rfl

namespace Verdict

/-- A verdict carries the policy of its type, and its first advice is that of the policy. -/
structure OnPolicy (verdict : Verdict) : Prop where
  metadata : verdict.metadata = metadataFor (some verdict.errorType.policy)
  advice : verdict.actions.head? = verdict.errorType.policy.actions.head?

/-- A verdict is on the policy of its type, or nothing has been found. -/
inductive Rests (verdict : Verdict) : Prop where
  | onPolicy (own : verdict.OnPolicy)
  | onNothing (errorType : verdict.errorType = .unknownError) (confidence : verdict.confidence = 0)
      (metadata : verdict.metadata = metadataFor none) (actions : verdict.actions = generalActions)

theorem onPolicy_ofType?_some (errorType : ErrorType) (confidence : Float)
    (path matched : List String) : (ofType? (some errorType) confidence path matched).OnPolicy where
  metadata := by
    unfold ofType?
    simp only [Option.map_some, Option.getD_some]
  advice := by
    unfold ofType?
    simp only [Option.map_some, Option.getD_some, actionsFor]

theorem Rests.metadata_eq {verdict : Verdict} (rests : verdict.Rests) :
    ∃ policy, verdict.metadata = metadataFor policy := by
  cases rests with
  | onPolicy own => exact ⟨_, own.metadata⟩
  | onNothing _ _ metadata _ => exact ⟨_, metadata⟩

end Verdict

/-! ### Verdicts by rules -/

namespace Rule.Finding

/-- As long as no type has been found there is no confidence. -/
def IsSound (finding : Finding) : Prop :=
  finding.errorType? = none → finding.confidence = 0

theorem IsSound.add {finding : Finding} (sound : finding.IsSound) (rule : Rule) :
    (finding.add rule).IsSound := by
  unfold Finding.add
  split
  · exact nofun
  · split
    · exact sound
    · exact sound

theorem isSound_foldl (rules : List Rule) {finding : Finding} (sound : finding.IsSound) :
    (rules.foldl Finding.add finding).IsSound := by
  induction rules generalizing finding with
  | nil => exact sound
  | cons rule rest inductionHypothesis => exact inductionHypothesis (sound.add rule)

theorem IsSound.orKeyword {finding : Finding} (sound : finding.IsSound) (message : String) :
    (finding.orKeyword message).IsSound := by
  unfold Finding.orKeyword
  split
  · exact sound
  · split
    · exact nofun
    · exact sound

theorem IsSound.rests {finding : Finding} (sound : finding.IsSound) : finding.verdict.Rests := by
  unfold Finding.verdict
  cases found : finding.errorType? with
  | some errorType => exact .onPolicy (Verdict.onPolicy_ofType?_some errorType _ _ _)
  | none => exact .onNothing rfl (sound found) rfl rfl

end Rule.Finding

theorem Rule.rests_judge (firing : List Rule) (message : String) : (judge firing message).Rests :=
  ((Finding.isSound_foldl firing fun _ => rfl).orKeyword message).rests

/-! ### Verdicts by cues -/

namespace Cue

/-- The best support, if there is one, has a sum above zero. -/
def IsPositive (best : Option Support) : Prop :=
  ∀ support ∈ best, 0 < support.total

theorem isPositive_none : IsPositive none :=
  fun support held => absurd held (Option.not_mem_none support)

theorem IsPositive.better {best : Option Support} (positive : IsPositive best) (next : Support) :
    IsPositive (Cue.better best next) := by
  unfold Cue.better
  split
  · rename_i greater
    intro support held
    obtain rfl : next = support := Option.some.inj held
    cases best with
    | none => exact greater
    | some other => exact Number.lt_trans (positive other rfl) greater
  · exact positive

theorem isPositive_foldl (supports : List Support) {best : Option Support}
    (positive : IsPositive best) : IsPositive (supports.foldl Cue.better best) := by
  induction supports generalizing best with
  | nil => exact positive
  | cons next rest inductionHypothesis => exact inductionHypothesis (positive.better next)

theorem not_capped_lt_zero {total : Float} (positive : 0 < total) : ¬ capped total < 0 := by
  unfold capped
  split
  · decide +kernel
  · exact Number.not_lt_of_lt positive

/-- A verdict by cues is always on a policy, also when no cue has been found, and it is at least as
sure as one that has found nothing. -/
theorem onPolicy_judge (table : List (ErrorType × List Cue)) (message : String) :
    (judge table message).OnPolicy ∧ ¬ (judge table message).confidence < 0 := by
  unfold judge
  cases best : (supports table message).foldl better none with
  | none => exact ⟨Verdict.onPolicy_ofType?_some _ _ _ _, by decide +kernel⟩
  | some support =>
    have positive : 0 < support.total := isPositive_foldl _ isPositive_none support best
    exact ⟨Verdict.onPolicy_ofType?_some _ _ _ _, not_capped_lt_zero positive⟩

end Cue

/-! ### Blended verdicts -/

namespace Blend

/-- What is put behind a verdict on a policy does not get into its policy. -/
theorem onPolicy_extend {winner other : Verdict} (own : winner.OnPolicy) (rests : other.Rests)
    (confidence : Float) : (extend winner other confidence).OnPolicy where
  metadata := by
    obtain ⟨policy, metadata⟩ := rests.metadata_eq
    show winner.metadata.orElse other.metadata = metadataFor (some winner.errorType.policy)
    rw [own.metadata, metadata, metadataFor_orElse]
  advice := by
    show (winner.actions ++ other.actions).head? = winner.errorType.policy.actions.head?
    rw [List.head?_append, own.advice, Policy.head?_actions, Option.some_or]

/-- A verdict that has found nothing does not win against one by cues. -/
theorem onPolicy_verdict {byRules byCues : Verdict} (rests : byRules.Rests) (own : byCues.OnPolicy)
    (sure : ¬ byCues.confidence < 0) : (verdict byRules byCues).OnPolicy := by
  unfold verdict
  simp only
  split
  · rename_i surer
    cases rests with
    | onPolicy rules => exact onPolicy_extend rules (.onPolicy own) _
    | onNothing _ confidence _ _ =>
      rw [confidence] at surer
      exact absurd surer sure
  · exact onPolicy_extend own rests _

end Blend

/-! ### The verdicts of classifiers -/

theorem RuleClassifier.judge_of_predict {classifier : RuleClassifier} {message : String}
    {verdict : Verdict} (predicted : classifier.predict message = .ok verdict) :
    Rule.judge (classifier.firing message) message = verdict := by
  unfold predict at predicted
  split at predicted
  · exact Except.ok.inj predicted
  · exact nomatch predicted

theorem CueClassifier.judge_of_predict {classifier : CueClassifier} {message : String}
    {verdict : Verdict} (predicted : classifier.predict message = .ok verdict) :
    Cue.judge classifier.table message = verdict := by
  unfold predict at predicted
  split at predicted
  · exact Except.ok.inj predicted
  · exact nomatch predicted

theorem BlendClassifier.verdict_of_predict {classifier : BlendClassifier} {message : String}
    {verdict : Verdict} (predicted : classifier.predict message = .ok verdict) :
    ∃ byRules byCues, classifier.ruleClassifier.predict message = .ok byRules ∧
      classifier.cueClassifier.predict message = .ok byCues ∧
      Blend.verdict byRules byCues = verdict := by
  unfold predict at predicted
  split at predicted
  · cases rules : classifier.ruleClassifier.predict message with
    | error fault => rw [rules] at predicted; exact nomatch predicted
    | ok byRules =>
      cases cues : classifier.cueClassifier.predict message with
      | error fault => rw [rules, cues] at predicted; exact nomatch predicted
      | ok byCues =>
        rw [rules, cues] at predicted
        exact ⟨byRules, byCues, rfl, rfl, Except.ok.inj predicted⟩
  · exact nomatch predicted

/-- A blended verdict is always on a policy. -/
theorem BlendClassifier.onPolicy_of_predict {classifier : BlendClassifier} {message : String}
    {verdict : Verdict} (predicted : classifier.predict message = .ok verdict) :
    verdict.OnPolicy := by
  obtain ⟨byRules, byCues, rules, cues, rfl⟩ := classifier.verdict_of_predict predicted
  rw [← RuleClassifier.judge_of_predict rules, ← CueClassifier.judge_of_predict cues]
  obtain ⟨own, sure⟩ := Cue.onPolicy_judge classifier.cueClassifier.table message
  exact Blend.onPolicy_verdict (Rule.rests_judge _ message) own sure

/-- Whatever a classifier has learned, its verdicts rest on the policies of their types. -/
theorem Classifier.rests_of_predict {classifier : Classifier} {message : String} {verdict : Verdict}
    (predicted : classifier.predict message = .ok verdict) : verdict.Rests := by
  cases classifier with
  | rules part =>
    rw [← RuleClassifier.judge_of_predict predicted]
    exact Rule.rests_judge _ message
  | cues part =>
    rw [← CueClassifier.judge_of_predict predicted]
    exact .onPolicy (Cue.onPolicy_judge part.table message).1
  | blend part => exact .onPolicy (part.onPolicy_of_predict predicted)

/-! ### Decisions -/

/-- A decision repeats what a policy says about trying again. -/
structure RetryDecision.Repeats (decision : RetryDecision) (policy : Policy) : Prop where
  isRetryable : decision.isRetryable = policy.isRetryable
  retryDelay : decision.retryDelay = policy.retryDelay
  maxRetries : decision.maxRetries = policy.maxRetries
  opensCircuit : decision.opensCircuit = false

theorem Verdict.OnPolicy.repeats {verdict : Verdict} (own : verdict.OnPolicy) :
    (RetryDecision.ofVerdict verdict).Repeats verdict.errorType.policy := by
  obtain ⟨isRetryable, retryDelay, maxRetries, opensCircuit⟩ :=
    get?_metadataFor_some verdict.errorType.policy
  rw [← own.metadata] at isRetryable retryDelay maxRetries opensCircuit
  refine ⟨?_, ?_, ?_, ?_⟩
  · show ((verdict.metadata.get? "is_retryable").bind (·.bool?)).getD false = _
    rw [isRetryable]
    rfl
  · show ((verdict.metadata.get? "retry_delay").bind (·.double?)).getD 0 = _
    rw [retryDelay, Option.bind_some, Json.double?_ofFloat (retryDelay_isFinite _)]
    rfl
  · show ((verdict.metadata.get? "max_retries").bind (·.word32?)).getD 0 = _
    rw [maxRetries, Option.bind_some, Json.word32?_ofNat_toNat]
    rfl
  · show ((verdict.metadata.get? "should_open_circuit").bind (·.bool?)).getD false = false
    rw [opensCircuit]
    rfl

theorem Verdict.Rests.repeats {verdict : Verdict} (rests : verdict.Rests) :
    (RetryDecision.ofVerdict verdict).Repeats verdict.errorType.policy := by
  cases rests with
  | onPolicy own => exact own.repeats
  | onNothing errorType _ metadata _ =>
    unfold RetryDecision.ofVerdict RetryDecision.flag
    rw [metadata, errorType]
    exact ⟨rfl, rfl, rfl, rfl⟩

theorem ne_retry_after {advice : String} (other : advice.toList.head? ≠ some 'R') (rest : String) :
    advice ≠ "Retry after " ++ rest := by
  rintro rfl
  rw [String.toList_append] at other
  exact other rfl

/-- The first advice is to try again just when the policy says so. -/
theorem Verdict.Rests.advice_iff {verdict : Verdict} (rests : verdict.Rests) :
    (∃ rest, verdict.actions.head? = some ("Retry after " ++ rest)) ↔
      verdict.errorType.policy.isRetryable = true := by
  cases rests with
  | onPolicy own =>
    rw [own.advice, Policy.head?_actions]
    cases verdict.errorType.policy.isRetryable with
    | true =>
      rw [if_pos rfl]
      exact iff_of_true ⟨Number.fixedText 1 verdict.errorType.policy.retryDelay ++ " seconds",
        congrArg some String.append_assoc⟩ rfl
    | false =>
      rw [if_neg Bool.false_ne_true]
      exact iff_of_false
        (fun ⟨rest, same⟩ => ne_retry_after (by decide) rest (Option.some.inj same)) nofun
  | onNothing errorType _ _ actions =>
    rw [errorType, actions]
    exact iff_of_false
      (fun ⟨rest, same⟩ => ne_retry_after (by decide) rest (Option.some.inj same)) nofun

/-- The decision about trying again follows the type that was predicted. After a fit to an aligned
set every classifier has a verdict about every message, and whatever a classifier has learned, the
decision that is read off its verdict repeats what the policy of the verdict's own type says, never
opens the circuit, and agrees with the first advice. A blended verdict carries the policy of its type
and nothing else. -/
theorem decision_follows_type [Pattern.Dialect] (classifier : Classifier) (message : String) :
    (∀ set, set.isAligned = true →
        ∃ verdict, (classifier.fit set).1.predict message = .ok verdict) ∧
      ∀ verdict, classifier.predict message = .ok verdict →
        let decision := RetryDecision.ofVerdict verdict
        decision.Repeats verdict.errorType.policy ∧
          ((∃ rest, verdict.actions.head? = some ("Retry after " ++ rest)) ↔
            decision.isRetryable = true) ∧
          ∀ part, classifier = .blend part →
            verdict.metadata = metadataFor (some verdict.errorType.policy) := by
  refine ⟨fun set aligned => ?_, fun verdict predicted => ?_⟩
  · rcases set.check_cases with ⟨_, checked⟩ | ⟨misaligned, _⟩
    · exact (classifier.answers_fit checked message).1
    · exact absurd (aligned.symm.trans misaligned) Bool.noConfusion
  · have rests := Classifier.rests_of_predict predicted
    refine ⟨rests.repeats, ?_, ?_⟩
    · rw [rests.repeats.isRetryable]
      exact rests.advice_iff
    · rintro part rfl
      exact (part.onPolicy_of_predict predicted).metadata

/-- The case of a blend whose parts find different types in a message, from what each has learned: the cues
win, and the policy that the rules bring stays out. -/
theorem decision_follows_cues :
    let set : TrainingSet := ⟨["Timed out", "Slow down"], [.timeoutError, .rateLimitError], [], []⟩
    let classifier := ((Classifier.create .blend none).fit set).1
    ∃ verdict, classifier.predict "slow down: timeout" = .ok verdict ∧
      verdict.errorType = .rateLimitError ∧
      verdict.matched = ["slow down", "timeout|timed out|deadline exceeded"] ∧
      (RetryDecision.ofVerdict verdict).Repeats ErrorType.rateLimitError.policy ∧
      verdict.metadata = metadataFor (some ErrorType.rateLimitError.policy) := by
  intro set classifier
  let message := "slow down: timeout"
  have found : (classifier.predict message).toOption.map
      (fun verdict => (verdict.errorType, verdict.matched)) =
        some (.rateLimitError, ["slow down", "timeout|timed out|deadline exceeded"]) := by
    decide +kernel
  obtain ⟨verdict, predicted⟩ := (decision_follows_type (.create .blend none) message).1 set rfl
  obtain ⟨repeats, -, blended⟩ :=
    (decision_follows_type classifier message).2 verdict predicted
  rw [show classifier.predict message = .ok verdict from predicted] at found
  obtain ⟨errorType, matched⟩ := Prod.mk.inj (Option.some.inj found)
  refine ⟨verdict, predicted, errorType, matched, errorType ▸ repeats, ?_⟩
  exact errorType ▸ blended _ rfl

end Triage
