/-
This file proves when the advice of a verdict contradicts itself. The advice of a policy either says
to try again or says not to, and the general advice says neither, so a verdict by rules or by cues
never says both. A blended verdict keeps the advice of both of its parts. The cues bring the advice
of a policy even when they have found nothing, so it contradicts itself just when the rules have
found something and the two types differ in whether to try again.
-/

import Triage.Proofs.Learning.Evidence

namespace Triage

/-! ### Advice that contradicts itself -/

/-- The advice to try again, after whatever time. -/
def IsRetryAdvice (advice : String) : Prop :=
  ∃ rest, advice = "Retry after" ++ rest

/-- Some of the actions are to try again, and another one is not to. -/
def IsContradictory (actions : List String) : Prop :=
  (∃ action ∈ actions, IsRetryAdvice action) ∧ noRetryAdvice ∈ actions

/-- Actions say whether to try again, or they do not say it. -/
structure Advises (actions : List String) (flag? : Option Bool) : Prop where
  retry_iff : (∃ action ∈ actions, IsRetryAdvice action) ↔ flag? = some true
  stop_iff : noRetryAdvice ∈ actions ↔ flag? = some false

theorem Advises.not_isContradictory {actions : List String} {flag? : Option Bool}
    (advises : Advises actions flag?) : ¬ IsContradictory actions := by
  rintro ⟨retry, stop⟩
  exact nomatch (advises.retry_iff.mp retry).symm.trans (advises.stop_iff.mp stop)

/-- Two lists of actions contradict each other when one says to try again and the other not to. -/
theorem Advises.isContradictory_append {actions others : List String}
    {flag? otherFlag? : Option Bool} (advises : Advises actions flag?)
    (othersAdvise : Advises others otherFlag?) :
    IsContradictory (actions ++ others) ↔
      ∃ retry, flag? = some retry ∧ otherFlag? = some (!retry) := by
  unfold IsContradictory
  simp only [List.mem_append, or_and_right, exists_or]
  rw [advises.retry_iff, advises.stop_iff, othersAdvise.retry_iff, othersAdvise.stop_iff]
  rcases flag? with _ | _ | _ <;> rcases otherFlag? with _ | _ | _ <;> simp

/-! ### The advice of policies -/

theorem not_isRetryAdvice {advice : String} (other : advice.toList.head? ≠ some 'R') :
    ¬ IsRetryAdvice advice := by
  rintro ⟨rest, rfl⟩
  rw [String.toList_append] at other
  exact other rfl

theorem isRetryAdvice_retryAdvice (seconds : Float) : IsRetryAdvice (retryAdvice seconds) := by
  refine ⟨" " ++ (Number.fixedText 1 seconds ++ " seconds"), ?_⟩
  show "Retry after" ++ " " ++ Number.fixedText 1 seconds ++ " seconds" = _
  rw [String.append_assoc, String.append_assoc]

/-- Actions of which none is to try again and none is not to. -/
theorem advises_none {actions : List String}
    (silent : ∀ action ∈ actions, action.toList.head? ≠ some 'R' ∧ action ≠ noRetryAdvice) :
    Advises actions none where
  retry_iff := iff_of_false
    (fun ⟨action, listed, retry⟩ => not_isRetryAdvice (silent action listed).1 retry) nofun
  stop_iff := iff_of_false (fun listed => (silent _ listed).2 rfl) nofun

theorem advises_generalActions : Advises generalActions none :=
  advises_none (by decide)

theorem advises_hints (category : Category) : Advises category.hints none :=
  advises_none (by cases category <;> decide)

/-- Actions in front of others that say nothing about trying again. -/
theorem Advises.append {actions others : List String} {flag? : Option Bool}
    (advises : Advises actions flag?) (silent : Advises others none) :
    Advises (actions ++ others) flag? where
  retry_iff := by
    simp only [List.mem_append, or_and_right, exists_or]
    rw [advises.retry_iff, silent.retry_iff]
    exact or_iff_left nofun
  stop_iff := by
    rw [List.mem_append, advises.stop_iff, silent.stop_iff]
    exact or_iff_left nofun

theorem advises_retryAdvice (seconds : Float) : Advises [retryAdvice seconds] (some true) where
  retry_iff := iff_of_true ⟨_, List.mem_singleton_self _, isRetryAdvice_retryAdvice seconds⟩ rfl
  stop_iff := by
    refine iff_of_false (fun listed => ?_) nofun
    have retry := isRetryAdvice_retryAdvice seconds
    rw [← List.mem_singleton.mp listed] at retry
    exact not_isRetryAdvice (by decide) retry

theorem advises_noRetryAdvice : Advises [noRetryAdvice] (some false) where
  retry_iff := by
    refine iff_of_false (fun ⟨action, listed, retry⟩ => ?_) nofun
    obtain rfl := List.mem_singleton.mp listed
    exact not_isRetryAdvice (by decide) retry
  stop_iff := iff_of_true (List.mem_singleton_self _) rfl

theorem advises_maximum (count : Nat) : Advises [s!"Maximum retries: {count}"] none := by
  refine advises_none fun action listed => ?_
  have head : action.toList.head? = some 'M' := by
    rw [List.mem_singleton.mp listed]
    show ("Maximum retries: " ++ toString count).toList.head? = _
    rw [String.toList_append]
    rfl
  rw [head]
  refine ⟨by decide, ?_⟩
  rintro rfl
  exact nomatch head

/-- A policy says whether to try again, and nothing else in its advice does. -/
theorem Policy.advises_actions (policy : Policy) :
    Advises policy.actions (some policy.isRetryable) := by
  refine Advises.append ?_ (advises_hints policy.category)
  cases policy.isRetryable with
  | true => exact (advises_retryAdvice policy.retryDelay).append (advises_maximum _)
  | false => exact advises_noRetryAdvice

theorem advises_actionsFor (policy? : Option Policy) :
    Advises (actionsFor policy?) (policy?.map (·.isRetryable)) := by
  cases policy? with
  | none => exact advises_generalActions
  | some policy => exact policy.advises_actions

/-! ### The advice of verdicts -/

/-- A verdict by rules says whether to try again just when the rules have found something. -/
theorem Rule.advises_judge (firing : List Rule) (message : String) :
    let verdict := judge firing message
    ∃ flag?, Advises verdict.actions flag? ∧
      ∀ retry, flag? = some retry ↔
        verdict.matched ≠ [] ∧ verdict.errorType.policy.isRetryable = retry := by
  have tells : ((firing.foldl Finding.add {}).orKeyword message).Tells fun _ _ => True :=
    (Finding.tells_foldl firing Finding.tells_empty fun _ _ => trivial).orKeyword
      fun _ _ _ _ => trivial
  unfold judge Finding.verdict Verdict.ofType?
  refine ⟨_, advises_actionsFor _, fun retry => ?_⟩
  rw [← tells.found]
  cases ((firing.foldl Finding.add {}).orKeyword message).errorType? with
  | none => simp
  | some errorType => simp

/-- A verdict by cues always says whether to try again, since the unknown type has a policy too. -/
theorem Cue.advises_judge (table : List (ErrorType × List Cue)) (message : String) :
    let verdict := judge table message
    Advises verdict.actions (some verdict.errorType.policy.isRetryable) := by
  unfold judge
  cases (supports table message).foldl better none with
  | none => exact Policy.advises_actions _
  | some support => exact Policy.advises_actions _

/-- The advice of the winner comes first, followed by all of the other's. -/
theorem Blend.actions_verdict (byRules byCues : Verdict) :
    (verdict byRules byCues).actions =
      if byRules.confidence > byCues.confidence then byRules.actions ++ byCues.actions
      else byCues.actions ++ byRules.actions := by
  unfold verdict
  simp only
  split
  · rfl
  · rfl

theorem isContradictory_append_comm {actions others : List String} :
    IsContradictory (actions ++ others) ↔ IsContradictory (others ++ actions) := by
  unfold IsContradictory
  simp only [List.mem_append, or_comm]

/-- Blended verdicts contradict themselves when the rules have found something that is to be handled
in the other way than what the cues have found, whoever wins. -/
theorem Blend.isContradictory_verdict_iff {byRules byCues : Verdict} {flag? : Option Bool}
    (rules : Advises byRules.actions flag?)
    (found : ∀ retry, flag? = some retry ↔
      byRules.matched ≠ [] ∧ byRules.errorType.policy.isRetryable = retry)
    (cues : Advises byCues.actions (some byCues.errorType.policy.isRetryable)) :
    IsContradictory (verdict byRules byCues).actions ↔
      byRules.matched ≠ [] ∧
        byRules.errorType.policy.isRetryable ≠ byCues.errorType.policy.isRetryable := by
  have both : IsContradictory (byRules.actions ++ byCues.actions) ↔
      byRules.matched ≠ [] ∧
        byRules.errorType.policy.isRetryable ≠ byCues.errorType.policy.isRetryable := by
    rw [rules.isContradictory_append cues]
    constructor
    · rintro ⟨retry, held, other⟩
      obtain ⟨some, rfl⟩ := (found retry).mp held
      rw [Option.some.inj other]
      exact ⟨some, (Bool.eq_not_self _).mp⟩
    · rintro ⟨some, differ⟩
      refine ⟨_, (found _).mpr ⟨some, rfl⟩, congrArg _ ?_⟩
      exact Bool.eq_not_of_ne differ.symm
  rw [actions_verdict]
  split
  · exact both
  · exact isContradictory_append_comm.trans both

/-- Only a blended verdict can contradict itself. Once it has been fitted to an aligned set, a
classifier answers to every message, and a verdict by rules or by cues never says both to try again
and not to. A blended verdict has the advice of the winner, followed by all of the other's, and it
says both just when the rules have found something and the types of the two differ in whether to try
again. -/
theorem Classifier.contradicts_iff [Pattern.Dialect] (classifier : Classifier) {set : TrainingSet}
    (aligned : set.isAligned = true) (message : String) :
    let fitted := (classifier.fit set).1
    ∃ verdict, fitted.predict message = .ok verdict ∧
      ((∀ part, fitted ≠ .blend part) → ¬ IsContradictory verdict.actions) ∧
      ∀ part, fitted = .blend part →
        ∃ byRules byCues, part.ruleClassifier.predict message = .ok byRules ∧
          part.cueClassifier.predict message = .ok byCues ∧
          (verdict.actions =
            if byRules.confidence > byCues.confidence then byRules.actions ++ byCues.actions
            else byCues.actions ++ byRules.actions) ∧
          (IsContradictory verdict.actions ↔
            byRules.matched ≠ [] ∧
              byRules.errorType.policy.isRetryable ≠ byCues.errorType.policy.isRetryable) := by
  intro fitted
  obtain ⟨verdict, predicted⟩ := (classifier.answers_fit (set.check_of_isAligned aligned) message).1
  refine ⟨verdict, predicted, fun unblended => ?_, fun part isBlend => ?_⟩
  · have same : (classifier.fit set).1 = fitted := rfl
    rw [same] at predicted
    cases learned : fitted with
    | rules part =>
      rw [learned] at predicted
      obtain ⟨_, advises, _⟩ := Rule.advises_judge (part.firing message) message
      rw [← RuleClassifier.judge_of_predict predicted]
      exact advises.not_isContradictory
    | cues part =>
      rw [learned] at predicted
      rw [← CueClassifier.judge_of_predict predicted]
      exact (Cue.advises_judge part.table message).not_isContradictory
    | blend part => exact absurd learned (unblended part)
  · rw [show (classifier.fit set).1 = .blend part from isBlend] at predicted
    obtain ⟨byRules, byCues, rules, cues, rfl⟩ := BlendClassifier.verdict_of_predict predicted
    refine ⟨byRules, byCues, rules, cues, Blend.actions_verdict byRules byCues, ?_⟩
    rw [← RuleClassifier.judge_of_predict rules, ← CueClassifier.judge_of_predict cues]
    obtain ⟨_, advises, found⟩ := Rule.advises_judge (part.ruleClassifier.firing message) message
    exact Blend.isContradictory_verdict_iff advises found (Cue.advises_judge _ message)

/-- The case of a blend whose parts have both learned: a message in which they find different types is to be
tried again and not to be, and one in which they find the same is not. -/
theorem Classifier.contradicts_iff_of_two_types :
    let set : TrainingSet :=
      ⟨["Timed out", "No access"], [.timeoutError, .permissionDeniedError], [], []⟩
    let fitted := ((create .blend none).fit set).1
    (∃ verdict, fitted.predict "no access: timeout" = .ok verdict ∧
      IsContradictory verdict.actions) ∧
    ∃ verdict, fitted.predict "timed out" = .ok verdict ∧ ¬ IsContradictory verdict.actions := by
  intro set fitted
  have aligned : set.isAligned = true := rfl
  let part := ((BlendClassifier.create Algorithm.blend.defaultName).fit set).1
  let judgeByRules (message : String) := Rule.judge (part.ruleClassifier.firing message) message
  let judgeByCues (message : String) := Cue.judge part.cueClassifier.table message
  have found : ((judgeByRules "no access: timeout").errorType = .timeoutError ∧
        (judgeByRules "no access: timeout").matched ≠ []) ∧
      (judgeByCues "no access: timeout").errorType = .permissionDeniedError ∧
      (judgeByRules "timed out").errorType = (judgeByCues "timed out").errorType := by
    decide +kernel
  obtain ⟨⟨timeout, some⟩, denied, same⟩ := found
  constructor
  · obtain ⟨verdict, predicted, _, blended⟩ :=
      contradicts_iff (create .blend none) aligned "no access: timeout"
    obtain ⟨byRules, byCues, rules, cues, _, contradicts⟩ := blended part rfl
    rw [← RuleClassifier.judge_of_predict rules, ← CueClassifier.judge_of_predict cues] at contradicts
    refine ⟨verdict, predicted, contradicts.mpr ⟨some, ?_⟩⟩
    rw [show (Rule.judge _ _).errorType = _ from timeout, show (Cue.judge _ _).errorType = _ from denied]
    decide
  · obtain ⟨verdict, predicted, _, blended⟩ :=
      contradicts_iff (create .blend none) aligned "timed out"
    obtain ⟨byRules, byCues, rules, cues, _, contradicts⟩ := blended part rfl
    rw [← RuleClassifier.judge_of_predict rules, ← CueClassifier.judge_of_predict cues] at contradicts
    exact ⟨verdict, predicted, fun both => (contradicts.mp both).2 (congrArg (·.policy.isRetryable) same)⟩

/-- A classifier that has learned from one message and is asked about another one: a keyword says to
try again, and the cues, which have found nothing, bring the policy of the unknown type. -/
theorem Classifier.blend_contradicts_itself :
    let set : TrainingSet := ⟨["Permission denied"], [.permissionDeniedError], [], []⟩
    set.isAligned = true ∧
      ∃ verdict, ((create .blend none).fit set).1.predict "connection refused" = .ok verdict ∧
        IsContradictory verdict.actions := by
  intro set
  have aligned : set.isAligned = true := rfl
  obtain ⟨verdict, predicted⟩ :=
    ((create .blend none).answers_fit (set.check_of_isAligned aligned) "connection refused").1
  have actions : (((create .blend none).fit set).1.predict "connection refused").toOption.map
      (·.actions) = some ["Retry after 1.0 seconds", "Maximum retries: 3",
        "Check network connectivity", "Verify DNS resolution", noRetryAdvice] := by
    decide +kernel
  rw [predicted] at actions
  refine ⟨aligned, verdict, predicted, ?_⟩
  rw [show verdict.actions = _ from Option.some.inj actions]
  exact ⟨⟨_, List.mem_cons_self, " 1.0 seconds", by decide⟩, by decide⟩

end Triage
