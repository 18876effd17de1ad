/-
This file proves which rules decide about a message. The rules that fire are gone through once, in
the order in which they were learned, and what has been found so far always belongs to the surest of
the rules seen so far: to the first of them its type, and to all of them the evidence. So rules of
another type may be among the evidence, but none that is less sure.

No rule that fires can be passed over, because its confidence is above zero. Keywords are therefore
looked for only when no rule fires.
-/

import Triage.Proofs.Learning.Evidence
import Triage.Proofs.Learning.Rulebook

namespace Triage

namespace Rule

/-! ### The surest rules -/

/-- A finding belongs to the surest of some rules, and its type to the first of these. -/
structure Finding.Leads (finding : Finding) (rules : List Rule) (first : Rule) : Prop where
  found : rules.find? (·.confidence == finding.confidence) = some first
  confidence : finding.confidence = first.confidence
  errorType? : finding.errorType? = some first.errorType
  greatest : ∀ rule ∈ rules, rule.confidence ≤ finding.confidence
  path : finding.path = (rules.filter (·.confidence == finding.confidence)).map evidence
  matched : finding.matched = (rules.filter (·.confidence == finding.confidence)).map (·.pattern)

variable {finding : Finding} {rules : List Rule} {first rule : Rule}

/-- A rule that is surer than all before leads alone. -/
theorem Finding.leads_of_surer (confident : IsConfidence rule.confidence)
    (greatest : ∀ earlier ∈ rules, earlier.confidence ≤ rule.confidence)
    (surer : ∀ earlier ∈ rules, (earlier.confidence == rule.confidence) = false) :
    Leads ⟨some rule.errorType, rule.confidence, [rule.evidence], [rule.pattern]⟩
      (rules ++ [rule]) rule := by
  have same := confident.isSized.beq_self
  have weak : rules.filter (·.confidence == rule.confidence) = [] :=
    List.filter_eq_nil_iff.mpr fun earlier member => Bool.eq_false_iff.mp (surer earlier member)
  have alone : (rules ++ [rule]).filter (·.confidence == rule.confidence) = [rule] := by
    rw [List.filter_append, weak, List.filter_singleton, same]
    rfl
  refine ⟨?_, rfl, rfl, ?_, ?_, ?_⟩
  · rw [← List.head?_filter, alone]
    rfl
  · exact List.forall_mem_append.mpr
      ⟨greatest, List.forall_mem_singleton.mpr confident.isSized.le_refl⟩
  · rw [alone]
    rfl
  · rw [alone]
    rfl

/-- One more rule takes the lead when it is surer, joins in when it is as sure, and else changes
nothing. -/
theorem Finding.Leads.add (leads : finding.Leads rules first)
    (confident : ∀ earlier ∈ rules ++ [rule], IsConfidence earlier.confidence) :
    ∃ next, (finding.add rule).Leads (rules ++ [rule]) next := by
  have before {earlier : Rule} (member : earlier ∈ rules) : Number.IsSized earlier.confidence :=
    (confident earlier (List.mem_append_left [rule] member)).isSized
  have own : IsConfidence rule.confidence :=
    confident rule (List.mem_append_right rules List.mem_cons_self)
  have held : Number.IsSized finding.confidence :=
    leads.confidence ▸ before (List.mem_of_find?_eq_some leads.found)
  have still : (rules ++ [rule]).find? (·.confidence == finding.confidence) = some first :=
    List.find?_append.trans (by rw [leads.found]; rfl)
  unfold Finding.add
  split
  · rename_i surer
    have below {earlier : Rule} (member : earlier ∈ rules) : earlier.confidence < rule.confidence :=
      (before member).lt_of_le_of_lt held own.isSized (leads.greatest earlier member) surer
    refine ⟨rule, leads_of_surer own (fun earlier member => ?_) fun earlier member => ?_⟩
    · exact (before member).le_of_lt own.isSized (below member)
    · exact (before member).beq_eq_false_of_lt own.isSized (below member)
  · rename_i notSurer
    have atMost : rule.confidence ≤ finding.confidence :=
      (held.not_lt_iff own.isSized).mp notSurer
    have greatest := List.forall_mem_append.mpr
      ⟨leads.greatest, List.forall_mem_singleton.mpr atMost⟩
    have known : finding.errorType?.isSome = true := leads.errorType? ▸ rfl
    rw [known, Bool.true_and]
    split
    -- What is as sure joins in behind the others, so that the first of them stays the first.
    · rename_i tied
      have joined : (rules ++ [rule]).filter (·.confidence == finding.confidence) =
          rules.filter (·.confidence == finding.confidence) ++ [rule] := by
        rw [List.filter_append, List.filter_singleton, tied]
        rfl
      refine ⟨first, still, leads.confidence, leads.errorType?, greatest, ?_, ?_⟩
      · show finding.path ++ [rule.evidence] = _
        rw [joined, List.map_append, leads.path]
        rfl
      · show finding.matched ++ [rule.pattern] = _
        rw [joined, List.map_append, leads.matched]
        rfl
    · rename_i weaker
      have left : (rules ++ [rule]).filter (·.confidence == finding.confidence) =
          rules.filter (·.confidence == finding.confidence) := by
        rw [List.filter_append, List.filter_singleton, Bool.eq_false_iff.mpr weaker]
        exact List.append_nil _
      exact ⟨first, still, leads.confidence, leads.errorType?, greatest, left ▸ leads.path,
        left ▸ leads.matched⟩

/-- When any rule fires, the finding belongs to the surest of those that do. -/
theorem Finding.exists_leads {firing : List Rule} (some : firing ≠ [])
    (confident : ∀ rule ∈ firing, IsConfidence rule.confidence) :
    ∃ first, (firing.foldl Finding.add {}).Leads firing first := by
  induction firing using List.reverseRecOn with
  | nil => exact absurd rfl some
  | append_singleton early last inductionHypothesis =>
    obtain rfl | earlier := eq_or_ne early []
    · have own : IsConfidence last.confidence := confident last List.mem_cons_self
      have surer : (({} : Finding).add last) =
          ⟨Option.some last.errorType, last.confidence, [last.evidence], [last.pattern]⟩ :=
        if_pos own.pos
      refine ⟨last, ?_⟩
      rw [List.nil_append, List.foldl_cons, List.foldl_nil, surer]
      exact leads_of_surer own (fun _ none => absurd none List.not_mem_nil)
        fun _ none => absurd none List.not_mem_nil
    · obtain ⟨first, leads⟩ := inductionHypothesis earlier fun rule member =>
        confident rule (List.mem_append_left [last] member)
      rw [List.foldl_append]
      exact leads.add confident

theorem Finding.Leads.judge_eq (leads : (rules.foldl Finding.add {}).Leads rules first)
    (message : String) : judge rules message = (rules.foldl Finding.add {}).verdict := by
  have known : (rules.foldl Finding.add {}).errorType?.isSome = true := leads.errorType? ▸ rfl
  exact congrArg Finding.verdict (if_pos known)

/-! ### Keywords -/

/-- When no rule fires, the first keyword in the message decides. -/
theorem judge_nil_of_first {early late : List (String × ErrorType)} {keyword message : String}
    {errorType : ErrorType} (split : fallback = early ++ (keyword, errorType) :: late)
    (inside : keyword.toList <:+: (Text.lowercase message).toList)
    (absent : ∀ entry ∈ early, ¬ entry.1.toList <:+: (Text.lowercase message).toList) :
    judge [] message =
      .ofType? (some errorType) fallbackConfidence ["keyword_match:" ++ keyword] [keyword] := by
  have first : fallback.find? (fun entry => Keyword.occursIn entry.1 message) =
      some (keyword, errorType) := by
    refine List.find?_eq_some_iff_append.mpr ⟨(Keyword.occursIn_iff keyword message).mpr inside,
      early, late, split, fun entry member => ?_⟩
    rw [Bool.not_eq_true', Bool.eq_false_iff]
    exact mt (Keyword.occursIn_iff entry.1 message).mp (absent entry member)
  unfold judge Finding.orKeyword
  rw [List.foldl_nil, first]
  rfl

/-- When no rule fires and no keyword is in the message, nothing is known. -/
theorem judge_nil_of_none {message : String}
    (absent : ∀ entry ∈ fallback, ¬ entry.1.toList <:+: (Text.lowercase message).toList) :
    judge [] message = .ofType? none 0 [] [] := by
  have none : fallback.find? (fun entry => Keyword.occursIn entry.1 message) = none :=
    List.find?_eq_none.mpr fun entry member =>
      mt (Keyword.occursIn_iff entry.1 message).mp (absent entry member)
  unfold judge Finding.orKeyword
  rw [List.foldl_nil, none]
  rfl

end Rule

/-! ### Verdicts by rules -/

namespace RuleClassifier

theorem predict_fit [Pattern.Dialect] (classifier : RuleClassifier) {set : TrainingSet} (valid : set.IsValid)
    (message : String) :
    let fitted := (classifier.fit set).1
    fitted.predict message = .ok (Rule.judge (fitted.firing message) message) := by
  simp only [classifier.fit_of_ok valid.check_eq]
  rfl

theorem isConfidence_of_mem_firing [Pattern.Dialect] (classifier : RuleClassifier) {set : TrainingSet}
    (valid : set.IsValid) (message : String) :
    ∀ rule ∈ (classifier.fit set).1.firing message, IsConfidence rule.confidence := by
  rw [classifier.fit_of_ok valid.check_eq]
  intro rule fires
  have learned : rule ∈ (classifier.buildRules set).rules := List.mem_of_mem_filter fires
  exact Rule.isConfidence_of_mem_learnUnsorted valid.countable
    ((classifier.mem_rules_buildRules set).mp learned)

/-- The surest rules decide. A classifier that has been fitted to a valid set answers to every
message. When learned rules fire on the message, the confidence is the greatest of theirs and the type
is that of the first rule with it, in the order in which the rules were learned. The evidence consists
of the patterns of all rules with this confidence, whatever their types, and of no others, and nothing
else about the message matters. When no rule fires, the first keyword of the table that stands in the
lower-case message decides, and when there is none nothing is known. -/
theorem strongest_rules_decide [Pattern.Dialect] (classifier : RuleClassifier) {set : TrainingSet}
    (valid : set.IsValid) (message : String) :
    let fitted := (classifier.fit set).1
    let firing := fitted.firing message
    let lowered := (Text.lowercase message).toList
    ∃ verdict, fitted.predict message = .ok verdict ∧
      (firing ≠ [] →
        let strongest := firing.filter (·.confidence == verdict.confidence)
        (∀ rule ∈ firing, rule.confidence ≤ verdict.confidence) ∧
          (∃ first, strongest.head? = some first ∧ verdict.confidence = first.confidence ∧
            verdict.errorType = first.errorType) ∧
          verdict.matched = strongest.map (·.pattern) ∧
          verdict.path = strongest.map Rule.evidence ∧
          ∀ other, fitted.firing other = firing → fitted.predict other = .ok verdict) ∧
      (firing = [] →
        (∀ early keyword errorType late, Rule.fallback = early ++ (keyword, errorType) :: late →
          keyword.toList <:+: lowered → (∀ entry ∈ early, ¬ entry.1.toList <:+: lowered) →
            verdict.errorType = errorType ∧ verdict.confidence = 0.5 ∧
              verdict.matched = [keyword] ∧ verdict.path = ["keyword_match:" ++ keyword]) ∧
          ((∀ entry ∈ Rule.fallback, ¬ entry.1.toList <:+: lowered) →
            verdict.errorType = .unknownError ∧ verdict.confidence = 0 ∧ verdict.matched = [] ∧
              verdict.path = [] ∧ verdict.metadata = [])) := by
  intro fitted firing lowered
  refine ⟨Rule.judge firing message, classifier.predict_fit valid message, fun some => ?_,
    fun none => ?_⟩
  · obtain ⟨first, leads⟩ :=
      Rule.Finding.exists_leads some (classifier.isConfidence_of_mem_firing valid message)
    have decided := leads.judge_eq
    rw [decided message]
    refine ⟨leads.greatest, ⟨first, List.head?_filter.trans leads.found, leads.confidence, ?_⟩,
      leads.matched, leads.path, fun other same => ?_⟩
    · exact congrArg (·.getD .unknownError) leads.errorType?
    · rw [classifier.predict_fit valid other, same, decided other]
  · rw [none]
    refine ⟨fun early keyword errorType late split inside absent => ?_, fun absent => ?_⟩
    · rw [Rule.judge_nil_of_first split inside absent]
      exact ⟨rfl, rfl, rfl, rfl⟩
    · rw [Rule.judge_nil_of_none absent]
      exact ⟨rfl, rfl, rfl, rfl, rfl⟩

/-- The case of two rules for different types that are equally sure: the first one gives the type, and
both are evidence. Where neither fires, an earlier keyword of the table goes before a later one. -/
theorem strongest_rules_decide_on_tie :
    let set : TrainingSet := ⟨["link lost", "frame late"], [.networkError, .timeoutError], [], []⟩
    let fitted := (({ name := "own", library := ["lost", "late"] } : RuleClassifier).fit set).1
    (∃ verdict, fitted.predict "late or lost" = .ok verdict ∧
      verdict.errorType = .networkError ∧ verdict.matched = ["lost", "late"]) ∧
    ∃ verdict, fitted.predict "Network Timeout" = .ok verdict ∧
      verdict.errorType = .timeoutError ∧ verdict.matched = ["timeout"] := by
  intro set fitted
  have valid : set.IsValid := ⟨rfl, by decide⟩
  -- The rules are in order as they are collected, so that nothing has to be sorted.
  let collected := Rule.learnUnsorted (Rule.compileAll ["lost", "late"]) set
  have rules : fitted.rules = collected :=
    (congrArg (·.1.rules) (fit_of_ok _ valid.check_eq)).trans
      ((rules_buildRules _ set).trans (List.mergeSort_of_pairwise (by decide +kernel)))
  constructor
  · obtain ⟨verdict, predicted, byRules, _⟩ := strongest_rules_decide
      { name := "own", library := ["lost", "late"] } valid "late or lost"
    have firing : fitted.firing "late or lost" = collected := by
      unfold RuleClassifier.firing
      rw [rules]
      exact List.filter_eq_self.mpr (by decide +kernel)
    have tied : ∀ one ∈ collected, ∀ two ∈ collected, (one.confidence == two.confidence) = true := by
      decide +kernel
    have type : collected.head?.map (·.errorType) = some .networkError := by decide +kernel
    have patterns : collected.map (·.pattern) = ["lost", "late"] := by decide +kernel
    change fitted.firing "late or lost" ≠ [] → _ at byRules
    rw [firing] at byRules
    obtain ⟨_, ⟨first, head, confidence, errorType⟩, matched, _⟩ :=
      byRules fun none => absurd (none ▸ patterns) (by decide)
    have all : collected.filter (·.confidence == verdict.confidence) = collected := by
      rw [confidence]
      exact List.filter_eq_self.mpr fun rule member =>
        tied rule member first (List.mem_of_mem_filter (List.mem_of_mem_head? head))
    rw [all] at head matched
    rw [head] at type
    exact ⟨verdict, predicted, errorType.trans (Option.some.inj type), matched.trans patterns⟩
  · obtain ⟨verdict, predicted, _, byKeyword⟩ := strongest_rules_decide
      { name := "own", library := ["lost", "late"] } valid "Network Timeout"
    have none : fitted.firing "Network Timeout" = [] := by
      unfold RuleClassifier.firing
      rw [rules]
      exact List.filter_eq_nil_iff.mpr (by decide +kernel)
    have inside := (Keyword.occursIn_iff "timeout" "Network Timeout").mp (by decide +kernel)
    obtain ⟨errorType, _, matched, _⟩ := (byKeyword none).1 [] "timeout" .timeoutError
      Rule.fallback.tail rfl inside fun _ absent => absurd absent List.not_mem_nil
    exact ⟨verdict, predicted, errorType, matched⟩

end RuleClassifier

end Triage
