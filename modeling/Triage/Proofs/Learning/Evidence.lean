/-
This file proves that the evidence of a verdict is sound. Every entry of the path is a tag followed by
the pattern or keyword at the same place, and the tag says truly what speaks for the type: a learned
rule or cue whose pattern occurs in the message, or a keyword that stands in it. A verdict without
evidence is one about a message in which nothing speaks for any type, and has found nothing.

What keeps a rule or a cue from going unnoticed is that its confidence is above zero.
-/

import Mathlib.Data.List.Forall2
import Mathlib.Data.List.Infix
import Triage.Proofs.Learning.Confidence
import Triage.Proofs.Learning.RetryPolicy

namespace Triage

/-! ### Tags -/

/-- What a piece of evidence is. -/
inductive Tag where
  | rule
  | keyword
  | cue
  deriving DecidableEq, Repr

/-- How the entries of a path begin. -/
def Tag.text : Tag → String
  | rule => "matched_pattern:"
  | keyword => "keyword_match:"
  | cue => "pattern_match:"

/-- An entry can be read in one way only, since no two tags begin with the same letter. -/
theorem Tag.append_injective {tag other : Tag} {name otherName : String}
    (same : tag.text ++ name = other.text ++ otherName) : tag = other ∧ name = otherName := by
  have letter (tag : Tag) (name : String) :
      (tag.text ++ name).toList.head? = tag.text.toList.head? := by
    rw [String.toList_append]
    cases tag <;> rfl
  have heads : tag.text.toList.head? = other.text.toList.head? := by
    rw [← letter tag name, same, letter]
  obtain rfl : tag = other := by
    revert heads
    cases tag <;> cases other <;> decide
  exact ⟨rfl, by simpa [← String.toList_inj] using same⟩

/-! ### What speaks for a type -/

/-- Something speaks for a type by way of rules: a rule whose pattern occurs in the message, or a
keyword that stands in it, up to case. -/
inductive Rule.Speaks [Pattern.Dialect] (rules : List Rule) (message : String) : Tag → String → Prop where
  | rule {rule : Rule} (learned : rule ∈ rules)
      (occurs : Pattern.sourceOccursIn rule.pattern message) : Speaks rules message .rule rule.pattern
  | keyword {keyword : String} {errorType : ErrorType} (listed : (keyword, errorType) ∈ fallback)
      (inside : keyword.toList <:+: (Text.lowercase message).toList) :
      Speaks rules message .keyword keyword

/-- Something speaks for a type by way of cues: a cue whose pattern occurs in the message. -/
inductive Cue.Speaks [Pattern.Dialect] (table : List (ErrorType × List Cue)) (message : String) :
    Tag → String → Prop where
  | cue {errorType : ErrorType} {cues : List Cue} {cue : Cue} (entry : (errorType, cues) ∈ table)
      (learned : cue ∈ cues) (occurs : Pattern.sourceOccursIn cue.source message) :
      Speaks table message .cue cue.source

/-- Something speaks for a type by way of what a classifier has learned. -/
def Classifier.Speaks [Pattern.Dialect] (message : String) (tag : Tag) (name : String) : Classifier → Prop
  | rules part => Rule.Speaks part.rules message tag name
  | cues part => Cue.Speaks part.table message tag name
  | blend part =>
    Rule.Speaks part.ruleClassifier.rules message tag name ∨
      Cue.Speaks part.cueClassifier.table message tag name

/-- An entry of a path and what stands at the same place among the patterns. -/
def Tag.Pairs (speaks : Tag → String → Prop) (entry name : String) : Prop :=
  ∃ tag : Tag, entry = tag.text ++ name ∧ speaks tag name

theorem Tag.eq_nil_of_silent {speaks : Tag → String → Prop} {path matched : List String}
    (aligned : List.Forall₂ (Tag.Pairs speaks) path matched)
    (silent : ∀ tag name, ¬ speaks tag name) : matched = [] := by
  cases aligned with
  | nil => rfl
  | cons pairs _ =>
    obtain ⟨tag, _, speaking⟩ := pairs
    exact absurd speaking (silent tag _)

/-- A verdict shows what speaks, and when nothing does it has found nothing. -/
structure Verdict.Shows (verdict : Verdict) (speaks : Tag → String → Prop) : Prop where
  aligned : List.Forall₂ (Tag.Pairs speaks) verdict.path verdict.matched
  empty_iff : verdict.matched = [] ↔ ∀ tag name, ¬ speaks tag name
  unknown : verdict.matched = [] → verdict.errorType = .unknownError ∧ verdict.confidence = 0

/-! ### Rules -/

theorem Keyword.isInside_iff (characters text : List Char) :
    isInside characters text = true ↔ characters <:+: text := by
  induction text with
  | nil => rw [isInside, List.isEmpty_iff, List.infix_nil]
  | cons character rest inductionHypothesis =>
    rw [isInside, Bool.or_eq_true, inductionHypothesis, List.isPrefixOf_iff_prefix,
      List.infix_cons_iff]

theorem Keyword.occursIn_iff (keyword message : String) :
    occursIn keyword message = true ↔ keyword.toList <:+: (Text.lowercase message).toList := by
  unfold occursIn Text.lowercase
  rw [isInside_iff, String.toList_ofList]

namespace Rule

/-- What has been found is shown, and no type has been found without any evidence. -/
structure Finding.Tells (finding : Finding) (speaks : Tag → String → Prop) : Prop where
  aligned : List.Forall₂ (Tag.Pairs speaks) finding.path finding.matched
  found : finding.errorType?.isSome = true ↔ finding.matched ≠ []
  sound : finding.IsSound

variable {finding : Finding} {speaks : Tag → String → Prop}

theorem Finding.tells_empty : ({} : Finding).Tells speaks where
  aligned := .nil
  found := by simp
  sound := fun _ => rfl

theorem pairs_evidence {rule : Rule} (speaking : speaks .rule rule.pattern) :
    Tag.Pairs speaks rule.evidence rule.pattern :=
  ⟨.rule, rfl, speaking⟩

theorem Finding.Tells.add (tells : finding.Tells speaks) {rule : Rule}
    (speaking : speaks .rule rule.pattern) : (finding.add rule).Tells speaks := by
  have one : List.Forall₂ (Tag.Pairs speaks) [rule.evidence] [rule.pattern] :=
    .cons (pairs_evidence speaking) .nil
  refine ⟨?_, ?_, tells.sound.add rule⟩
  · unfold Finding.add
    split
    · exact one
    · split
      · exact List.rel_append tells.aligned one
      · exact tells.aligned
  · unfold Finding.add
    split
    · simp
    · split
      · rename_i known
        simp_all
      · exact tells.found

theorem Finding.tells_foldl (firing : List Rule) (tells : finding.Tells speaks)
    (speaking : ∀ rule ∈ firing, speaks .rule rule.pattern) :
    (firing.foldl add finding).Tells speaks := by
  induction firing generalizing finding with
  | nil => exact tells
  | cons rule rest inductionHypothesis =>
    exact inductionHypothesis (tells.add (speaking rule List.mem_cons_self))
      fun later member => speaking later (List.mem_cons_of_mem rule member)

/-- A rule with a confidence leaves a type behind, whatever has been found before it. -/
theorem Finding.IsSound.isSome_add (sound : finding.IsSound) {rule : Rule}
    (positive : 0 < rule.confidence) : (finding.add rule).errorType?.isSome = true := by
  unfold Finding.add
  split
  · rfl
  · rename_i weaker
    have known : finding.errorType?.isSome = true := by
      by_contra none
      rw [sound (Option.not_isSome_iff_eq_none.mp none)] at weaker
      exact weaker positive
    split
    · exact known
    · exact known

/-- When no type has been found no rule has fired. -/
theorem Finding.eq_nil_of_foldl (firing : List Rule)
    (positive : ∀ rule ∈ firing, 0 < rule.confidence)
    (missing : (firing.foldl Finding.add {}).errorType? = none) : firing = [] := by
  -- The last rule alone leaves a type behind, so the others do not matter.
  obtain rfl | ⟨early, last, rfl⟩ := firing.eq_nil_or_concat'
  · rfl
  · have sound : (early.foldl Finding.add {}).IsSound := isSound_foldl early fun _ => rfl
    have known := sound.isSome_add (positive last (List.mem_append_right early List.mem_cons_self))
    rw [List.foldl_append] at missing
    exact absurd (known.symm.trans (congrArg Option.isSome missing)) Bool.noConfusion

/-- A finding without a type is completed by the first keyword in the message. -/
theorem Finding.Tells.orKeyword (tells : finding.Tells speaks) {message : String}
    (speaking : ∀ keyword errorType, (keyword, errorType) ∈ fallback →
      keyword.toList <:+: (Text.lowercase message).toList → speaks .keyword keyword) :
    (finding.orKeyword message).Tells speaks := by
  unfold Finding.orKeyword
  split
  · exact tells
  · cases first : fallback.find? fun entry => Keyword.occursIn entry.1 message with
    | none => exact tells
    | some entry =>
      obtain ⟨keyword, errorType⟩ := entry
      have inside := (Keyword.occursIn_iff keyword message).mp (by simpa using List.find?_some first)
      have speaks := speaking keyword errorType (List.mem_of_find?_eq_some first) inside
      exact ⟨.cons ⟨.keyword, rfl, speaks⟩ .nil, by simp, nofun⟩

/-- When there is no type after all, no keyword stands in the message either. -/
theorem Finding.eq_none_of_orKeyword {message : String}
    (missing : (finding.orKeyword message).errorType? = none) :
    finding.errorType? = none ∧ ∀ keyword errorType, (keyword, errorType) ∈ fallback →
      ¬ keyword.toList <:+: (Text.lowercase message).toList := by
  unfold Finding.orKeyword at missing
  split at missing
  · rename_i known
    rw [missing] at known
    exact nomatch known
  · cases first : fallback.find? fun entry => Keyword.occursIn entry.1 message with
    | some entry =>
      rw [first] at missing
      exact nomatch missing
    | none =>
      rw [first] at missing
      refine ⟨missing, fun keyword errorType listed inside => ?_⟩
      exact List.find?_eq_none.mp first _ listed ((Keyword.occursIn_iff keyword message).mpr inside)

theorem Finding.Tells.shows (tells : finding.Tells speaks)
    (complete : finding.errorType? = none → ∀ tag name, ¬ speaks tag name) :
    finding.verdict.Shows speaks := by
  have missing (empty : finding.matched = []) : finding.errorType? = none :=
    Option.not_isSome_iff_eq_none.mp fun known => tells.found.mp known empty
  refine ⟨tells.aligned, ⟨fun empty => complete (missing empty), fun silent => ?_⟩, fun empty => ?_⟩
  · exact Tag.eq_nil_of_silent tells.aligned silent
  · refine ⟨?_, tells.sound (missing empty)⟩
    show finding.errorType?.getD .unknownError = .unknownError
    rw [missing empty]
    rfl

/-- A verdict by rules shows what speaks, since no rule that fires goes unnoticed. -/
theorem shows_judge [Pattern.Dialect] {rules firing : List Rule} {message : String}
    (fires : ∀ rule, rule ∈ firing ↔ rule ∈ rules ∧ Pattern.sourceOccursIn rule.pattern message)
    (positive : ∀ rule ∈ rules, 0 < rule.confidence) :
    (judge firing message).Shows (Speaks rules message) := by
  have tells : (firing.foldl Finding.add {}).Tells (Speaks rules message) := by
    refine Finding.tells_foldl firing Finding.tells_empty fun rule member => ?_
    obtain ⟨learned, occurs⟩ := (fires rule).mp member
    exact .rule learned occurs
  refine (tells.orKeyword fun _ _ listed inside => .keyword listed inside).shows fun missing => ?_
  obtain ⟨missing, silent⟩ := Finding.eq_none_of_orKeyword missing
  have none := Finding.eq_nil_of_foldl firing
    (fun rule member => positive rule ((fires rule).mp member).1) missing
  rintro tag name (⟨learned, occurs⟩ | ⟨listed, inside⟩)
  · exact List.not_mem_nil (none ▸ (fires _).mpr ⟨learned, occurs⟩)
  · exact silent _ _ listed inside

end Rule

/-! ### Cues -/

namespace Cue

/-- A sum of confidences, if there are any, is as far from zero as each of them. -/
theorem exists_hasSize_total (cues : List Cue)
    (confident : ∀ cue ∈ cues, IsConfidence cue.confidence) :
    ∃ total, Number.HasSize (cues.foldl (fun total cue => total + cue.confidence) 0) total ∧
      (cues ≠ [] → ((2 ^ (-68 : Int) : ℚ) : WithTop ℚ) ≤ total) := by
  induction cues using List.reverseRecOn with
  | nil => exact ⟨0, Number.hasSize_zero_literal, fun some => absurd rfl some⟩
  | append_singleton early last inductionHypothesis =>
    obtain ⟨total, totalSized, _⟩ :=
      inductionHypothesis fun cue member => confident cue (List.mem_append_left [last] member)
    obtain ⟨size, sized, above, _⟩ :=
      confident last (List.mem_append_right early List.mem_cons_self)
    obtain ⟨sum, sumSized, _, greater⟩ := totalSized.exists_add sized
    rw [List.foldl_append]
    exact ⟨sum, sumSized, fun _ => (WithTop.coe_le_coe.mpr above).trans greater⟩

/-- A type has support just when there is a cue for it. -/
theorem total_pos_iff {support : Support}
    (confident : ∀ cue ∈ support.cues, IsConfidence cue.confidence) :
    0 < support.total ↔ support.cues ≠ [] := by
  obtain ⟨total, sized, above⟩ := exists_hasSize_total support.cues confident
  rw [Support.total, sized.pos_iff]
  constructor
  · rintro positive empty
    rw [empty] at sized
    obtain rfl : 0 = total := Option.some.inj (Number.hasSize_zero_literal.symm.trans sized)
    exact lt_irrefl _ positive
  · exact fun some => (WithTop.coe_pos.mpr (Number.two_zpow_pos _)).trans_le (above some)

theorem better_eq_none_iff (best : Option Support) (support : Support) :
    better best support = none ↔ best = none ∧ ¬ 0 < support.total := by
  unfold better
  cases best with
  | some held => split <;> simp
  | none =>
    show (if 0 < support.total then some support else none) = none ↔ _
    simp

/-- There is no best support just when no type has any. -/
theorem foldl_better_eq_none_iff (supports : List Support) (best : Option Support) :
    supports.foldl better best = none ↔
      best = none ∧ ∀ support ∈ supports, ¬ 0 < support.total := by
  induction supports generalizing best with
  | nil => simp
  | cons support rest inductionHypothesis =>
    rw [List.foldl_cons, inductionHypothesis, better_eq_none_iff, and_assoc, List.forall_mem_cons]

/-- The best support is one of those that have been compared. -/
theorem mem_of_foldl_better {supports : List Support} {support : Support}
    (best : supports.foldl better none = some support) : support ∈ supports := by
  induction supports using List.reverseRecOn with
  | nil => exact nomatch best
  | append_singleton early last inductionHypothesis =>
    rw [List.foldl_append] at best
    unfold better at best
    simp only [List.foldl_cons, List.foldl_nil] at best
    split at best
    · obtain rfl := Option.some.inj best
      exact List.mem_append_right early List.mem_cons_self
    · exact List.mem_append_left [last] (inductionHypothesis best)

theorem aligned_evidence {speaks : Tag → String → Prop} {cues : List Cue}
    (speaking : ∀ cue ∈ cues, speaks .cue cue.source) :
    List.Forall₂ (Tag.Pairs speaks) (cues.map evidence) (cues.map (·.source)) := by
  rw [List.forall₂_map_left_iff, List.forall₂_map_right_iff, List.forall₂_same]
  exact fun cue member => ⟨.cue, rfl, speaking cue member⟩

variable {table : List (ErrorType × List Cue)} {message : String}

theorem mem_supports {support : Support} :
    support ∈ supports table message ↔
      ∃ errorType cues, (errorType, cues) ∈ table ∧
        ⟨errorType, cues.filter (·.fires message)⟩ = support := by
  unfold supports
  simp only [List.mem_map, Prod.exists]

/-- A verdict by cues shows what speaks, since no type with a cue goes unnoticed. -/
theorem shows_judge [Pattern.Dialect]
    (own : ∀ errorType cues, (errorType, cues) ∈ table → ∀ cue ∈ cues,
      IsConfidence cue.confidence ∧ cue.pattern? = Pattern.compile? cue.source) :
    (judge table message).Shows (Speaks table message) := by
  have positive {support : Support} (listed : support ∈ supports table message) :
      0 < support.total ↔ support.cues ≠ [] := by
    obtain ⟨errorType, cues, entry, rfl⟩ := mem_supports.mp listed
    exact total_pos_iff fun cue member =>
      (own errorType cues entry cue (List.mem_of_mem_filter member)).1
  unfold judge
  cases best : (supports table message).foldl better none with
  | none =>
    obtain ⟨_, weak⟩ := (foldl_better_eq_none_iff _ none).mp best
    refine ⟨.nil, iff_of_true rfl ?_, fun _ => ⟨rfl, rfl⟩⟩
    -- A cue that occurs would give its type support.
    rintro tag name ⟨entry, learned, occurs⟩
    have fires := (fires_iff (own _ _ entry _ learned).2 message).mpr occurs
    have listed : _ ∈ supports table message := mem_supports.mpr ⟨_, _, entry, rfl⟩
    exact weak _ listed ((positive listed).mpr
      (List.ne_nil_of_mem (List.mem_filter.mpr ⟨learned, fires⟩)))
  | some support =>
    have listed := mem_of_foldl_better best
    have some : support.cues ≠ [] :=
      (positive listed).mp (isPositive_foldl _ isPositive_none support best)
    obtain ⟨errorType, cues, entry, rfl⟩ := mem_supports.mp listed
    have aligned : List.Forall₂ (Tag.Pairs (Speaks table message))
        ((cues.filter (·.fires message)).map evidence)
        ((cues.filter (·.fires message)).map (·.source)) := by
      refine aligned_evidence fun cue member => ?_
      obtain ⟨learned, fires⟩ := List.mem_filter.mp member
      exact .cue entry learned ((fires_iff (own _ _ entry _ learned).2 message).mp fires)
    have nonempty : (cues.filter (·.fires message)).map (·.source) ≠ [] :=
      mt List.map_eq_nil_iff.mp some
    exact ⟨aligned, ⟨fun empty => absurd empty nonempty, Tag.eq_nil_of_silent aligned⟩,
      fun empty => absurd empty nonempty⟩

end Cue

/-! ### Blended verdicts -/

namespace Blend

variable {byRules byCues : Verdict} {speaks others : Tag → String → Prop}

/-- The evidence of the winner comes first, followed by all of the other's. -/
theorem evidence_verdict (byRules byCues : Verdict) :
    let winner := if byRules.confidence > byCues.confidence then byRules else byCues
    let other := if byRules.confidence > byCues.confidence then byCues else byRules
    (verdict byRules byCues).errorType = winner.errorType ∧
      (verdict byRules byCues).path = winner.path ++ other.path ∧
      (verdict byRules byCues).matched = winner.matched ++ other.matched := by
  unfold verdict
  simp only
  split
  · exact ⟨rfl, rfl, rfl⟩
  · exact ⟨rfl, rfl, rfl⟩

theorem shows_extend {winner other : Verdict} (first : winner.Shows speaks)
    (second : other.Shows others) (sum : Float)
    (unknown : winner.confidence = 0 → other.confidence = 0 → sum = 0) :
    (extend winner other sum).Shows fun tag name => speaks tag name ∨ others tag name := by
  have left : List.Forall₂ (Tag.Pairs fun tag name => speaks tag name ∨ others tag name)
      winner.path winner.matched :=
    first.aligned.imp fun _ _ ⟨tag, entry, speaking⟩ => ⟨tag, entry, .inl speaking⟩
  have right : List.Forall₂ (Tag.Pairs fun tag name => speaks tag name ∨ others tag name)
      other.path other.matched :=
    second.aligned.imp fun _ _ ⟨tag, entry, speaking⟩ => ⟨tag, entry, .inr speaking⟩
  refine ⟨List.rel_append left right, ?_, fun empty => ?_⟩
  · show winner.matched ++ other.matched = [] ↔ _
    rw [List.append_eq_nil_iff, first.empty_iff, second.empty_iff]
    simp only [not_or, forall_and]
  · obtain ⟨firstEmpty, secondEmpty⟩ := List.append_eq_nil_iff.mp empty
    obtain ⟨errorType, nothing⟩ := first.unknown firstEmpty
    exact ⟨errorType, unknown nothing (second.unknown secondEmpty).2⟩

theorem confidence_zero : confidence 0 0 = 0 := by
  decide +kernel

theorem shows_verdict (rules : byRules.Shows speaks) (cues : byCues.Shows others) :
    (verdict byRules byCues).Shows fun tag name => speaks tag name ∨ others tag name := by
  unfold verdict
  simp only
  split
  · refine shows_extend rules cues _ fun byRulesZero byCuesZero => ?_
    rw [byRulesZero, byCuesZero, confidence_zero]
  · have shown := shows_extend cues rules (confidence byRules.confidence byCues.confidence)
      fun byCuesZero byRulesZero => by rw [byRulesZero, byCuesZero, confidence_zero]
    simpa only [or_comm] using shown

end Blend

/-! ### The evidence of classifiers -/

theorem TrainingSet.IsValid.check_eq {set : TrainingSet} (valid : set.IsValid) :
    set.check = .ok () :=
  set.check_of_isAligned valid.aligned

section Fitted

variable [Pattern.Dialect] {set : TrainingSet} (valid : set.IsValid) {message : String} {verdict : Verdict}

include valid

theorem RuleClassifier.shows_of_predict (classifier : RuleClassifier)
    (predicted : (classifier.fit set).1.predict message = .ok verdict) :
    verdict.Shows (Rule.Speaks (classifier.fit set).1.rules message) := by
  rw [← judge_of_predict predicted, classifier.fit_of_ok valid.check_eq]
  refine Rule.shows_judge (fun rule => ?_) fun rule learned => ?_
  · refine List.mem_filter.trans (and_congr_right fun learned => ?_)
    exact classifier.fires_buildRules set learned message
  · have unsorted := (classifier.mem_rules_buildRules set).mp learned
    exact (Rule.isConfidence_of_mem_learnUnsorted valid.countable unsorted).pos

theorem CueClassifier.shows_of_predict (classifier : CueClassifier)
    (predicted : (classifier.fit set).1.predict message = .ok verdict) :
    verdict.Shows (Cue.Speaks (classifier.fit set).1.table message) := by
  rw [← judge_of_predict predicted, classifier.fit_of_ok valid.check_eq]
  exact Cue.shows_judge fun _ _ entry _ listed =>
    Cue.isConfidence_of_mem_learn valid.countable entry listed

theorem Classifier.shows_of_predict (classifier : Classifier)
    (predicted : (classifier.fit set).1.predict message = .ok verdict) :
    verdict.Shows fun tag name => (classifier.fit set).1.Speaks message tag name := by
  cases classifier with
  | rules part => exact part.shows_of_predict valid predicted
  | cues part => exact part.shows_of_predict valid predicted
  | blend part =>
    simp only [fit, part.fit_of_ok valid.check_eq] at predicted ⊢
    obtain ⟨byRules, byCues, rules, cues, rfl⟩ := BlendClassifier.verdict_of_predict predicted
    exact Blend.shows_verdict (part.ruleClassifier.shows_of_predict valid rules)
      (part.cueClassifier.shows_of_predict valid cues)

end Fitted

/-- The evidence of a verdict is sound. Once it has been fitted to a valid set, a classifier answers
to every message, and its verdict has as many entries in its path as it has patterns. Each entry is
a tag followed by the pattern at the same place, it can be read in no other way, and what the tag
says is true. There is no evidence just when nothing speaks for any type, and then the type is
unknown and there is no confidence. When two verdicts are blended, the one that gives the type also
gives the first part of the evidence, and all of the other's follows. -/
theorem Classifier.evidence_sound [Pattern.Dialect] (classifier : Classifier) {set : TrainingSet}
    (valid : set.IsValid) (message : String) :
    let fitted := (classifier.fit set).1
    ∃ verdict, fitted.predict message = .ok verdict ∧
      verdict.path.length = verdict.matched.length ∧
      (∀ (index : Nat) entry name, verdict.path[index]? = some entry →
        verdict.matched[index]? = some name →
          ∃ tag : Tag, entry = tag.text ++ name ∧ fitted.Speaks message tag name ∧
            ∀ other otherName, entry = Tag.text other ++ otherName →
              other = tag ∧ otherName = name) ∧
      (verdict.path = [] ∧ verdict.matched = [] ↔ ∀ tag name, ¬ fitted.Speaks message tag name) ∧
      (verdict.matched = [] → verdict.errorType = .unknownError ∧ verdict.confidence = 0) ∧
      ∀ part, fitted = .blend part →
        ∃ byRules byCues, part.ruleClassifier.predict message = .ok byRules ∧
          part.cueClassifier.predict message = .ok byCues ∧
            let winner := if byRules.confidence > byCues.confidence then byRules else byCues
            let other := if byRules.confidence > byCues.confidence then byCues else byRules
            verdict.errorType = winner.errorType ∧ verdict.path = winner.path ++ other.path ∧
              verdict.matched = winner.matched ++ other.matched := by
  intro fitted
  obtain ⟨verdict, predicted⟩ := (classifier.answers_fit valid.check_eq message).1
  have shown := classifier.shows_of_predict valid predicted
  obtain ⟨sameLength, pairs⟩ := List.forall₂_iff_get.mp shown.aligned
  refine ⟨verdict, predicted, sameLength, ?_, ?_, shown.unknown, ?_⟩
  · intro index entry name atEntry atName
    obtain ⟨inPath, rfl⟩ := List.getElem?_eq_some_iff.mp atEntry
    obtain ⟨inMatched, rfl⟩ := List.getElem?_eq_some_iff.mp atName
    obtain ⟨tag, reading, speaking⟩ := pairs index inPath inMatched
    refine ⟨tag, reading, speaking, fun other otherName otherReading => ?_⟩
    exact Tag.append_injective (otherReading.symm.trans reading)
  · rw [← shown.empty_iff]
    refine and_iff_right_of_imp fun empty => List.eq_nil_of_length_eq_zero ?_
    rw [sameLength, empty, List.length_nil]
  · intro part isBlend
    rw [show (classifier.fit set).1 = .blend part from isBlend] at predicted
    obtain ⟨byRules, byCues, rules, cues, rfl⟩ := BlendClassifier.verdict_of_predict predicted
    exact ⟨byRules, byCues, rules, cues, Blend.evidence_verdict byRules byCues⟩

/-- The case of a classifier with a library of its own: the pattern that occurs is the evidence. -/
theorem Classifier.evidence_sound_of_own_library :
    let set : TrainingSet := ⟨["Disk quota reached"], [.diskSpaceError], [], []⟩
    let fitted := ((rules { name := "own", library := ["quota|inode", "cable"] }).fit set).1
    ∃ verdict, fitted.predict "no quota left" = .ok verdict ∧
      verdict.matched = ["quota|inode"] ∧ fitted.Speaks "no quota left" .rule "quota|inode" := by
  intro set fitted
  have valid : set.IsValid := ⟨rfl, by decide⟩
  obtain ⟨verdict, predicted, _, reads, _⟩ := evidence_sound _ valid "no quota left"
  have found : (fitted.predict "no quota left").toOption.map (fun verdict =>
      (verdict.path, verdict.matched)) =
        some (["matched_pattern:quota|inode"], ["quota|inode"]) := by
    decide +kernel
  rw [show fitted.predict "no quota left" = .ok verdict from predicted] at found
  obtain ⟨path, matched⟩ := Prod.mk.inj (Option.some.inj found)
  obtain ⟨tag, _, speaking, unique⟩ :=
    reads 0 _ _ (congrArg (·[0]?) path) (congrArg (·[0]?) matched)
  obtain ⟨rfl, _⟩ := unique .rule "quota|inode" (by decide)
  exact ⟨verdict, predicted, matched, speaking⟩

end Triage
