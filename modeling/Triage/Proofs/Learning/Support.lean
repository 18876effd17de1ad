/-
This file proves that the verdict and the probabilities of cues agree, although each of them is
computed for itself. The verdict goes to the first type with the greatest sum, and sums are compared as
they are; the probabilities are those of the types with any sum, and sums that exceed one are cut off.
Cutting off keeps the order, so that no probability exceeds that of the verdict, even where several
types are cut off alike and only the whole sums tell which of them is best.

A sum of confidences is above zero just when there is one to add, so that the types with a sum are
those for which a cue fires.
-/

import Triage.Proofs.Learning.CueText
import Triage.Proofs.Learning.Evidence
import Triage.Proofs.Learning.Rulebook

namespace Triage

open Number (IsSized)

/-! ### Keyed lists -/

/-- In a list with an entry for every key, a key finds its entry. -/
theorem find?_map_key {Key Value : Type} [BEq Key] [LawfulBEq Key] (keys : List Key)
    (value : Key → Value) {key : Key} (listed : key ∈ keys) :
    (keys.map fun key => (key, value key)).find? (·.1 == key) = some (key, value key) := by
  induction keys with
  | nil => exact absurd listed List.not_mem_nil
  | cons first rest inductionHypothesis =>
    rw [List.map_cons, List.find?_cons]
    cases same : first == key with
    | true =>
      obtain rfl := eq_of_beq same
      rfl
    | false =>
      obtain rfl | later := List.mem_cons.mp listed
      · exact absurd (beq_self_eq_true key) (Bool.eq_false_iff.mp same)
      · exact inductionHypothesis later

namespace Cue

/-! ### Sums -/

theorem isSized_total {support : Support}
    (confident : ∀ cue ∈ support.cues, IsConfidence cue.confidence) : IsSized support.total := by
  obtain ⟨_, sized, _⟩ := exists_hasSize_total support.cues confident
  exact sized.isSized

theorem isSized_zero : IsSized 0 :=
  Number.hasSize_zero_literal.isSized

theorem isSized_one : IsSized 1 :=
  Number.hasSize_literal_one.isSized

/-- Cutting off keeps the order of sums. -/
theorem capped_le_capped {total greater : Float} (sized : IsSized total)
    (greaterSized : IsSized greater) (below : total ≤ greater) : capped total ≤ capped greater := by
  unfold capped
  split
  · rename_i above
    rw [if_pos (isSized_one.lt_of_lt_of_le sized greaterSized above below)]
    exact isSized_one.le_refl
  · rename_i within
    split
    · exact (isSized_one.not_lt_iff sized).mp within
    · exact below

/-! ### The best support -/

/-- What is best among some supports: none has a greater sum, and of those with the same sum it is
the first. -/
structure IsBest (best : Option Support) (supports : List Support) : Prop where
  sized : IsSized (bestTotal best)
  greatest : ∀ support ∈ supports, support.total ≤ bestTotal best
  first : ∀ held, best = some held → ∃ early late, supports = early ++ held :: late ∧
    ∀ support ∈ early, support.total < held.total

theorem IsBest.better {best : Option Support} {earlier : List Support} {support : Support}
    (isBest : IsBest best earlier) (before : ∀ other ∈ earlier, IsSized other.total)
    (sized : IsSized support.total) : IsBest (better best support) (earlier ++ [support]) := by
  unfold Cue.better
  split
  · rename_i above
    have below {other : Support} (member : other ∈ earlier) : other.total < support.total :=
      (before other member).lt_of_le_of_lt isBest.sized sized (isBest.greatest other member) above
    refine ⟨sized, List.forall_mem_append.mpr ⟨fun other member => ?_,
      List.forall_mem_singleton.mpr sized.le_refl⟩, fun held same => ?_⟩
    · exact (before other member).le_of_lt sized (below member)
    · obtain rfl := Option.some.inj same
      exact ⟨earlier, [], rfl, fun _ member => below member⟩
  · rename_i notAbove
    have atMost : support.total ≤ bestTotal best := (isBest.sized.not_lt_iff sized).mp notAbove
    refine ⟨isBest.sized, List.forall_mem_append.mpr
      ⟨isBest.greatest, List.forall_mem_singleton.mpr atMost⟩, fun held same => ?_⟩
    obtain ⟨early, late, rfl, below⟩ := isBest.first held same
    exact ⟨early, late ++ [support], List.append_assoc early (held :: late) [support], below⟩

/-- Going through all supports finds what is best. -/
theorem isBest_foldl {supports : List Support}
    (sized : ∀ support ∈ supports, IsSized support.total) :
    IsBest (supports.foldl better none) supports := by
  induction supports using List.reverseRecOn with
  | nil => exact ⟨isSized_zero, fun _ none => absurd none List.not_mem_nil, nofun⟩
  | append_singleton early last inductionHypothesis =>
    obtain ⟨before, own⟩ := List.forall_mem_append.mp sized
    rw [List.foldl_append]
    exact (inductionHypothesis before).better before (own last List.mem_cons_self)

end Cue

/-! ### What a classifier finds for a type -/

namespace CueClassifier

/-- The cues for a type that occur in a message. -/
def support (classifier : CueClassifier) (message : String) (errorType : ErrorType) : Cue.Support :=
  ⟨errorType, (classifier.cuesFor errorType).filter (·.fires message)⟩

section Fitted

variable [Pattern.Dialect] (classifier : CueClassifier) {set : TrainingSet} (valid : set.IsValid)

include valid

theorem table_fit : (classifier.fit set).1.table = set.errorTypes.eraseDups.map fun errorType =>
    (errorType, Cue.learnFrom (set.messagesOf errorType)) := by
  rw [classifier.fit_of_ok valid.check_eq]
  show Cue.learn set = _
  unfold Cue.learn
  rw [TrainingSet.groups_eq, valid.hasEvenColumns.samples_errorTypes, List.map_map]
  rfl

theorem cuesFor_fit {errorType : ErrorType} (listed : errorType ∈ set.errorTypes) :
    (classifier.fit set).1.cuesFor errorType = Cue.learnFrom (set.messagesOf errorType) := by
  unfold cuesFor
  rw [classifier.table_fit valid, find?_map_key _ _ (List.mem_eraseDups.mpr listed)]
  rfl

theorem supports_fit (message : String) :
    Cue.supports (classifier.fit set).1.table message =
      set.errorTypes.eraseDups.map ((classifier.fit set).1.support message) := by
  unfold Cue.supports
  rw [classifier.table_fit valid, List.map_map]
  refine List.map_congr_left fun errorType listed => ?_
  unfold support
  rw [classifier.cuesFor_fit valid (List.mem_eraseDups.mp listed)]
  rfl

theorem confident_support (message : String) {errorType : ErrorType}
    (listed : errorType ∈ set.errorTypes) :
    ∀ cue ∈ ((classifier.fit set).1.support message errorType).cues,
      IsConfidence cue.confidence := by
  intro cue fires
  have learned : cue ∈ (classifier.fit set).1.cuesFor errorType := List.mem_of_mem_filter fires
  rw [classifier.cuesFor_fit valid listed] at learned
  have fewer := (set.length_messagesOf_le errorType).trans_lt valid.countable
  obtain ⟨source, confidence, rfl, isConfidence⟩ := Cue.eq_ofSource_of_mem_learnFrom fewer learned
  exact isConfidence

theorem nodup_sources_support (message : String) {errorType : ErrorType}
    (listed : errorType ∈ set.errorTypes) :
    (((classifier.fit set).1.support message errorType).cues.map (·.source)).Nodup := by
  unfold support
  rw [classifier.cuesFor_fit valid listed]
  exact (Cue.nodup_sources _).sublist (List.filter_sublist.map _)

theorem mem_supports_fit {message : String} {held : Cue.Support} :
    held ∈ Cue.supports (classifier.fit set).1.table message ↔
      ∃ errorType ∈ set.errorTypes, (classifier.fit set).1.support message errorType = held := by
  rw [classifier.supports_fit valid, List.mem_map]
  simp only [List.mem_eraseDups]

theorem total_support_pos_iff (message : String) {errorType : ErrorType}
    (listed : errorType ∈ set.errorTypes) :
    0 < ((classifier.fit set).1.support message errorType).total ↔
      ((classifier.fit set).1.support message errorType).cues ≠ [] :=
  Cue.total_pos_iff (classifier.confident_support valid message listed)

theorem isSized_total_support (message : String) {errorType : ErrorType}
    (listed : errorType ∈ set.errorTypes) :
    IsSized ((classifier.fit set).1.support message errorType).total :=
  Cue.isSized_total (classifier.confident_support valid message listed)

/-- The best support is that of the first type with the greatest sum. -/
theorem best_fit {message : String} {held : Cue.Support}
    (found : (Cue.supports (classifier.fit set).1.table message).foldl Cue.better none = some held) :
    let support := (classifier.fit set).1.support message
    ∃ errorType ∈ set.errorTypes, support errorType = held ∧
      ∀ other ∈ set.errorTypes, (support other).total ≤ held.total ∧
        (set.errorTypes.idxOf other < set.errorTypes.idxOf errorType →
          (support other).total < held.total) := by
  intro support
  have sized : ∀ other ∈ Cue.supports (classifier.fit set).1.table message, IsSized other.total := by
    intro other member
    obtain ⟨errorType, listed, rfl⟩ := (classifier.mem_supports_fit valid).mp member
    exact classifier.isSized_total_support valid message listed
  have isBest := Cue.isBest_foldl sized
  rw [found] at isBest
  obtain ⟨early, late, split, below⟩ := isBest.first held rfl
  rw [classifier.supports_fit valid] at split
  obtain ⟨earlier, rest, types, rfl, behind⟩ := List.map_eq_append_iff.mp split
  obtain ⟨errorType, later, rfl, rfl, -⟩ := List.map_eq_cons_iff.mp behind
  have listed (other : ErrorType) : other ∈ set.errorTypes ↔ other ∈ earlier ++ errorType :: later := by
    rw [← types, List.mem_eraseDups]
  refine ⟨errorType, (listed errorType).mpr (List.mem_append_right _ List.mem_cons_self), rfl,
    fun other known => ⟨?_, fun before => ?_⟩⟩
  · exact isBest.greatest _ ((classifier.mem_supports_fit valid).mpr ⟨other, known, rfl⟩)
  · -- The list has the types in the order of their first samples, so that none behind the best one is
    -- seen before it.
    have ordered := pairwise_eraseDups set.errorTypes
    rw [types, List.pairwise_append, List.pairwise_cons] at ordered
    obtain ⟨-, ⟨after, -⟩, -⟩ := ordered
    obtain first | own | last := by simpa using (listed other).mp known
    · exact below _ (List.mem_map_of_mem first)
    · exact absurd before (own ▸ lt_irrefl _)
    · exact absurd before (after other last).not_gt

/-- The probabilities are those of the types for which a cue fires. -/
theorem mem_probabilities_fit {message : String} {errorType : ErrorType} {value : Float} :
    (errorType, value) ∈ Cue.probabilities (classifier.fit set).1.table message ↔
      errorType ∈ set.errorTypes ∧
        ((classifier.fit set).1.support message errorType).cues ≠ [] ∧
          value = Cue.capped ((classifier.fit set).1.support message errorType).total := by
  unfold Cue.probabilities
  simp only [List.mem_map, List.mem_filter, decide_eq_true_eq]
  constructor
  · rintro ⟨held, ⟨member, positive⟩, entry⟩
    obtain ⟨errorType, listed, rfl⟩ := (classifier.mem_supports_fit valid).mp member
    obtain ⟨rfl, rfl⟩ := Prod.mk.inj entry
    exact ⟨listed, (classifier.total_support_pos_iff valid message listed).mp positive, rfl⟩
  · rintro ⟨listed, fires, rfl⟩
    refine ⟨_, ⟨(classifier.mem_supports_fit valid).mpr ⟨errorType, listed, rfl⟩, ?_⟩, rfl⟩
    exact (classifier.total_support_pos_iff valid message listed).mpr fires

theorem nodup_keys_fit (message : String) :
    ((Cue.probabilities (classifier.fit set).1.table message).map (·.1)).Nodup := by
  unfold Cue.probabilities
  rw [classifier.supports_fit valid, List.filter_map, List.map_map, List.map_map]
  -- The key of a type's support is the type itself.
  exact ((Table.nodup_eraseDups set.errorTypes).filter _).map fun _ _ same => same

end Fitted

/-- Verdict and probabilities agree. A classifier that has been fitted to a valid set gives both for
every message. There is a probability for each type in the data of which a learned cue fires, and for
no other: the sum of the confidences of these cues, in the order in which they were learned, or one
when the sum is greater. Without any probability the type is unknown, and there is neither confidence
nor evidence. Else the type of the verdict is the first one in the data with the greatest whole sum,
its probability is the confidence of the verdict and the greatest of all, and the evidence consists of
the cues for the type that fire, in their order and each of them once. -/
theorem verdict_agrees_with_probabilities [Pattern.Dialect] (classifier : CueClassifier) {set : TrainingSet}
    (valid : set.IsValid) (message : String) :
    let fitted := (classifier.fit set).1
    let support := fitted.support message
    ∃ verdict probabilities, fitted.predict message = .ok verdict ∧
      fitted.probabilities message = .ok probabilities ∧
      (probabilities.map (·.1)).Nodup ∧
      (∀ errorType value, (errorType, value) ∈ probabilities ↔
        errorType ∈ set.errorTypes ∧ (support errorType).cues ≠ [] ∧
          value = if 1 < (support errorType).total then 1 else (support errorType).total) ∧
      (probabilities = [] → verdict.errorType = .unknownError ∧ verdict.confidence = 0 ∧
        verdict.matched = [] ∧ verdict.path = []) ∧
      (probabilities ≠ [] →
        (verdict.errorType, verdict.confidence) ∈ probabilities ∧
          (∀ errorType value, (errorType, value) ∈ probabilities → value ≤ verdict.confidence) ∧
          (∀ errorType ∈ set.errorTypes,
            (support errorType).total ≤ (support verdict.errorType).total ∧
              (set.errorTypes.idxOf errorType < set.errorTypes.idxOf verdict.errorType →
                (support errorType).total < (support verdict.errorType).total)) ∧
          verdict.matched = (support verdict.errorType).cues.map (·.source) ∧
          verdict.path = (support verdict.errorType).cues.map Cue.evidence ∧
          verdict.matched.Nodup) := by
  intro fitted support
  have isFitted : fitted.isFitted = true :=
    congrArg (·.1.isFitted) (classifier.fit_of_ok valid.check_eq)
  refine ⟨Cue.judge fitted.table message, Cue.probabilities fitted.table message, if_pos isFitted,
    if_pos isFitted, classifier.nodup_keys_fit valid message,
    fun _ _ => classifier.mem_probabilities_fit valid, ?_⟩
  unfold Cue.judge
  cases found : (Cue.supports fitted.table message).foldl Cue.better none with
  | none =>
    obtain ⟨-, weak⟩ := (Cue.foldl_better_eq_none_iff _ none).mp found
    refine ⟨fun _ => ⟨rfl, rfl, rfl, rfl⟩, fun some => absurd ?_ some⟩
    refine List.map_eq_nil_iff.mpr (List.filter_eq_nil_iff.mpr fun held member positive => ?_)
    exact weak held member (of_decide_eq_true positive)
  | some held =>
    obtain ⟨errorType, listed, rfl, greatest⟩ := classifier.best_fit valid found
    have sized {other : ErrorType} (known : other ∈ set.errorTypes) : IsSized (support other).total :=
      classifier.isSized_total_support valid message known
    have fires : (support errorType).cues ≠ [] :=
      (classifier.total_support_pos_iff valid message listed).mp
        (Cue.isPositive_foldl _ Cue.isPositive_none _ found)
    have own : (errorType, Cue.capped (support errorType).total) ∈
        Cue.probabilities fitted.table message :=
      (classifier.mem_probabilities_fit valid).mpr ⟨listed, fires, rfl⟩
    refine ⟨fun none => absurd (none ▸ own) List.not_mem_nil, fun _ =>
      ⟨own, fun other value member => ?_, greatest, rfl, rfl, ?_⟩⟩
    · obtain ⟨known, -, rfl⟩ := (classifier.mem_probabilities_fit valid).mp member
      exact Cue.capped_le_capped (sized known) (sized listed) (greatest other known).1
    · exact classifier.nodup_sources_support valid message listed

/-- The case of two types with the same probability: the later one has the greater whole sum. -/
theorem verdict_agrees_with_probabilities_of_two_types :
    let set : TrainingSet := ⟨["cable cut", "cable cut twice"], [.networkError, .timeoutError], [], []⟩
    let fitted := (({ name := "own" } : CueClassifier).fit set).1
    ∃ verdict probabilities, fitted.predict "Cable cut twice" = .ok verdict ∧
      fitted.probabilities "Cable cut twice" = .ok probabilities ∧
      (.networkError, 1) ∈ probabilities ∧ (.timeoutError, 1) ∈ probabilities ∧
      verdict.errorType = .timeoutError ∧
      verdict.matched = ["cable cut", "cable cut twice", "cut twice"] := by
  intro set fitted
  have valid : set.IsValid := ⟨rfl, by decide⟩
  obtain ⟨verdict, probabilities, predicted, given, _, keys, _, agree⟩ :=
    verdict_agrees_with_probabilities { name := "own" } valid "Cable cut twice"
  have network : (.networkError, 1) ∈ probabilities :=
    (keys _ _).mpr ⟨by decide, by decide +kernel, by decide +kernel⟩
  have timeout : (.timeoutError, 1) ∈ probabilities :=
    (keys _ _).mpr ⟨by decide, by decide +kernel, by decide +kernel⟩
  obtain ⟨own, _, greatest, matched, _⟩ := agree (List.ne_nil_of_mem network)
  have later : verdict.errorType = .timeoutError := by
    obtain first | second := List.mem_pair.mp ((keys _ _).mp own).1
    · have below := (greatest .timeoutError (by decide)).1
      rw [first] at below
      exact absurd below (by decide +kernel)
    · exact second
  refine ⟨verdict, probabilities, predicted, given, network, timeout, later, ?_⟩
  rw [matched, later]
  decide +kernel

end CueClassifier

end Triage
