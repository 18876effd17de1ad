/-
This file proves that a score is a count and nothing else. The loop over a test set stops for no sample once
the classifier has been fitted, so that what it adds up is the number of samples about which the verdict is
right, its hits. Hits are counted sample by sample: it does not matter in which order the samples stand or
what else is known about them, and the hits of two sets that are put together are added up. Since a score
leaves the classifier as it is, it can be asked for at any time without changing what comes later.
-/

import Triage.Proofs.Learning.Alignment
import Triage.Proofs.Number.Comparison

namespace Triage

open Number (HasSize rounded)

/-! ### Ratios of counts -/

/-- The ratio of two counts that doubles can hold is rounded only once. -/
theorem Number.hasSize_ratio {count total : Nat} (some : 0 < total) (within : count ≤ total)
    (small : total < 2 ^ 53) :
    HasSize (Float.ofNat count / Float.ofNat total) (rounded (count / total)) := by
  have part := hasSize_ofNat count
  have whole := hasSize_ofNat total
  rw [rounded_of_isDouble (isDouble_natCast (within.trans_lt small))] at part
  rw [rounded_of_isDouble (isDouble_natCast small)] at whole
  exact part.div whole (Nat.cast_ne_zero.mpr some.ne')

theorem TrainingSet.HasEvenColumns.length_eq_of_perm {set other : TrainingSet}
    (even : set.HasEvenColumns) (otherEven : other.HasEvenColumns)
    (same : other.samples.Perm set.samples) : other.messages.length = set.messages.length := by
  rw [← even.samples_messages, ← otherEven.samples_messages, List.length_map, List.length_map,
    same.length_eq]

namespace Classifier

/-! ### Hits -/

theorem isRight_iff (classifier : Classifier) (message : String) (errorType : ErrorType) :
    classifier.isRight (message, errorType) = true ↔
      ∃ verdict, classifier.predict message = .ok verdict ∧ verdict.errorType = errorType := by
  unfold isRight
  cases classifier.predict message with
  | error fault => exact iff_of_false Bool.false_ne_true nofun
  | ok verdict => exact decide_eq_true_iff.trans ⟨fun same => ⟨verdict, rfl, same⟩,
      fun ⟨_, predicted, same⟩ => Except.ok.inj predicted ▸ same⟩

/-- The number of samples of a set about which the verdict is right. -/
def hits (classifier : Classifier) (set : TrainingSet) : Nat :=
  set.samples.countP classifier.isRight

variable (classifier : Classifier)

theorem hits_le (set : TrainingSet) : classifier.hits set ≤ set.messages.length :=
  List.countP_le_length.trans ((List.length_zip).trans_le (min_le_left _ _))

theorem hits_of_perm {set other : TrainingSet} (same : other.samples.Perm set.samples) :
    classifier.hits other = classifier.hits set :=
  same.countP_eq classifier.isRight

/-- Put together, two sets have the samples of the one before those of the other. -/
theorem hits_joined {first second joined : TrainingSet} (even : first.HasEvenColumns)
    (messages : joined.messages = first.messages ++ second.messages)
    (errorTypes : joined.errorTypes = first.errorTypes ++ second.errorTypes) :
    classifier.hits joined = classifier.hits first + classifier.hits second := by
  have samples : joined.samples = first.samples ++ second.samples := by
    unfold TrainingSet.samples
    rw [messages, errorTypes, List.zip_append even.errorTypes.symm]
  unfold hits
  rw [samples, List.countP_append]

/-! ### Scores -/

variable {classifier}

theorem score_of_even (fitted : classifier.isFitted = true)
    (answers : ∀ message, ∃ verdict, classifier.predict message = .ok verdict) {set : TrainingSet}
    (even : set.HasEvenColumns) (some : 0 < set.messages.length) :
    classifier.score set =
      .ok (Float.ofNat (classifier.hits set) / Float.ofNat set.messages.length) := by
  have filled : ¬ set.messages.isEmpty = true := by
    rw [List.isEmpty_iff, ← List.length_eq_zero_iff]
    exact some.ne'
  rw [score_eq fitted answers, set.check_eq_ok_iff.mpr even]
  exact congrArg Except.ok (if_neg filled)

theorem afterAll_score [Pattern.Dialect] (new : Classifier) (uses later : List Use) (set : TrainingSet) :
    new.afterAll (uses ++ .score set :: later) = new.afterAll (uses ++ later) := by
  unfold afterAll
  rw [List.foldl_append, List.foldl_cons, List.foldl_append]
  rfl

/-- A score is a count of hits. After any uses that have fitted a classifier, the score of an even set with
samples in it is the ratio of its hits to its samples, where a hit is a sample whose type is the one of the
verdict about its message; below `2 ^ 53` samples it is the double next to this fraction. All that counts
are the samples: the score of any other even set that has the same ones, in whatever order and with whatever
contexts and labels, is the same, and the hits of two sets that are put together are added up. Whatever set
a classifier is scored by, it is afterwards, and after all later uses, what it is without the score. -/
theorem score_counts_hits [Pattern.Dialect] {new : Classifier} (isNew : new.IsNew) (uses : List Use)
    (fitted : (new.afterAll uses).isFitted = true) {set : TrainingSet} (even : set.HasEvenColumns)
    (some : 0 < set.messages.length) :
    let current := new.afterAll uses
    let ratio (count total : Nat) : Float := Float.ofNat count / Float.ofNat total
    (current.score set = .ok (ratio (current.hits set) set.messages.length) ∧
        current.hits set ≤ set.messages.length ∧
        (∀ message errorType, current.isRight (message, errorType) = true ↔
          ∃ verdict, current.predict message = .ok verdict ∧ verdict.errorType = errorType) ∧
        (set.messages.length < 2 ^ 53 →
          HasSize (ratio (current.hits set) set.messages.length)
            (rounded (current.hits set / set.messages.length)))) ∧
      (∀ other : TrainingSet, other.HasEvenColumns → other.samples.Perm set.samples →
        current.score other = current.score set) ∧
      (∀ second joined : TrainingSet, joined.HasEvenColumns →
        joined.messages = set.messages ++ second.messages →
        joined.errorTypes = set.errorTypes ++ second.errorTypes →
        current.hits joined = current.hits set + current.hits second ∧
          current.score joined = .ok (ratio (current.hits set + current.hits second)
            (set.messages.length + second.messages.length))) ∧
      ∀ tested later, new.afterAll (uses ++ .score tested :: later) = new.afterAll (uses ++ later) := by
  intro current ratio
  have scored {tested : TrainingSet} := @score_of_even current fitted
    (answers_of_isFitted isNew uses fitted) tested
  have bounded := current.hits_le set
  refine ⟨⟨scored even some, bounded, current.isRight_iff, Number.hasSize_ratio some bounded⟩,
    fun other otherEven same => ?_, fun second joined joinedEven messages errorTypes => ?_,
    fun tested later => afterAll_score new uses later tested⟩
  · have length := even.length_eq_of_perm otherEven same
    rw [scored otherEven (length ▸ some), scored even some, length, current.hits_of_perm same]
  · have hits := current.hits_joined even messages errorTypes
    have length : joined.messages.length = set.messages.length + second.messages.length := by
      rw [messages, List.length_append]
    rw [scored joinedEven (length ▸ Nat.add_pos_left some _), hits, length]
    exact ⟨rfl, rfl⟩

/-- The case of a classifier that learns cues and is right about two samples of three, in either order, with and
without labels, and of three samples of four when one is added. -/
theorem score_counts_hits_of_three :
    let learned : TrainingSet := ⟨["link lost", "frame late"], [.networkError, .timeoutError], [], []⟩
    let set : TrainingSet := ⟨["link lost", "frame late", "so what"],
      [.networkError, .timeoutError, .sslError], [], []⟩
    let reordered : TrainingSet := ⟨["so what", "frame late", "link lost"],
      [.sslError, .timeoutError, .networkError], [], ["odd", "late", "lost"]⟩
    let added : TrainingSet := ⟨["a link lost"], [.networkError], [], []⟩
    let joined : TrainingSet :=
      ⟨set.messages ++ added.messages, set.errorTypes ++ added.errorTypes, [], []⟩
    let current := (create .cues none).afterAll [.fit learned]
    current.score set = .ok (Float.ofNat 2 / Float.ofNat 3) ∧
      HasSize (Float.ofNat 2 / Float.ofNat 3) (rounded (2 / 3)) ∧
      current.score reordered = .ok (Float.ofNat 2 / Float.ofNat 3) ∧
      current.score joined = .ok (Float.ofNat 3 / Float.ofNat 4) ∧
      (create .cues none).afterAll [.fit learned, .score joined] = current := by
  intro learned set reordered added joined current
  have two : current.hits set = 2 := by decide +kernel
  have one : current.hits added = 1 := by decide +kernel
  obtain ⟨⟨scored, -, -, size⟩, arranged, together, unchanged⟩ :=
    score_counts_hits (.create .cues none) [.fit learned] rfl
      (⟨rfl, .inl rfl, .inl rfl⟩ : set.HasEvenColumns) (by decide)
  rw [show ((create .cues none).afterAll [.fit learned]).hits set = 2 from two] at scored size together
  rw [show ((create .cues none).afterAll [.fit learned]).score set = _ from scored] at arranged
  obtain ⟨-, joinedScore⟩ := together added joined ⟨rfl, .inl rfl, .inl rfl⟩ rfl rfl
  rw [show ((create .cues none).afterAll [.fit learned]).hits added = 1 from one] at joinedScore
  exact ⟨scored, size (by decide), arranged reordered ⟨rfl, .inl rfl, .inr rfl⟩ (by decide), joinedScore,
    unchanged joined []⟩

end Classifier

end Triage
