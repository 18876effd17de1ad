/-
This file proves that there is one verdict about a training set, wherever it is asked for. A set is
refused by the reader of JSON, by every fit and by every score for the same reason and with the same
message, or it is refused by none of them; and what is accepted is used to the last sample. A
classifier that has been fitted answers to every message, so that there is no other reason for a
score to fail.
-/

import Triage.Proofs.Learning.Counts
import Triage.Proofs.Learning.Refit

namespace Triage

namespace TrainingSet

/-- The columns have an entry for every message each; those that may be missing may be empty. -/
structure HasEvenColumns (set : TrainingSet) : Prop where
  errorTypes : set.errorTypes.length = set.messages.length
  contexts : set.contexts = [] ∨ set.contexts.length = set.messages.length
  labels : set.labels = [] ∨ set.labels.length = set.messages.length

theorem isAstray_eq_false_iff {Item : Type} (column : List Item) (length : Nat) :
    isAstray column.length length = false ↔ column = [] ∨ column.length = length := by
  unfold isAstray
  rw [Bool.and_eq_false_iff, bne_eq_false_iff_eq, bne_eq_false_iff_eq, List.length_eq_zero_iff]

theorem misalignment?_eq_none_iff (set : TrainingSet) :
    set.misalignment? = none ↔ set.HasEvenColumns := by
  unfold misalignment?
  simp only
  split
  · rename_i uneven
    exact iff_of_false nofun fun even => uneven even.errorTypes
  · rename_i errorTypes
    split
    · rename_i astray
      refine iff_of_false nofun fun even => ?_
      rw [(isAstray_eq_false_iff _ _).mpr even.contexts] at astray
      exact Bool.noConfusion astray
    · rename_i contexts
      split
      · rename_i astray
        refine iff_of_false nofun fun even => ?_
        rw [(isAstray_eq_false_iff _ _).mpr even.labels] at astray
        exact Bool.noConfusion astray
      · rename_i labels
        refine iff_of_true rfl ⟨Decidable.not_not.mp errorTypes, ?_, ?_⟩
        · exact (isAstray_eq_false_iff _ _).mp (Bool.eq_false_iff.mpr contexts)
        · exact (isAstray_eq_false_iff _ _).mp (Bool.eq_false_iff.mpr labels)

theorem check_eq_ok_iff (set : TrainingSet) : set.check = .ok () ↔ set.HasEvenColumns := by
  rw [← misalignment?_eq_none_iff]
  unfold check
  cases set.misalignment? with
  | none => exact iff_of_true rfl rfl
  | some _ => exact iff_of_false nofun nofun

theorem check_eq_error_iff (set : TrainingSet) (fault : Fault) :
    set.check = .error fault ↔ ∃ misalignment, set.misalignment? = some misalignment ∧
      fault = .invalidTraining misalignment.message := by
  unfold check
  cases set.misalignment? with
  | none => exact iff_of_false nofun fun ⟨_, absent, _⟩ => nomatch absent
  | some found =>
    simp only [Except.error.injEq, Option.some.injEq, exists_eq_left']
    exact eq_comm

theorem ofJson_of_run? {set : TrainingSet} {text : String}
    (reads : reading.run? text = some set) : ofJson text = set.check.map fun () => set := by
  unfold ofJson
  rw [reads]

/-! ### No sample is lost -/

theorem HasEvenColumns.samples_messages {set : TrainingSet} (even : set.HasEvenColumns) :
    set.samples.map (·.1) = set.messages :=
  List.map_fst_zip (Nat.le_of_eq even.errorTypes.symm)

theorem HasEvenColumns.samples_errorTypes {set : TrainingSet} (even : set.HasEvenColumns) :
    set.samples.map (·.2) = set.errorTypes :=
  List.map_snd_zip (Nat.le_of_eq even.errorTypes)

/-- The samples that groups of messages are made of. -/
def samplesOf (groups : List (ErrorType × List String)) : List (String × ErrorType) :=
  groups.flatMap fun group => group.2.map fun message => (message, group.1)

theorem samplesOf_addToGroup (message : String) (errorType : ErrorType)
    (groups : List (ErrorType × List String)) :
    (samplesOf (addToGroup message errorType groups)).Perm
      (samplesOf groups ++ [(message, errorType)]) := by
  unfold samplesOf
  induction groups with
  | nil => exact .refl _
  | cons group rest inductionHypothesis =>
    obtain ⟨other, messages⟩ := group
    rw [addToGroup]
    split
    · rename_i same
      subst same
      rw [List.flatMap_cons, List.flatMap_cons, List.map_append, List.append_assoc,
        List.append_assoc]
      exact List.perm_append_comm.append_left _
    · rw [List.flatMap_cons, List.flatMap_cons, List.append_assoc]
      exact inductionHypothesis.append_left _

/-- What a fit goes through are the samples. -/
theorem samplesOf_groups (set : TrainingSet) : (samplesOf set.groups).Perm set.samples := by
  unfold groups
  induction set.samples using List.reverseRecOn with
  | nil => exact .refl _
  | append_singleton early last inductionHypothesis =>
    rw [List.foldl_append]
    exact (samplesOf_addToGroup last.1 last.2 _).trans (inductionHypothesis.append_right _)

end TrainingSet

namespace Classifier

/-! ### Scores -/

/-- A classifier that has been fitted answers to every message. -/
theorem answers_of_isFitted [Pattern.Dialect] {new : Classifier} (isNew : new.IsNew) (uses : List Use)
    (fitted : (new.afterAll uses).isFitted = true) (message : String) :
    ∃ verdict, (new.afterAll uses).predict message = .ok verdict := by
  have same := afterAll_eq isNew uses
  cases last : lastAligned? uses with
  | none =>
    rw [last] at same
    rw [same, ← isNew.blank_eq, isFitted_blank] at fitted
    exact Bool.noConfusion fitted
  | some set =>
    rw [last] at same
    obtain ⟨use, _, own⟩ := List.mem_filterMap.mp (List.mem_of_getLast? last)
    rw [show new.afterAll uses = (new.fit set).1 from same]
    exact (new.answers_fit (set.check_of_isAligned (isAligned_of_alignedSet? own)) message).1

/-- Is the verdict about a sample right? -/
def isRight (classifier : Classifier) (sample : String × ErrorType) : Bool :=
  (classifier.predict sample.1).toOption.any (·.errorType = sample.2)

theorem countRight_eq {classifier : Classifier}
    (answers : ∀ message, ∃ verdict, classifier.predict message = .ok verdict)
    (samples : List (String × ErrorType)) :
    classifier.countRight samples = .ok (samples.countP classifier.isRight) := by
  have counted : ∀ start : Nat, samples.foldlM (fun count sample => do
      let verdict ← classifier.predict sample.1
      return if verdict.errorType = sample.2 then count + 1 else count) start =
        (.ok (start + samples.countP classifier.isRight) : Except Fault Nat) := by
    induction samples with
    | nil => exact fun _ => rfl
    | cons sample rest inductionHypothesis =>
      intro start
      obtain ⟨verdict, predicted⟩ := answers sample.1
      have right : classifier.isRight sample = decide (verdict.errorType = sample.2) := by
        unfold isRight
        rw [predicted]
        rfl
      rw [List.foldlM_cons, predicted, List.countP_cons, right]
      show rest.foldlM _ (if verdict.errorType = sample.2 then start + 1 else start) = _
      rw [inductionHypothesis]
      refine congrArg _ ?_
      simp only [decide_eq_true_eq]
      split <;> omega
  have all := counted 0
  rwa [Nat.zero_add] at all

/-- The score of a set, given the number of samples about which the verdict is right. -/
def ratio (set : TrainingSet) (right : Nat) : Float :=
  if set.messages.isEmpty then 0 else Float.ofNat right / Float.ofNat set.messages.length

theorem score_eq {classifier : Classifier} (fitted : classifier.isFitted = true)
    (answers : ∀ message, ∃ verdict, classifier.predict message = .ok verdict)
    (set : TrainingSet) :
    classifier.score set =
      set.check.map fun () => ratio set (set.samples.countP classifier.isRight) := by
  unfold score ratio
  rw [fitted, countRight_eq answers]
  cases set.check with
  | error _ => rfl
  | ok _ => cases set.messages.isEmpty <;> rfl

/-! ### One verdict -/

/-- There is one verdict about a set. It is accepted just when its columns are even, and refused
with a message that says which of them is not. The same is said by the reader of any JSON text of
the set, by the fit of every classifier in any state, and by the score of every classifier that has
been fitted, which fails for no other reason. When a set is accepted, the samples are all messages
with all types, each in its place; a fit goes through all of them, and a score counts among all of
them. -/
theorem one_verdict_about_a_set [Pattern.Dialect] (set : TrainingSet) :
    ((set.check = .ok () ↔ set.HasEvenColumns) ∧
      (set.check = .ok () ∨ ∃ misalignment, set.misalignment? = some misalignment ∧
        set.check = .error (.invalidTraining misalignment.message))) ∧
    (∀ text, TrainingSet.reading.run? text = some set →
      TrainingSet.ofJson text = set.check.map fun () => set) ∧
    (∀ classifier : Classifier, (classifier.fit set).2 = set.check) ∧
    (∀ new : Classifier, new.IsNew → ∀ uses, (new.afterAll uses).isFitted = true →
      (new.afterAll uses).score set =
        set.check.map fun () => ratio set (set.samples.countP (new.afterAll uses).isRight)) ∧
    (set.check = .ok () →
      set.samples.map (·.1) = set.messages ∧ set.samples.map (·.2) = set.errorTypes ∧
        (TrainingSet.samplesOf set.groups).Perm set.samples) := by
  refine ⟨⟨set.check_eq_ok_iff, ?_⟩, fun text reads => TrainingSet.ofJson_of_run? reads,
    fun classifier => classifier.fit_snd set, fun new isNew uses fitted => ?_, fun checked => ?_⟩
  · cases outcome : set.check with
    | ok _ => exact Or.inl rfl
    | error fault =>
      obtain ⟨misalignment, found, rfl⟩ := (set.check_eq_error_iff fault).mp outcome
      exact Or.inr ⟨misalignment, found, rfl⟩
  · exact score_eq fitted (answers_of_isFitted isNew uses fitted) set
  · have even := set.check_eq_ok_iff.mp checked
    exact ⟨even.samples_messages, even.samples_errorTypes, set.samplesOf_groups⟩

/-- The case of a set with a message too many, read from JSON, fitted to and scored. -/
theorem one_verdict_about_an_uneven_set :
    let good : TrainingSet := ⟨["Connection timed out"], [.timeoutError], [], []⟩
    let uneven : TrainingSet := ⟨["disk full", "no route"], [.diskSpaceError], [], []⟩
    let text := r#"{"error_messages":["disk full","no route"],"error_types":["disk_space_error"]}"#
    let fault : Fault := .invalidTraining "2 messages but 1 error types"
    let fitted := (create .blend none).afterAll [.fit good]
    TrainingSet.reading.run? text = some uneven ∧ TrainingSet.ofJson text = .error fault ∧
      (fitted.fit uneven).2 = .error fault ∧ fitted.score uneven = .error fault ∧
      good.check = .ok () ∧ good.samples.map (·.1) = good.messages := by
  intro good uneven text fault fitted
  have columns : (TrainingSet.reading.run? text).map (fun set =>
      (set.messages, set.errorTypes, set.contexts.length, set.labels)) =
        some (uneven.messages, uneven.errorTypes, 0, []) := by decide +kernel
  have reads : TrainingSet.reading.run? text = some uneven := by
    obtain ⟨⟨messages, errorTypes, contexts, labels⟩, found, same⟩ :=
      Option.map_eq_some_iff.mp columns
    simp only [Prod.mk.injEq, List.length_eq_zero_iff] at same
    obtain ⟨rfl, rfl, rfl, rfl⟩ := same
    exact found
  have refused : uneven.check = .error fault :=
    (uneven.check_eq_error_iff fault).mpr ⟨.errorTypes 2 1, by decide,
      congrArg Fault.invalidTraining (by decide +kernel)⟩
  obtain ⟨_, fromJson, fits, scores, _⟩ := one_verdict_about_a_set uneven
  obtain ⟨_, _, _, _, complete⟩ := one_verdict_about_a_set good
  refine ⟨reads, ?_, ?_, ?_, rfl, (complete rfl).1⟩
  · rw [fromJson text reads, refused]
    rfl
  · rw [fits fitted, refused]
  · rw [scores (create .blend none) (.create .blend none) [.fit good] rfl, refused]
    rfl

end Classifier

end Triage
