/-
This file proves that a classifier forgets. Whatever it has been used for, it is what a new
classifier comes to that is fitted once, to the set of the last fit that succeeded: no rule, no
compiled pattern and no cue is left over from earlier sets, and of a classifier that blends never
only one part has been fitted.

A classifier is compared with its blank, which has its name and its library and has learned nothing.
A fit starts from the blank, and no use changes the blank, so that the last fit is all that counts.
-/

import Mathlib.Data.List.Induction
import Triage.Learning.Classifier
import Triage.Pattern.Compiled

namespace Triage

/-- Do the columns belong together? -/
def TrainingSet.isAligned (set : TrainingSet) : Bool :=
  set.misalignment?.isNone

/-- The check of a set passes or names what is wrong. -/
theorem TrainingSet.check_cases (set : TrainingSet) :
    (set.isAligned = true ∧ set.check = .ok ()) ∨
      (set.isAligned = false ∧ ∃ fault, set.check = .error fault) := by
  unfold isAligned check
  cases set.misalignment? with
  | none => exact Or.inl ⟨rfl, rfl⟩
  | some found => exact Or.inr ⟨rfl, .invalidTraining found.message, rfl⟩

theorem TrainingSet.check_of_isAligned (set : TrainingSet) (aligned : set.isAligned = true) :
    set.check = .ok () := by
  rcases set.check_cases with ⟨_, checked⟩ | ⟨misaligned, _⟩
  · exact checked
  · exact absurd (aligned.symm.trans misaligned) Bool.noConfusion

/-! ### One fit of one part -/

namespace RuleClassifier

/-- A classifier with the same name and the same library that has learned nothing. -/
def blank (classifier : RuleClassifier) : RuleClassifier :=
  { name := classifier.name, library := classifier.library }

variable [Pattern.Dialect] (classifier : RuleClassifier) {set : TrainingSet}

theorem fit_of_ok (checked : set.check = .ok ()) :
    classifier.fit set = ({ classifier.buildRules set with isFitted := true }, .ok ()) := by
  simp only [fit, checked]

theorem fit_of_error {fault : Fault} (checked : set.check = .error fault) :
    classifier.fit set = (classifier, .error fault) := by
  simp only [fit, checked]

/-- What has been learned before leaves no trace: it is cleared before anything is added. -/
theorem fit_blank (checked : set.check = .ok ()) : classifier.fit set = classifier.blank.fit set := by
  rw [fit_of_ok _ checked, fit_of_ok _ checked]
  rfl

end RuleClassifier

namespace CueClassifier

/-- A classifier with the same name that has learned nothing. -/
def blank (classifier : CueClassifier) : CueClassifier :=
  { name := classifier.name }

variable [Pattern.Dialect] (classifier : CueClassifier) {set : TrainingSet}

theorem fit_of_ok (checked : set.check = .ok ()) :
    classifier.fit set =
      ({ classifier with table := Cue.learn set, isFitted := true }, .ok ()) := by
  simp only [fit, checked]

theorem fit_of_error {fault : Fault} (checked : set.check = .error fault) :
    classifier.fit set = (classifier, .error fault) := by
  simp only [fit, checked]

theorem fit_blank (checked : set.check = .ok ()) : classifier.fit set = classifier.blank.fit set := by
  rw [fit_of_ok _ checked, fit_of_ok _ checked]
  rfl

end CueClassifier

/-! ### One fit of both parts -/

namespace BlendClassifier

/-- A classifier with the same name, made of blanks. -/
def blank (classifier : BlendClassifier) : BlendClassifier where
  name := classifier.name
  ruleClassifier := classifier.ruleClassifier.blank
  cueClassifier := classifier.cueClassifier.blank

variable [Pattern.Dialect] (classifier : BlendClassifier) {set : TrainingSet}

/-- The second part cannot fail where the first one has succeeded. -/
theorem fit_of_ok (checked : set.check = .ok ()) :
    classifier.fit set =
      ({ classifier with
          ruleClassifier := (classifier.ruleClassifier.fit set).1
          cueClassifier := (classifier.cueClassifier.fit set).1
          isFitted := true }, .ok ()) := by
  simp only [fit, RuleClassifier.fit_of_ok _ checked, CueClassifier.fit_of_ok _ checked]

theorem fit_of_error {fault : Fault} (checked : set.check = .error fault) :
    classifier.fit set = (classifier, .error fault) := by
  simp only [fit, RuleClassifier.fit_of_error _ checked]

theorem fit_blank (checked : set.check = .ok ()) : classifier.fit set = classifier.blank.fit set := by
  rw [fit_of_ok _ checked, fit_of_ok _ checked, classifier.ruleClassifier.fit_blank checked,
    classifier.cueClassifier.fit_blank checked]
  rfl

end BlendClassifier

/-! ### One fit -/

namespace Classifier

/-- A classifier of the same name and the same library that has learned nothing. -/
def blank : Classifier → Classifier
  | rules classifier => .rules classifier.blank
  | cues classifier => .cues classifier.blank
  | blend classifier => .blend classifier.blank

/-- A classifier has just been created: for an algorithm, or with a library of its own. -/
inductive IsNew : Classifier → Prop where
  | create (algorithm : Algorithm) (name : Option String) : IsNew (.create algorithm name)
  | withLibrary (name : String) (library : List String) : IsNew (.rules { name, library })

theorem IsNew.blank_eq {classifier : Classifier} (isNew : classifier.IsNew) :
    classifier.blank = classifier := by
  cases isNew with
  | create algorithm name => cases algorithm <;> rfl
  | withLibrary name library => rfl

theorem isFitted_blank (classifier : Classifier) : classifier.blank.isFitted = false := by
  cases classifier <;> rfl

section

variable [Pattern.Dialect] (classifier : Classifier) {set : TrainingSet}

theorem fit_of_error {fault : Fault} (checked : set.check = .error fault) :
    classifier.fit set = (classifier, .error fault) := by
  cases classifier with
  | rules part => exact congrArg (Prod.map rules id) (part.fit_of_error checked)
  | cues part => exact congrArg (Prod.map cues id) (part.fit_of_error checked)
  | blend part => exact congrArg (Prod.map blend id) (part.fit_of_error checked)

theorem fit_blank (checked : set.check = .ok ()) : classifier.fit set = classifier.blank.fit set := by
  cases classifier with
  | rules part => exact congrArg (Prod.map rules id) (part.fit_blank checked)
  | cues part => exact congrArg (Prod.map cues id) (part.fit_blank checked)
  | blend part => exact congrArg (Prod.map blend id) (part.fit_blank checked)

theorem fit_snd (set : TrainingSet) : (classifier.fit set).2 = set.check := by
  rcases set.check_cases with ⟨_, checked⟩ | ⟨_, fault, checked⟩
  · rw [checked]
    cases classifier with
    | rules part => exact congrArg Prod.snd (part.fit_of_ok checked)
    | cues part => exact congrArg Prod.snd (part.fit_of_ok checked)
    | blend part => exact congrArg Prod.snd (part.fit_of_ok checked)
  · rw [checked, fit_of_error _ checked]

theorem blank_fit (set : TrainingSet) : (classifier.fit set).1.blank = classifier.blank := by
  rcases set.check_cases with ⟨_, checked⟩ | ⟨_, fault, checked⟩
  · cases classifier with
    | rules part =>
      simp only [fit, part.fit_of_ok checked]
      rfl
    | cues part =>
      simp only [fit, part.fit_of_ok checked]
      rfl
    | blend part =>
      simp only [fit, part.fit_of_ok checked, part.ruleClassifier.fit_of_ok checked,
        part.cueClassifier.fit_of_ok checked]
      rfl
  · rw [fit_of_error _ checked]

/-! ### Answers -/

omit [Pattern.Dialect] in
/-- Before it is fitted a classifier answers to nothing, and says so under its own name; the set
that it is to be scored by is not even looked at. -/
theorem refuses_of_not_isFitted (unfitted : classifier.isFitted = false) :
    (∀ message, classifier.predict message = .error (.notFitted classifier.name) ∧
        classifier.probabilities message = .error (.notFitted classifier.name)) ∧
      ∀ set, classifier.score set = .error (.notFitted classifier.name) := by
  refine ⟨fun message => ?_, fun set => ?_⟩
  · cases classifier with
    | rules part =>
      have refused : part.predict message = .error (.notFitted part.name) := by
        unfold RuleClassifier.predict
        rw [show part.isFitted = false from unfitted]
        rfl
      refine ⟨refused, ?_⟩
      show (part.predict message).map _ = _
      rw [refused]
      rfl
    | cues part =>
      unfold predict probabilities CueClassifier.predict CueClassifier.probabilities
      simp only [show part.isFitted = false from unfitted]
      exact ⟨rfl, rfl⟩
    | blend part =>
      unfold predict probabilities BlendClassifier.predict BlendClassifier.probabilities
      simp only [show part.isFitted = false from unfitted]
      exact ⟨rfl, rfl⟩
  · unfold score
    rw [unfitted]
    rfl

/-- After a fit that has succeeded a classifier answers to every message. -/
theorem answers_fit (checked : set.check = .ok ()) (message : String) :
    (∃ verdict, (classifier.fit set).1.predict message = .ok verdict) ∧
      ∃ probabilities, (classifier.fit set).1.probabilities message = .ok probabilities := by
  cases classifier with
  | rules part =>
    simp only [fit, part.fit_of_ok checked]
    exact ⟨⟨_, rfl⟩, ⟨_, rfl⟩⟩
  | cues part =>
    simp only [fit, part.fit_of_ok checked]
    exact ⟨⟨_, rfl⟩, ⟨_, rfl⟩⟩
  | blend part =>
    simp only [fit, part.fit_of_ok checked, part.ruleClassifier.fit_of_ok checked,
      part.cueClassifier.fit_of_ok checked]
    exact ⟨⟨_, rfl⟩, ⟨_, rfl⟩⟩

/-! ### Any number of uses -/

/-- One use of a classifier. -/
inductive Use where
  | fit (set : TrainingSet)
  | predict (message : String)
  | probabilities (message : String)
  | score (set : TrainingSet)

/-- The set of a fit, if it is aligned. -/
def Use.alignedSet? : Use → Option TrainingSet
  | fit set => if set.isAligned then some set else none
  | _ => none

/-- The last set that is aligned among those of all fits. -/
def lastAligned? (uses : List Use) : Option TrainingSet :=
  (uses.filterMap Use.alignedSet?).getLast?

/-- The classifier after one use; only fits change it. -/
def after (classifier : Classifier) : Use → Classifier
  | .fit set => (classifier.fit set).1
  | _ => classifier

/-- The classifier after many uses. -/
def afterAll (classifier : Classifier) (uses : List Use) : Classifier :=
  uses.foldl after classifier

omit [Pattern.Dialect] in
theorem isAligned_of_alignedSet? {use : Use} {set : TrainingSet}
    (own : use.alignedSet? = some set) : set.isAligned = true := by
  cases use with
  | fit other =>
    obtain ⟨aligned, same⟩ := Option.ite_none_right_eq_some.mp own
    exact Option.some.inj same ▸ aligned
  | _ => exact nomatch own

omit [Pattern.Dialect] in
theorem lastAligned?_append_singleton (uses : List Use) (use : Use) :
    lastAligned? (uses ++ [use]) = use.alignedSet?.or (lastAligned? uses) := by
  unfold lastAligned?
  rw [List.filterMap_append, List.getLast?_append, List.filterMap_cons]
  cases use.alignedSet? <;> rfl

theorem blank_after (use : Use) : (classifier.after use).blank = classifier.blank := by
  cases use with
  | fit set => exact classifier.blank_fit set
  | _ => rfl

theorem blank_afterAll (uses : List Use) : (classifier.afterAll uses).blank = classifier.blank := by
  induction uses using List.reverseRecOn with
  | nil => rfl
  | append_singleton early use inductionHypothesis =>
    unfold afterAll at inductionHypothesis ⊢
    rw [List.foldl_append]
    exact (blank_after _ use).trans inductionHypothesis

/-- A use leaves what the fit of a blank to its set comes to, or changes nothing. -/
theorem after_eq (use : Use) :
    classifier.after use =
      match use.alignedSet? with
      | some set => (classifier.blank.fit set).1
      | none => classifier := by
  cases use with
  | fit set =>
    rcases set.check_cases with ⟨aligned, checked⟩ | ⟨misaligned, fault, checked⟩
    · rw [show (Use.fit set).alignedSet? = some set from if_pos aligned]
      exact congrArg Prod.fst (classifier.fit_blank checked)
    · rw [show (Use.fit set).alignedSet? = none from if_neg (Bool.eq_false_iff.mp misaligned)]
      exact congrArg Prod.fst (classifier.fit_of_error checked)
  | _ => rfl

theorem afterAll_eq {new : Classifier} (isNew : new.IsNew) (uses : List Use) :
    new.afterAll uses =
      match lastAligned? uses with
      | some set => (new.fit set).1
      | none => new := by
  induction uses using List.reverseRecOn with
  | nil => rfl
  | append_singleton early use inductionHypothesis =>
    have step : new.afterAll (early ++ [use]) = (new.afterAll early).after use := by
      unfold afterAll
      rw [List.foldl_append]
      rfl
    rw [step, after_eq, blank_afterAll, isNew.blank_eq, lastAligned?_append_singleton]
    cases use.alignedSet? with
    | some set => rfl
    | none => exact inductionHypothesis

/-- Only the last fit that has succeeded counts. After any uses of a classifier it is, with all that
it has learned, the new classifier fitted once to the last set that was aligned, and answers to
every message. As long as there was no such set, it is the new classifier and refuses everything
under its own name. A fit succeeds just when its set is aligned, and otherwise changes nothing. -/
theorem only_last_fit_counts {new : Classifier} (isNew : new.IsNew) (uses : List Use) :
    let current := new.afterAll uses
    (∀ set, lastAligned? uses = some set →
        current = (new.fit set).1 ∧ (new.fit set).2 = .ok () ∧
          ∀ message, (∃ verdict, current.predict message = .ok verdict) ∧
            ∃ probabilities, current.probabilities message = .ok probabilities) ∧
      (lastAligned? uses = none →
        current = new ∧
          (∀ message, current.predict message = .error (.notFitted new.name) ∧
            current.probabilities message = .error (.notFitted new.name)) ∧
          ∀ set, current.score set = .error (.notFitted new.name)) ∧
      ∀ set, (current.fit set).2 = set.check ∧
        (set.isAligned = false → (current.fit set).1 = current) := by
  intro current
  have same := afterAll_eq isNew uses
  refine ⟨fun set last => ?_, fun never => ?_, fun set => ⟨current.fit_snd set, fun misaligned => ?_⟩⟩
  · rw [last] at same
    obtain ⟨use, _, own⟩ := List.mem_filterMap.mp (List.mem_of_getLast? last)
    have aligned := isAligned_of_alignedSet? own
    have checked : set.check = .ok () := by
      rcases set.check_cases with ⟨_, checked⟩ | ⟨misaligned, _⟩
      · exact checked
      · exact absurd (aligned.symm.trans misaligned) Bool.noConfusion
    refine ⟨same, (new.fit_snd set).trans checked, fun message => ?_⟩
    rw [show current = (new.fit set).1 from same]
    exact new.answers_fit checked message
  · rw [never] at same
    have unfitted : new.isFitted = false := by
      rw [← isNew.blank_eq]
      exact new.isFitted_blank
    rw [show current = new from same]
    exact ⟨rfl, new.refuses_of_not_isFitted unfitted⟩
  · rcases set.check_cases with ⟨aligned, _⟩ | ⟨_, fault, checked⟩
    · exact absurd (aligned.symm.trans misaligned) Bool.noConfusion
    · rw [current.fit_of_error checked]

end

/-- The case of a classifier that blends, is asked too early, is fitted twice and then given a set
that is not aligned. -/
theorem only_second_of_two_fits_counts :
    let new := create .blend none
    let first : TrainingSet := ⟨["Connection timed out"], [.timeoutError], [], []⟩
    let second : TrainingSet := ⟨["rate limit exceeded"], [.rateLimitError], [], ["seen"]⟩
    let misaligned : TrainingSet := ⟨["rate limit exceeded"], [], [], []⟩
    (new.afterAll [.predict "timed out"]).score misaligned = .error (.notFitted "hybrid_classifier") ∧
      new.afterAll [.predict "timed out", .fit first, .score second, .fit second, .fit misaligned] =
        (new.fit second).1 := by
  intro new first second misaligned
  have isNew : new.IsNew := .create .blend none
  obtain ⟨_, early, _⟩ := only_last_fit_counts isNew [.predict "timed out"]
  obtain ⟨late, _, _⟩ := only_last_fit_counts isNew
    [.predict "timed out", .fit first, .score second, .fit second, .fit misaligned]
  exact ⟨(early rfl).2.2 misaligned, (late second rfl).1⟩

end Classifier

end Triage
