/-
This file proves how far what is accepted can be stored. A model or a request that has been read from
any text, however its numbers are written and whatever fields are missing, is written and read back as
it is, but for one case. The doubles of a record are always finite. A temperature is a single, and a
number that no single can hold is not refused but becomes infinite. There is no form for it, so that null
is written, and null is refused when the text is read again.
-/

import Triage.Proofs.Number.Finite
import Triage.Proofs.Storage

namespace Triage

open Json Json.Reading

/-! ### Numbers that are read -/

namespace Json

theorem absorb_lt {number : Nat} (held : number < wordLimit) (digits : List Nat) :
    (absorb number digits).1 < wordLimit := by
  induction digits generalizing number with
  | nil => exact held
  | cons digit rest inductionHypothesis =>
    rw [absorb]
    split
    · rename_i more
      exact inductionHypothesis more
    · exact held

namespace Numeral

variable {numeral : Numeral}

theorem isFinite_of_double? {value : Float} (reads : numeral.double? = some value) :
    value.isFinite = true := by
  obtain ⟨magnitude, scaled, rfl⟩ := Option.map_eq_some_iff.mp reads
  have sized := Triage.Number.hasFiniteSize_of_readScaled
    (absorb_lt (absorb_lt (by decide) numeral.whole) numeral.fraction) scaled
  split
  · exact sized.isFinite_neg
  · exact sized.isFinite

/-- Every number that is read can be held. -/
theorem isHeld_of_value? {number : Json.Number} (means : numeral.value? = some number) :
    number.IsHeld := by
  unfold value? at means
  dsimp only at means
  split_ifs at means with real small negative
  · obtain ⟨value, reads, rfl⟩ := Option.map_eq_some_iff.mp means
    exact isFinite_of_double? reads
  · obtain rfl := Option.some.inj means
    rw [Bool.and_eq_true, decide_eq_true_eq] at small
    exact ⟨by omega, by exact_mod_cast small.2⟩
  · obtain rfl := Option.some.inj means
    simp only [Bool.and_eq_true, decide_eq_true_eq] at negative
    have some : 0 < wordLimit := by decide
    exact ⟨by omega, by omega⟩
  · obtain ⟨value, reads, rfl⟩ := Option.map_eq_some_iff.mp means
    exact isFinite_of_double? reads

end Numeral

/-- A double that is read is finite. -/
theorem Reading.isFinite_of_double {nesting : Nat} {tree : Tree} {value : Float}
    (reads : double nesting tree = some value) : value.isFinite = true := by
  unfold double at reads
  split at reads
  · split at reads
    · rename_i number means
      obtain rfl := Option.some.inj reads
      have held : Number.IsHeld (.whole number) := Numeral.isHeld_of_value? means
      obtain ⟨least, most⟩ := held
      refine Triage.Number.isFinite_doubleOfInt ?_
      unfold wordLimit at least most
      omega
    · rename_i number means
      obtain rfl := Option.some.inj reads
      exact Numeral.isHeld_of_value? means
    · exact nomatch reads
  · exact nomatch reads

theorem Reading.isFinite_of_nullable_double {nesting : Nat} {tree : Tree} {value : Option Float}
    (reads : double.nullable nesting tree = some value) : ∀ held ∈ value, held.isFinite = true := by
  rintro held rfl
  unfold nullable at reads
  split at reads
  · exact nomatch reads
  · obtain ⟨_, read, same⟩ := Option.map_eq_some_iff.mp reads
    obtain rfl := Option.some.inj same
    exact isFinite_of_double read

/-- What holds of all values that are read and of the default holds of a field. -/
theorem Fields.of_orElse {Value : Type} (holds : Value → Prop) {fields : Fields} {name : String}
    {reading : Reading Value} {default value : Value}
    (ofReading : ∀ {nesting tree value}, reading nesting tree = some value → holds value)
    (ofDefault : holds default) (reads : fields.orElse name reading default = some value) :
    holds value := by
  unfold orElse at reads
  split at reads
  · exact ofReading reads
  · obtain rfl := Option.some.inj reads
    exact ofDefault

end Json

/-! ### Models and requests that are read -/

/-- The doubles of a model that is read are finite, whether they are written or not. -/
theorem Model.isFinite_of_reading {nesting : Nat} {tree : Tree} {model : Model}
    (reads : reading nesting tree = some model) :
    model.weight.isFinite = true ∧ model.timeout.isFinite = true ∧
      ∀ cost ∈ model.costLimit, cost.isFinite = true := by
  unfold reading at reads
  simp only [Option.bind_eq_bind, Option.bind_eq_some_iff, Option.pure_def, Option.some.injEq] at reads
  obtain ⟨fields, -, provider, -, name, -, kind, -, weight, weightRead, maxTokens, -, temperature, -,
    timeout, timeoutRead, retryAttempts, -, specializedFor, -, costLimit, costRead, rfl⟩ := reads
  exact ⟨Fields.of_orElse (·.isFinite = true) isFinite_of_double (by decide +kernel) weightRead,
    Fields.of_orElse (·.isFinite = true) isFinite_of_double (by decide +kernel) timeoutRead,
    Fields.of_orElse (∀ cost ∈ ·, cost.isFinite = true) isFinite_of_nullable_double
      (fun cost held => absurd held (Option.not_mem_none cost)) costRead⟩

deriving instance DecidableEq for Model

namespace Record

/-- What is accepted can be stored, except for a temperature that is not finite. Whatever text a model
or a request has been read from, it is read back as it is from the text that is written of it, if every
number in it is read back from its digits and its temperature is finite. With a temperature that is too
great for any single the text that is written is refused. -/
theorem stored_as_accepted :
    (∀ text model, Model.reading.run? text = some model →
      (∀ number, model.toJson.Mentions number → number.ReadsBack) →
        Model.reading.run? model.toJson.render =
          if model.temperature.isFinite then some model else none) ∧
    ∀ text request, Request.reading.run? text = some request →
      (∀ number, request.toJson.Mentions number → number.ReadsBack) →
        Request.reading.run? request.toJson.render =
          if request.temperature.isFinite then some request else none := by
  refine ⟨fun text model accepted readsBack => ?_, fun text request _ readsBack => ?_⟩
  · obtain ⟨tree, -, reads⟩ := Option.bind_eq_some_iff.mp accepted
    obtain ⟨weight, timeout, cost⟩ := Model.isFinite_of_reading reads
    exact (Model.recovers_orRefusal weight timeout cost readsBack).run?_eq (by decide)
  · exact (Request.recovers_orRefusal readsBack).run?_eq (by decide)

/-- The case of a temperature of a half, in a request that is written as the array of its fields, and of a
temperature that becomes infinite. -/
theorem stored_as_accepted_of_two_texts :
    let request : Request := ⟨"Why?", .code, 100, 0.5⟩
    let model : Model := ⟨"echo", "m", .fast, 3, 4000, .ofBits 0x7f800000, 30, 2, none, none⟩
    Request.reading.run? request.toJson.render = some request ∧
      Model.reading.run? model.toJson.render = none := by
  intro request model
  constructor
  · have accepted : Request.reading.run? "[\"Why?\", \"code\", 100, 5e-1]" = some request := rfl
    have finite : request.temperature.isFinite := by decide +kernel
    have stored := stored_as_accepted.2 _ request accepted fun number inside => by
      simp [request, Request.toJson] at inside
      rcases inside with rfl | ⟨-, rfl⟩ <;> decide +kernel
    exact stored.trans (if_pos finite)
  · have accepted : Model.reading.run? "[\"echo\", \"m\", \"fast\", 3, 4000, 1e39]" = some model := by
      decide +kernel
    have infinite : ¬ (Float32.ofBits 0x7f800000).isFinite := by decide +kernel
    have refused := stored_as_accepted.1 _ model accepted fun number inside => by
      simp [model, Model.toJson, ofOption, infinite] at inside
      rcases inside with ⟨-, rfl⟩ | rfl | ⟨-, rfl⟩ | rfl <;> decide +kernel
    exact refused.trans (if_neg infinite)

/-- A model with a temperature that no single can hold is accepted. The numbers that are written of it
are read back, and yet the whole text is refused. -/
theorem accepted_model_refused :
    let text := r#"{"provider":"a","model":"b","model_type":"fast","temperature":1e39}"#
    ∃ model, Model.reading.run? text = some model ∧
      (∀ number, model.toJson.Mentions number → number.ReadsBack) ∧
      Model.reading.run? model.toJson.render = none := by
  refine ⟨⟨"a", "b", .fast, 1, 4000, .ofBits 0x7f800000, 30, 2, none, none⟩, by decide +kernel,
    fun number inside => ?_, by decide +kernel⟩
  have infinite : ¬ (Float32.ofBits 0x7f800000).isFinite := by decide +kernel
  simp [Model.toJson, ofOption, infinite] at inside
  rcases inside with ⟨-, rfl⟩ | rfl | ⟨-, rfl⟩ | rfl <;> decide +kernel

end Record

end Triage
