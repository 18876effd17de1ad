/-
This file proves that identifiers are read in any spelling and printed in one. A person may write an error
type, a strategy or a category with blanks around it and in any case, a category also with hyphens; all
spellings of a text are taken for the same identifier, or none of them for any. What is printed is one of
the spellings of the identifier itself and of no other, so that printing can be undone. When a text is no
identifier, the fault shows it as it was written.
-/

import Triage.Proofs.Naming
import Triage.Proofs.Text.Spelling

namespace Triage

open Text (Respells)

/-- Names are read in all spellings, where characters with the same `fold` are taken for one, and what is
printed is the name of one value only. -/
structure ReadsSpellings {Value : Type} (fold : Char → Char) (print : Value → String)
    (read : String → Option Value) : Prop where
  alike : ∀ {text variant}, Respells fold text variant → read variant = read text
  read_print : ∀ value other, read (print value) = some other ↔ value = other

/-- It is enough that names are looked up by the lower case of a text, and found. -/
theorem ReadsSpellings.of_lowercase {Value : Type} {fold view : Char → Char} {print : Value → String}
    {read : String → Option Value} (harmless : Text.IsHarmless fold view)
    (lookUp : List Char → Option Value)
    (looked : ∀ text, read text = lookUp ((Text.lowercase (Text.trim text)).toList.map view))
    (found : ∀ value, read (print value) = some value) : ReadsSpellings fold print read where
  alike respells := by rw [looked, looked, respells.lowercase_trim harmless]
  read_print value other := by rw [found, Option.some.injEq]

/-! ### Names with a fault -/

section

variable {Value : Type} {found : Option Value} {fault : Fault}

/-- The value that is found, or a fault. -/
def foundOr (fault : Fault) (found : Option Value) : Except Fault Value :=
  found.elim (.error fault) .ok

theorem toOption_foundOr : (foundOr fault found).toOption = found := by
  cases found <;> rfl

theorem eq_of_foundOr_eq_error {other : Fault} (fails : foundOr fault found = .error other) :
    other = fault := by
  cases found with
  | some value => exact nomatch fails
  | none => exact (Except.error.inj fails).symm

end

namespace ErrorType

theorem parse_eq (text : String) : parse text = foundOr (.unknownErrorType text) (ofName? text) := by
  unfold parse
  cases ofName? text <;> rfl

theorem readsSpellings : ReadsSpellings Char.toLower id fun text => (parse text).toOption := by
  refine .of_lowercase Text.isHarmless_toLower (fun letters => ofId? (String.ofList letters))
    (fun text => ?_) fun errorType => ?_
  · rw [parse_eq, toOption_foundOr, ofName?, List.map_id, String.ofList_toList]
  · rw [parse_eq, toOption_foundOr, ofName?_id]

end ErrorType

namespace Strategy

theorem parse_eq (text : String) : parse text =
    foundOr (.unsupportedStrategy text) (ofName? (Text.lowercase (Text.trim text))) := by
  unfold parse
  cases ofName? (Text.lowercase (Text.trim text)) <;> rfl

theorem readsSpellings : ReadsSpellings Char.toLower name fun text => (parse text).toOption := by
  refine .of_lowercase Text.isHarmless_toLower (fun letters => ofName? (String.ofList letters))
    (fun text => ?_) fun strategy => ?_
  · rw [parse_eq, toOption_foundOr, List.map_id, String.ofList_toList]
  · rw [parse_name]
    rfl

end Strategy

/-! ### Categories -/

namespace Category

theorem ofText?_name (category : Category) : ofText? category.name = some category := by
  cases category <;> rfl

theorem readsSpellings : ReadsSpellings (underscored ∘ Char.toLower) name ofText? :=
  .of_lowercase Text.isHarmless_underscored (fun letters => ofName? (String.ofList letters))
    (fun _ => rfl) ofText?_name

end Category

/-! ### All identifiers -/

/-- Identifiers are read in any spelling. Error types and strategies are found, or not found, alike in all
texts that differ by the case of letters of ASCII and by blanks at either end, and categories also in texts
that have hyphens for underscores. What is printed of an identifier is read as this one, and nothing that is
printed of another one is. When a text names no error type or no strategy, the message ends with the text as
it was given. -/
theorem identifiers_read_in_any_spelling :
    (ReadsSpellings Char.toLower ErrorType.id fun text => (ErrorType.parse text).toOption) ∧
      (ReadsSpellings Char.toLower Strategy.name fun text => (Strategy.parse text).toOption) ∧
      ReadsSpellings (Category.underscored ∘ Char.toLower) Category.name Category.ofText? ∧
      (∀ text fault, ErrorType.parse text = .error fault →
        fault = .unknownErrorType text ∧ fault.message = "Unknown error type: " ++ text) ∧
      ∀ text fault, Strategy.parse text = .error fault →
        fault = .unsupportedStrategy text ∧ fault.message = "Unsupported mixing strategy: " ++ text := by
  refine ⟨ErrorType.readsSpellings, Strategy.readsSpellings, Category.readsSpellings,
    fun text fault fails => ?_, fun text fault fails => ?_⟩
  · obtain rfl := eq_of_foundOr_eq_error (ErrorType.parse_eq text ▸ fails)
    exact ⟨rfl, rfl⟩
  · obtain rfl := eq_of_foundOr_eq_error (Strategy.parse_eq text ▸ fails)
    exact ⟨rfl, rfl⟩

/-- The case of names between blanks that are no ASCII, of a hyphen for an underscore, and of a text with a
sigma at its end, which is no name in any spelling. -/
theorem identifiers_read_in_three_spellings :
    (ErrorType.parse "\u00a0Timeout_ERROR\u3000\n").toOption = some .timeoutError ∧
      Category.ofText? "\tFile-System" = some .fileSystem ∧
      (Strategy.parse " CascadeΣ ").toOption = (Strategy.parse "CASCADEΣ").toOption ∧
      Strategy.parse "CASCADEΣ" = .error (.unsupportedStrategy "CASCADEΣ") := by
  obtain ⟨errorTypes, strategies, categories, -, faults⟩ := identifiers_read_in_any_spelling
  have blank {padding : List Char} (all : padding.all Text.isBlank = true) :
      ∀ character ∈ padding, Text.isBlank character = true := List.all_eq_true.mp all
  have timeout : Respells Char.toLower ErrorType.timeoutError.id "\u00a0Timeout_ERROR\u3000\n" :=
    ⟨['\u00a0'], "Timeout_ERROR".toList, ['\u3000', '\n'], rfl, blank rfl, blank rfl, by decide⟩
  have fileSystem : Respells (Category.underscored ∘ Char.toLower) Category.fileSystem.name
      "\tFile-System" :=
    ⟨['\t'], "File-System".toList, [], rfl, blank rfl, blank rfl, by decide⟩
  have cascade : Respells Char.toLower "CASCADEΣ" " CascadeΣ " :=
    ⟨[' '], "CascadeΣ".toList, [' '], rfl, blank rfl, blank rfl, by decide⟩
  refine ⟨?_, ?_, strategies.alike cascade, ?_⟩
  · rw [errorTypes.alike timeout]
    exact (errorTypes.read_print _ _).mpr rfl
  · rw [categories.alike fileSystem]
    exact (categories.read_print _ _).mpr rfl
  · cases failed : Strategy.parse "CASCADEΣ" with
    | error fault => rw [(faults _ fault failed).1]
    | ok strategy => revert failed; cases strategy <;> exact nofun

end Triage
