/-
This file proves that every name names what it is the name of. Identifiers of error types are read
without the blanks around them and in lower case; they hold neither blanks nor capitals, so that
this does not change them, and no two of them are the same.
-/

import Triage.Ensemble.Request
import Triage.Ensemble.Strategy
import Triage.Policy
import Triage.Proofs.Text.Folding

namespace Triage

/-! ### Plain text -/

namespace Text

/-- The character is neither a blank nor a capital, nor beyond the first 128. -/
def isPlain (character : Char) : Bool :=
  decide (character.val < 128) && character.toLower == character && !isBlank character

theorem lowerIn_of_isPlain {character : Char} (plain : isPlain character = true)
    (before after : List Char) : lowerIn before character after = [character] := by
  obtain ⟨⟨first, lower⟩, -⟩ : (character.val < 128 ∧ character.toLower = character) ∧ _ := by
    simpa [isPlain] using plain
  rw [lowerIn_of_ascii first, lower]

theorem lowerAll_of_isPlain {text : List Char}
    (plain : ∀ character ∈ text, isPlain character = true) (before : List Char) :
    lowerAll before text = text := by
  induction text generalizing before with
  | nil => rfl
  | cons character after inductionHypothesis =>
    rw [List.forall_mem_cons] at plain
    rw [lowerAll, lowerIn_of_isPlain plain.1, inductionHypothesis plain.2, List.singleton_append]

theorem dropWhile_isBlank_of_isPlain {text : List Char}
    (plain : ∀ character ∈ text, isPlain character = true) : text.dropWhile isBlank = text := by
  cases text with
  | nil => rfl
  | cons character rest =>
    have first := plain character (List.mem_cons_self ..)
    refine List.dropWhile_cons_of_neg ?_
    simp_all [isPlain]

/-- Plain text stays as it is when blanks are cut off and capitals are lowered. -/
theorem lowercase_trim_of_isPlain {letters : List Char}
    (plain : ∀ character ∈ letters, isPlain character = true) :
    lowercase (trim (String.ofList letters)) = String.ofList letters := by
  have reversed : ∀ character ∈ letters.reverse, isPlain character = true := fun character mem =>
    plain character (List.mem_reverse.mp mem)
  rw [trim, String.toList_ofList, dropWhile_isBlank_of_isPlain plain,
    dropWhile_isBlank_of_isPlain reversed, List.reverse_reverse, lowercase, String.toList_ofList,
    lowerAll_of_isPlain plain]

end Text

/-! ### Names of choices -/

namespace ErrorType

theorem mem_all (errorType : ErrorType) : errorType ∈ all := by
  cases errorType <;> decide

/-- The identifiers are told apart. -/
theorem ofId?_id (errorType : ErrorType) : ofId? errorType.id = some errorType := by
  have each : ∀ errorType ∈ all, ofId? errorType.id = some errorType := by decide +kernel
  exact each errorType errorType.mem_all

theorem exists_letters (errorType : ErrorType) : ∃ letters,
    errorType.id = String.ofList letters ∧ letters.all Text.isPlain = true := by
  cases errorType <;> exact ⟨_, rfl, by decide⟩

/-- An identifier names its own type. -/
theorem ofName?_id (errorType : ErrorType) : ofName? errorType.id = some errorType := by
  obtain ⟨letters, written, plain⟩ := errorType.exists_letters
  rw [ofName?, written, Text.lowercase_trim_of_isPlain (List.all_eq_true.mp plain), ← written,
    ofId?_id]

end ErrorType

theorem Severity.ofName?_name (severity : Severity) : ofName? severity.name = some severity := by
  cases severity <;> rfl

theorem Category.ofName?_name (category : Category) : ofName? category.name = some category := by
  cases category <;> rfl

theorem Strategy.parse_name (strategy : Strategy) : parse strategy.name = .ok strategy := by
  cases strategy <;> rfl

theorem ModelKind.ofName?_name (kind : ModelKind) : ofName? kind.name = some kind := by
  cases kind <;> rfl

end Triage
