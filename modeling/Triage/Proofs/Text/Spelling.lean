/-
This file proves how far the spelling of a text may change without its lower case, less the blanks around it,
becoming another one. Characters may be written in another way that is blank, cased or skipped as they are
and has the same lower-case form: these are all the properties of the characters around a capital sigma that
its form depends on, so that also the context of a sigma stays what it is. Two such ways are of use: another
case of the letters of ASCII, and, where they are taken for the same, a hyphen for an underscore.
-/

import Mathlib.Data.List.DropRight
import Triage.Category
import Triage.Proofs.Text.Folding

namespace Triage.Text

/-! ### Blanks at either end -/

theorem trim_eq (text : String) :
    trim text = String.ofList ((text.toList.dropWhile isBlank).rdropWhile isBlank) := rfl

section

variable {before inner after : List Char}

theorem rdropWhile_append_blanks (blanks : ∀ character ∈ after, isBlank character = true) :
    (inner ++ after).rdropWhile isBlank = inner.rdropWhile isBlank := by
  have reversed : ∀ character ∈ after.reverse, isBlank character = true := fun character mem =>
    blanks character (List.mem_reverse.mp mem)
  unfold List.rdropWhile
  rw [List.reverse_append, List.dropWhile_append_of_pos reversed]

/-- Blanks in front and behind are cut off with those that were there before. -/
theorem cut_blanks (front : ∀ character ∈ before, isBlank character = true)
    (behind : ∀ character ∈ after, isBlank character = true) :
    ((before ++ inner ++ after).dropWhile isBlank).rdropWhile isBlank =
      (inner.dropWhile isBlank).rdropWhile isBlank := by
  rw [List.append_assoc, List.dropWhile_append_of_pos front, List.dropWhile_append]
  split
  · rename_i nothing
    rw [List.isEmpty_iff.mp nothing, List.dropWhile_eq_nil_iff.mpr behind]
  · exact rdropWhile_append_blanks behind

end

/-! ### Other ways to write a character -/

/-- To write characters in another way, which `view` does not tell from the first one, changes nothing that
the lower case of a text depends on. -/
structure IsHarmless (fold view : Char → Char) : Prop where
  blank : ∀ character, isBlank (fold character) = isBlank character
  cased : ∀ character, isCased (fold character) = isCased character
  caseIgnorable : ∀ character, isCaseIgnorable (fold character) = isCaseIgnorable character
  lower : ∀ before character after,
    (lowerIn before (fold character) after).map view = (lowerIn before character after).map view

/-- Only characters of ASCII are written in another way, and each of them has been looked at. -/
theorem IsHarmless.of_ascii {fold view : Char → Char}
    (others : ∀ character : Char, ¬ character.val < 128 → fold character = character)
    (ascii : ∀ point < 128, let character := Char.ofNat point
      (fold character).val < 128 ∧ isBlank (fold character) = isBlank character ∧
        isCased (fold character) = isCased character ∧
        isCaseIgnorable (fold character) = isCaseIgnorable character ∧
        view (fold character).toLower = view character.toLower) :
    IsHarmless fold view := by
  have each {character : Char} := @forall_ascii (fun character => (fold character).val < 128 ∧
    isBlank (fold character) = isBlank character ∧ isCased (fold character) = isCased character ∧
    isCaseIgnorable (fold character) = isCaseIgnorable character ∧
    view (fold character).toLower = view character.toLower) ascii character
  refine ⟨fun character => ?_, fun character => ?_, fun character => ?_,
    fun before character after => ?_⟩
  all_goals
    by_cases isAscii : character.val < 128
    case neg => rw [others character isAscii]
  · exact (each isAscii).2.1
  · exact (each isAscii).2.2.1
  · exact (each isAscii).2.2.2.1
  · rw [lowerIn_of_ascii isAscii, lowerIn_of_ascii (each isAscii).1, List.map_singleton,
      (each isAscii).2.2.2.2]
    rfl

theorem toLower_of_not_ascii {character : Char} (other : ¬ character.val < 128) :
    character.toLower = character := by
  have noCapital : ¬ ('A'.val ≤ character.val ∧ character.val ≤ 'Z'.val) := fun ⟨_, below⟩ =>
    other (UInt32.lt_of_le_of_lt below (by decide))
  exact dif_neg noCapital

theorem isHarmless_toLower : IsHarmless Char.toLower id :=
  .of_ascii (fun _ other => toLower_of_not_ascii other) (by decide)

theorem isHarmless_underscored :
    IsHarmless (Category.underscored ∘ Char.toLower) Category.underscored := by
  refine .of_ascii (fun character other => ?_) (by decide)
  have hyphen : character ≠ '-' := by
    rintro rfl
    exact other (by decide)
  rw [Function.comp_apply, toLower_of_not_ascii other, Category.underscored, if_neg hyphen]

namespace IsHarmless

variable {fold view : Char → Char} (harmless : IsHarmless fold view)

include harmless

theorem dropWhile_map (text : List Char) :
    (text.map fold).dropWhile isBlank = (text.dropWhile isBlank).map fold := by
  rw [List.dropWhile_map, show isBlank ∘ fold = isBlank from funext harmless.blank]

theorem cut_map (text : List Char) :
    ((text.map fold).dropWhile isBlank).rdropWhile isBlank =
      ((text.dropWhile isBlank).rdropWhile isBlank).map fold := by
  unfold List.rdropWhile
  rw [harmless.dropWhile_map, ← List.map_reverse, harmless.dropWhile_map, List.map_reverse]

/-- What is skipped stays skipped, and what comes after it has case or not as before. -/
theorem meetsCased_map (text : List Char) : meetsCased (text.map fold) = meetsCased text := by
  unfold meetsCased
  rw [List.dropWhile_map, show isCaseIgnorable ∘ fold = isCaseIgnorable from
    funext harmless.caseIgnorable]
  cases text.dropWhile isCaseIgnorable with
  | nil => rfl
  | cons character rest => exact harmless.cased character

theorem lowerIn_map (before : List Char) (character : Char) (after : List Char) :
    lowerIn (before.map fold) character (after.map fold) = lowerIn before character after := by
  unfold lowerIn
  rw [harmless.meetsCased_map, harmless.meetsCased_map]

theorem lowerAll_map (before text : List Char) :
    (lowerAll (before.map fold) (text.map fold)).map view = (lowerAll before text).map view := by
  induction text generalizing before with
  | nil => rfl
  | cons character after inductionHypothesis =>
    have rest := inductionHypothesis (character :: before)
    rw [List.map_cons] at rest
    rw [List.map_cons, lowerAll, lowerAll, List.map_append, List.map_append, harmless.lowerIn_map,
      harmless.lower, rest]

end IsHarmless

/-! ### Spellings of a text -/

/-- The second text is the first one with characters written in another way, that is with the same `fold`,
and with blanks put in front and behind. -/
def Respells (fold : Char → Char) (text variant : String) : Prop :=
  ∃ before inner after : List Char, variant.toList = before ++ inner ++ after ∧
    (∀ character ∈ before, isBlank character = true) ∧
    (∀ character ∈ after, isBlank character = true) ∧
    inner.map fold = text.toList.map fold

/-- The lower case of all spellings of a text is the same, less the blanks around it. -/
theorem Respells.lowercase_trim {fold view : Char → Char} {text variant : String}
    (respells : Respells fold text variant) (harmless : IsHarmless fold view) :
    (lowercase (trim variant)).toList.map view = (lowercase (trim text)).toList.map view := by
  obtain ⟨before, inner, after, written, front, behind, same⟩ := respells
  simp only [lowercase, trim_eq, String.toList_ofList]
  rw [written, cut_blanks front behind, ← harmless.lowerAll_map [], ← harmless.cut_map, same,
    harmless.cut_map, harmless.lowerAll_map []]

end Triage.Text
