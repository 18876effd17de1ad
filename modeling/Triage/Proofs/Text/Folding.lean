/-
This file proves that a text keeps its letters when it is written in lower case: character by
character, a search that ignores case takes the lower-case text for the text itself. What is in
lower case has no other lower-case form, since the forms in the table are no entries of it, and the
two forms of the Greek sigma are one letter. The capital I with a dot is the only exception, which
becomes two letters.
-/

import Mathlib.Order.Nat
import Triage.Text.Case

namespace Triage.Text

/-! ### The table -/

namespace Table.LowerRun

/-- The lower-case forms of a run are no code points of the other one: they all lie below or above it,
or they are odd where it is even, or the other way round. -/
def Misses (run other : LowerRun) : Prop :=
  run.lower run.last < other.first ∨ other.last < run.lower run.first ∨
    0 ≤ run.first + run.shift ∧ other.stride = 2 ∧ (run.first = run.last ∨ run.stride = 2) ∧
      run.lower run.first % 2 ≠ other.first % 2

instance (run other : LowerRun) : Decidable (run.Misses other) :=
  inferInstanceAs (Decidable (_ ∨ _ ∨ _ ∧ _ ∧ _ ∧ _))

theorem misses_lowerRuns : ∀ run ∈ lowerRuns, ∀ other ∈ lowerRuns, run.Misses other := by
  decide +kernel

theorem Misses.not_holds {run other : LowerRun} (misses : run.Misses other) {point : Nat}
    (held : run.holds point = true) : ¬ other.holds (run.lower point) = true := by
  unfold Misses lower at misses
  unfold holds at held ⊢
  unfold lower
  simp only [Bool.and_eq_true, decide_eq_true_eq, beq_iff_eq] at held ⊢
  obtain ⟨⟨least, greatest⟩, aligned⟩ := held
  rintro ⟨⟨low, high⟩, otherAligned⟩
  obtain below | above | ⟨positive, two, own, odd⟩ := misses
  · omega
  · omega
  · rw [two] at otherAligned
    obtain alone | own := own
    · omega
    · rw [own] at aligned
      omega

end Table.LowerRun

/-! ### Single characters -/

theorem forall_ascii (property : Char → Prop) (every : ∀ point < 128, property (Char.ofNat point))
    {character : Char} (isAscii : character.val < 128) : property character :=
  Char.ofNat_toNat character ▸ every character.toNat isAscii

theorem lowerIn_of_ascii {character : Char} (isAscii : character.val < 128) (before after : List Char) :
    lowerIn before character after = [character.toLower] := by
  have sigma : character ≠ capitalSigma := by
    rintro rfl
    exact absurd isAscii (by decide)
  have dotted : character ≠ dottedCapitalI := by
    rintro rfl
    exact absurd isAscii (by decide)
  simp [lowerIn, sigma, dotted, lowerOne, isAscii]

/-- What is no entry of the table is in lower case. -/
theorem lowerOne_of_not_holds {character : Char}
    (new : ∀ run ∈ Table.lowerRuns, ¬ run.holds character.toNat = true) :
    lowerOne character = character := by
  unfold lowerOne
  split
  · rename_i isAscii
    -- The capitals of ASCII are the first entries.
    have small : ¬ (⟨65, 90, 1, 32⟩ : Table.LowerRun).holds character.toNat = true :=
      new _ List.mem_cons_self
    revert small
    exact forall_ascii (fun character =>
      ¬ (⟨65, 90, 1, 32⟩ : Table.LowerRun).holds character.toNat = true →
        character.toLower = character) (by decide) isAscii
  · rw [List.find?_eq_none.mpr new]

theorem toNat_ofNat_or (point : Nat) :
    (Char.ofNat point).toNat = point ∨ Char.ofNat point = '\x00' := by
  by_cases valid : point.isValidChar
  · have same : Char.ofNat point = Char.ofNatAux point valid := dif_pos valid
    exact .inl (congrArg Char.toNat same)
  · exact .inr (dif_neg valid)

theorem lowerOne_cases {character : Char} (other : ¬ character.val < 128) :
    lowerOne character = character ∨ ∃ run ∈ Table.lowerRuns, run.holds character.toNat = true ∧
      lowerOne character = Char.ofNat (run.lower character.toNat) := by
  unfold lowerOne
  rw [if_neg other]
  split
  · rename_i run found
    exact .inr ⟨run, List.mem_of_find?_eq_some found,
      List.find?_some (p := fun run : Table.LowerRun => run.holds character.toNat) found, rfl⟩
  · exact .inl rfl

/-- A lower-case form has no other lower-case form. -/
theorem lowerOne_lowerOne (character : Char) : lowerOne (lowerOne character) = lowerOne character := by
  by_cases isAscii : character.val < 128
  · exact forall_ascii (fun character => lowerOne (lowerOne character) = lowerOne character)
      (by decide) isAscii
  · obtain own | ⟨run, listed, held, own⟩ := lowerOne_cases isAscii
    · rw [own, own]
    · rw [own]
      obtain same | missing := toNat_ofNat_or (run.lower character.toNat)
      · refine lowerOne_of_not_holds fun other member => ?_
        rw [same]
        exact (Table.LowerRun.misses_lowerRuns run listed other member).not_holds held
      · rw [missing]
        decide

/-- A search that ignores case takes a lower-case form for the character itself. -/
theorem foldKey_lowerOne (character : Char) : foldKey (lowerOne character) = foldKey character := by
  unfold foldKey
  rw [lowerOne_lowerOne]

/-! ### Texts -/

theorem map_foldKey_lowerIn {character : Char} (single : character ≠ dottedCapitalI)
    (before after : List Char) :
    (lowerIn before character after).map foldKey = [foldKey character] := by
  have sigmas : foldKey 'ς' = foldKey capitalSigma ∧ foldKey 'σ' = foldKey capitalSigma := by
    decide +kernel
  unfold lowerIn
  split
  · rename_i isSigma
    obtain rfl := beq_iff_eq.mp isSigma
    split
    · rw [List.map_singleton, sigmas.1]
    · rw [List.map_singleton, sigmas.2]
  · rw [if_neg fun same => single (beq_iff_eq.mp same), List.map_singleton, foldKey_lowerOne]

/-- A text in lower case has the letters of the text. -/
theorem map_foldKey_lowerAll {text : List Char} (single : dottedCapitalI ∉ text) (before : List Char) :
    (lowerAll before text).map foldKey = text.map foldKey := by
  induction text generalizing before with
  | nil => rfl
  | cons character rest inductionHypothesis =>
    obtain ⟨own, others⟩ := List.ne_and_not_mem_of_not_mem_cons single
    rw [lowerAll, List.map_append, map_foldKey_lowerIn own.symm, inductionHypothesis others]
    rfl

example : (lowerAll [] ['İ']).map foldKey ≠ ['İ'].map foldKey := by decide +kernel

end Triage.Text
