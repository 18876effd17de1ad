/-
This file proves what is common to quotations in all dialects. Quoting keeps texts apart, as every character
of a text can be told from its quotation, and nothing special stands in a quotation without a backslash. A
dialect is asked for one thing only: that a quotation stands for the characters of its text, whatever they
mean elsewhere in patterns.
-/

import Mathlib.Logic.Function.Defs
import Triage.Pattern.Dialect
import Triage.Text.Case

namespace Triage.Pattern

/-! ### Quotations as texts -/

theorem quoteCharacter_ne_nil (character : Char) : quoteCharacter character ≠ [] := by
  unfold quoteCharacter
  split <;> exact List.cons_ne_nil _ _

/-- No quotation of a character begins that of another one: a backslash is special itself. -/
theorem quoteCharacter_append_inj {first second : Char} {rest others : List Char}
    (same : quoteCharacter first ++ rest = quoteCharacter second ++ others) :
    first = second ∧ rest = others := by
  have backslash : specials.contains '\\' = true := by decide
  unfold quoteCharacter at same
  split at same <;> split at same <;> rename_i one other
  · obtain ⟨-, same⟩ := List.cons.inj same
    exact List.cons.inj same
  · obtain ⟨rfl, -⟩ := List.cons.inj same
    exact absurd backslash other
  · obtain ⟨rfl, -⟩ := List.cons.inj same
    exact absurd backslash one
  · exact List.cons.inj same

/-- A quoted text can be read back. -/
theorem quote_injective : Function.Injective quote := by
  have characters : Function.Injective fun text : List Char => text.flatMap quoteCharacter := by
    intro text
    induction text with
    | nil =>
      rintro (_ | ⟨character, rest⟩) same
      · rfl
      · exact absurd same.symm (List.append_ne_nil_of_left_ne_nil (quoteCharacter_ne_nil character) _)
    | cons first rest inductionHypothesis =>
      rintro (_ | ⟨second, others⟩) same
      · exact absurd same (List.append_ne_nil_of_left_ne_nil (quoteCharacter_ne_nil first) _)
      · obtain ⟨rfl, later⟩ := quoteCharacter_append_inj same
        rw [inductionHypothesis later]
  intro text other same
  exact String.toList_inj.mp (characters (String.ofList_injective same))

theorem mem_toList_quote {character : Char} {text : String} (member : character ∈ text.toList) :
    character ∈ (quote text).toList := by
  unfold quote
  rw [String.toList_ofList]
  refine List.mem_flatMap.mpr ⟨character, member, ?_⟩
  unfold quoteCharacter
  split
  · exact List.mem_cons_of_mem _ List.mem_cons_self
  · exact List.mem_cons_self

/-- Nothing special stands in a quoted text without a backslash. -/
theorem backslash_mem_toList_quote {character : Char} {text : String}
    (special : character ∈ specials) (member : character ∈ (quote text).toList) :
    '\\' ∈ (quote text).toList := by
  unfold quote at member ⊢
  rw [String.toList_ofList] at member ⊢
  obtain ⟨own, inside, member⟩ := List.mem_flatMap.mp member
  refine List.mem_flatMap.mpr ⟨own, inside, ?_⟩
  unfold quoteCharacter at member ⊢
  split
  · exact List.mem_cons_self
  · rename_i plain
    rw [if_neg plain] at member
    obtain rfl := List.mem_singleton.mp member
    exact absurd (List.contains_iff_mem.mpr special) plain

/-! ### Quotations as patterns -/

/-- Quotations are taken literally: one that can be compiled occurs where the characters of its text stand one
after the other when case is ignored. -/
class Dialect.IsLiteral [Dialect] : Prop where
  occursIn_quote_iff : ∀ {text : String} {pattern : Pattern},
    Pattern.compile? (quote text) = some pattern →
      ∀ message : String, pattern.occursIn message = true ↔
        text.toList.map Text.foldKey <:+: message.toList.map Text.foldKey

end Triage.Pattern
