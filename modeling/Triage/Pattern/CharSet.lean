/-
This file holds the sets of characters that patterns are made of: ranges, the letters that differ
in case alone, the classes of digits, blanks and word characters of all scripts, and what can be
made of these by the operations on sets.
-/

import Triage.Text.Blank
import Triage.Text.Case
import Triage.Text.Letter

namespace Triage.Pattern

/-- A set of characters. -/
inductive CharSet where
  | none
  | range (first last : Char)
  /-- The characters that are the same letter when case is ignored. -/
  | letter (key : Char)
  | digit
  | blank
  | word
  | union (first second : CharSet)
  | intersection (first second : CharSet)
  | difference (first second : CharSet)
  /-- What belongs to one of the two but not to both. -/
  | exclusive (first second : CharSet)
  | complement (set : CharSet)
  /-- What is the same letter as a character of the set when case is ignored. -/
  | anyCase (set : CharSet)

namespace CharSet

/-- Does a character belong to a set? -/
def has : CharSet → Char → Bool
  | none, _ => false
  | range first last, character => first ≤ character && character ≤ last
  | letter key, character => Text.foldKey character == key
  | digit, character => Text.isDecimalDigit character
  | blank, character => Text.isBlank character
  | word, character => Text.isWordCharacter character
  | union first second, character => first.has character || second.has character
  | intersection first second, character => first.has character && second.has character
  | difference first second, character => first.has character && !second.has character
  | exclusive first second, character => first.has character != second.has character
  | complement set, character => !set.has character
  | anyCase set, character => (Text.sameLetter character).any set.has

/-- A single character. -/
def single (character : Char) : CharSet :=
  range character character

/-- A single character, or any form of it when case is ignored. -/
def ofLiteral (ignoresCase : Bool) (character : Char) : CharSet :=
  if ignoresCase then letter (Text.foldKey character) else single character

/-- The union of several sets. -/
def ofList (sets : List CharSet) : CharSet :=
  sets.foldr union none

end CharSet

end Triage.Pattern
