/-
This file holds white space: which characters are blank, and what trimming and splitting into
words do to a text. Blank means the white-space property of all scripts, not the ASCII blanks
alone, so a no-break space separates words and a zero-width space does not.
-/

import Triage.Text.Table

namespace Triage.Text

/-- Boundaries of the ranges of white space. -/
def blanks : List Nat := [
  0x9, 0xe, 0x20, 0x21, 0x85, 0x86, 0xa0, 0xa1, 0x1680, 0x1681, 0x2000, 0x200b, 0x2028, 0x202a,
  0x202f, 0x2030, 0x205f, 0x2060, 0x3000, 0x3001]

/-- White space of any script. -/
def isBlank (character : Char) : Bool :=
  Table.member blanks character

/-- The text without the blanks at either end. -/
def trim (text : String) : String :=
  let inner := text.toList.dropWhile isBlank
  String.ofList (inner.reverse.dropWhile isBlank).reverse

/-! ### Words -/

/-- Put a character in front of the first word, or open a first word with it. -/
def extendFirst (character : Char) : List (List Char) → List (List Char)
  | [] => [[character]]
  | word :: rest => (character :: word) :: rest

/-- The pieces between blanks, empty pieces included: one more than there are blanks. -/
def pieces : List Char → List (List Char)
  | [] => [[]]
  | character :: rest =>
    if isBlank character then [] :: pieces rest else extendFirst character (pieces rest)

/-- The words of a text: its longest stretches without blanks, in order. -/
def words (text : List Char) : List (List Char) :=
  (pieces text).filter (!·.isEmpty)

end Triage.Text
