/-
This file sorts characters into letters, digits and word characters, for all scripts. ASCII is
answered directly and the rest from the tables.
-/

import Triage.Text.Table
import Triage.Text.Table.Alphabetic
import Triage.Text.Table.Mark
import Triage.Text.Table.Number

namespace Triage.Text

/-- Letters and other alphabetic characters of any script. -/
def isAlphabetic (character : Char) : Bool :=
  if character.val < 128 then character.isAlpha else Table.member Table.alphabetic character

/-- Alphabetic or numeric, in any script. -/
def isAlphanumeric (character : Char) : Bool :=
  if character.val < 128 then character.isAlphanum
  else Table.member Table.alphabetic character || Table.member Table.numbers character

/-- A decimal digit of any script. -/
def isDecimalDigit (character : Char) : Bool :=
  if character.val < 128 then character.isDigit else Table.member Table.decimalDigits character

/-- Boundaries of the ranges of connecting punctuation, such as the underscore. -/
def connectors : List Nat := [
  0x5f, 0x60, 0x203f, 0x2041, 0x2054, 0x2055, 0xfe33, 0xfe35, 0xfe4d, 0xfe50, 0xff3f, 0xff40]

/-- Boundaries of the two characters that join their neighbours without a mark. -/
def joiners : List Nat := [0x200c, 0x200e]

/-- A character that words are made of: alphabetic, a combining mark, a decimal digit, connecting
punctuation or a joiner. -/
def isWordCharacter (character : Char) : Bool :=
  if character.val < 128 then character.isAlphanum || character == '_'
  else Table.member Table.alphabetic character || Table.member Table.marks character ||
    Table.member Table.decimalDigits character || Table.member connectors character ||
    Table.member joiners character

end Triage.Text
