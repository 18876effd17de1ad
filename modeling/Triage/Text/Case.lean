/-
This file holds the two ways in which case is put aside. `lowercase` writes a text in lower case,
where one capital becomes two characters and the Greek capital sigma becomes the final form at the
end of a word. `foldKey` gives the letter that a search compares when it ignores case: two
characters are the same letter to it exactly when they have the same key.
-/

import Triage.Text.Table
import Triage.Text.Table.Cased
import Triage.Text.Table.Lower

namespace Triage.Text

namespace Table.LowerRun

/-- Does the run hold the code point? -/
def holds (run : LowerRun) (point : Nat) : Bool :=
  run.first ≤ point && point ≤ run.last && (point - run.first) % run.stride == 0

/-- The lower-case form of a code point of the run. -/
def lower (run : LowerRun) (point : Nat) : Nat :=
  (point + run.shift).toNat

/-- The code point of the run, if there is one, whose lower-case form is `point`. -/
def upper? (run : LowerRun) (point : Nat) : Option Nat :=
  let candidate := (point - run.shift).toNat
  if run.holds candidate && run.lower candidate == point then some candidate else none

end Table.LowerRun

/-! ### Lower case -/

/-- The lower-case form of a character that has one of a single character, else the character. -/
def lowerOne (character : Char) : Char :=
  if character.val < 128 then character.toLower
  else match Table.lowerRuns.find? (·.holds character.toNat) with
    | some run => Char.ofNat (run.lower character.toNat)
    | none => character

/-- Has the character case? -/
def isCased (character : Char) : Bool :=
  Table.member Table.cased character

/-- Is the character skipped when the case context of a letter is decided? -/
def isCaseIgnorable (character : Char) : Bool :=
  Table.member Table.caseIgnorable character

/-- Is the first character that counts, in the given direction, a cased one? -/
def meetsCased (characters : List Char) : Bool :=
  match characters.dropWhile isCaseIgnorable with
  | [] => false
  | character :: _ => isCased character

/-- The capital sigma, the only capital whose lower-case form depends on its context. -/
def capitalSigma : Char := 'Σ'

/-- The capital I with a dot above, the only capital with a lower-case form of two characters. -/
def dottedCapitalI : Char := 'İ'

/-- The lower-case form of a character, given what stands before it (nearest first) and after it.
A capital sigma takes the final form when a cased letter stands before it and none after it. -/
def lowerIn (before : List Char) (character : Char) (after : List Char) : List Char :=
  if character == capitalSigma then
    if meetsCased before && !meetsCased after then ['ς'] else ['σ']
  else if character == dottedCapitalI then ['i', '\u0307']
  else [lowerOne character]

/-- Lower case of the characters, with those already passed, nearest first. -/
def lowerAll (before : List Char) : List Char → List Char
  | [] => []
  | character :: after => lowerIn before character after ++ lowerAll (character :: before) after

/-- The text in lower case. -/
def lowercase (text : String) : String :=
  String.ofList (lowerAll [] text.toList)

/-! ### Ignoring case -/

/-- The letter that a search compares when it ignores case. -/
def foldKey (character : Char) : Char :=
  let lower := lowerOne character
  if lower.val < 128 then lower
  else match Table.variantForms.find? (·.1 == lower.toNat) with
    | some (_, letter) => Char.ofNat letter
    | none => lower

/-- The capitals of a lower-case character. -/
def capitals (character : Char) : List Char :=
  Table.lowerRuns.filterMap fun run => (run.upper? character.toNat).map Char.ofNat

/-- The variant forms of a letter, itself included. -/
def formsOf (letter : Char) : List Char :=
  letter :: (Table.variantForms.filter (·.2 == letter.toNat)).map fun form => Char.ofNat form.1

/-- All characters that are the same letter when case is ignored, the character included. -/
def sameLetter (character : Char) : List Char :=
  let forms := formsOf (foldKey character)
  forms ++ forms.flatMap capitals

end Triage.Text
