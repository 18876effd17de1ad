/-
This file finds the words in a text that are worth keeping as keywords, and looks for keywords in
messages.
-/

import Triage.Text.Case
import Triage.Text.Letter

namespace Triage.Keyword

/-- Does a character belong to a keyword? -/
def isPart (character : Char) : Bool :=
  Text.isAlphanumeric character || character == '_'

/-- The pieces between the characters that belong to no keyword. -/
def pieces : List Char → List (List Char)
  | [] => [[]]
  | character :: rest =>
    if isPart character then
      match pieces rest with
      | [] => [[character]]
      | piece :: others => (character :: piece) :: others
    else [] :: pieces rest

/-- The number of characters that a keyword exceeds. -/
def shortLength : Nat := 3

/-- The keywords in a text: its longer words in lower case, without the given ones. -/
def extract (text : String) (stopwords : List String) : List String :=
  ((pieces (Text.lowerAll [] text.toList)).filter (shortLength < ·.length)).map String.ofList
    |>.filter fun word => !stopwords.contains word

/-! ### Looking for keywords -/

/-- Do the characters stand side by side in a text? -/
def isInside (characters : List Char) : List Char → Bool
  | [] => characters.isEmpty
  | text@(_ :: rest) => characters.isPrefixOf text || isInside characters rest

/-- Does the message contain a keyword, up to case? -/
def occursIn (keyword message : String) : Bool :=
  isInside keyword.toList (Text.lowerAll [] message.toList)

end Triage.Keyword
