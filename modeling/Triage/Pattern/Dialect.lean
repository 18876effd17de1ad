/-
This file says what patterns are to those who use them: a text that can be compiled or not, and a compiled
pattern that occurs in a text or not. How a pattern is written and what it matches is up to a dialect,
which everything that compiles patterns is given. Quoting a text gives a pattern that stands for the text
itself.
-/

namespace Triage

/-- A pattern that can be searched for. -/
structure Pattern where
  source : String
  /-- Does the pattern occur in a text? -/
  occursIn : String → Bool

namespace Pattern

/-- A dialect of patterns. -/
class Dialect where
  /-- Compile the text of a pattern, if it is well formed, to a search for its occurrences. -/
  compile? : String → Option (String → Bool)

/-- Compile the text of a pattern. -/
def compile? [Dialect] (source : String) : Option Pattern :=
  (Dialect.compile? source).map (Pattern.mk source)

/-! ### Quotations -/

/-- The characters that mean something in patterns. -/
def specials : List Char := [
  '\\', '.', '+', '*', '?', '(', ')', '|', '[', ']', '{', '}', '^', '$', '#', '&', '-', '~']

/-- A character as a pattern that stands for it. -/
def quoteCharacter (character : Char) : List Char :=
  if specials.contains character then ['\\', character] else [character]

/-- A text as a pattern that stands for it. -/
def quote (text : String) : String :=
  String.ofList (text.toList.flatMap quoteCharacter)

end Pattern

end Triage
