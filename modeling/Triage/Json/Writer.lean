/-
This file writes JSON values as text, either compact or with one member a line. Strings escape the
quotation mark, the backslash and the control characters and leave all other characters as they
are.
-/

import Triage.Json.Value
import Triage.Number.Layout

namespace Triage.Json

/-- The text of a number. -/
def Number.render : Number → String
  | .whole value => toString value
  | .real value => Triage.Number.jsonDouble.text Triage.Number.double (Triage.Number.shapeOf value)
  | .single value =>
    Triage.Number.jsonSingle.text Triage.Number.single (Triage.Number.shapeOfSingle value)

/-! ### Strings -/

/-- A lower-case hexadecimal digit. -/
def hexDigit (value : Nat) : Char :=
  Char.ofNat (if value < 10 then 48 + value else 87 + value)

/-- A control character as four hexadecimal digits. -/
def unicodeEscape (character : Char) : List Char :=
  ['\\', 'u', '0', '0', hexDigit (character.toNat / 16), hexDigit (character.toNat % 16)]

/-- A character inside quotation marks. -/
def escape (character : Char) : List Char :=
  if character = '"' then ['\\', '"']
  else if character = '\\' then ['\\', '\\']
  else if 32 ≤ character.toNat then [character]
  else if character = '\n' then ['\\', 'n']
  else if character = '\r' then ['\\', 'r']
  else if character = '\t' then ['\\', 't']
  else if character.toNat = 8 then ['\\', 'b']
  else if character.toNat = 12 then ['\\', 'f']
  else unicodeEscape character

/-- A text in quotation marks. -/
def quote (text : String) : String :=
  String.ofList ('"' :: text.toList.flatMap escape ++ ['"'])

/-! ### Compact text -/

mutual

/-- The text of a value, without blanks. -/
def render : Json → String
  | .null => "null"
  | .bool value => if value then "true" else "false"
  | .number value => value.render
  | .text value => quote value
  | .array items => "[" ++ ",".intercalate (renderItems items) ++ "]"
  | .object members => r"{" ++ ",".intercalate (renderMembers members) ++ r"}"

/-- The texts of the items of an array. -/
def renderItems : List Json → List String
  | [] => []
  | item :: rest => render item :: renderItems rest

/-- The texts of the members of an object. -/
def renderMembers : List (String × Json) → List String
  | [] => []
  | (key, value) :: rest => (quote key ++ ":" ++ render value) :: renderMembers rest

end

/-! ### Indented text -/

/-- A new line at a depth. -/
def newLine (depth : Nat) : String :=
  "\n" ++ String.ofList (List.replicate (2 * depth) ' ')

/-- Parts between brackets, each on a line of its own. -/
def bracketed (opening closing : String) (depth : Nat) (parts : List String) : String :=
  if parts.isEmpty then opening ++ closing
  else opening ++ newLine (depth + 1) ++ ("," ++ newLine (depth + 1)).intercalate parts ++
    newLine depth ++ closing

mutual

/-- The text of a value at a depth, with one item or member a line. -/
def renderAt (depth : Nat) : Json → String
  | .array items => bracketed "[" "]" depth (renderItemsAt (depth + 1) items)
  | .object members => bracketed r"{" r"}" depth (renderMembersAt (depth + 1) members)
  | .null => "null"
  | .bool value => if value then "true" else "false"
  | .number value => value.render
  | .text value => quote value

/-- The texts of the items of an array at a depth. -/
def renderItemsAt (depth : Nat) : List Json → List String
  | [] => []
  | item :: rest => renderAt depth item :: renderItemsAt depth rest

/-- The texts of the members of an object at a depth. -/
def renderMembersAt (depth : Nat) : List (String × Json) → List String
  | [] => []
  | (key, value) :: rest =>
    (quote key ++ ": " ++ renderAt depth value) :: renderMembersAt depth rest

end

/-- The text of a value with one item or member a line, indented by two blanks a level. -/
def renderIndented (value : Json) : String :=
  renderAt 0 value

end Triage.Json
