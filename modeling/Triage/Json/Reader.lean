/-
This file reads JSON text, one character at a time. The state of the reader is the stack of the
arrays and objects that are open and the place inside the innermost one, so reading is a fold over
the characters and needs no bound on nesting. Between values only blanks, line ends and tabs are
skipped; there are no comments and no commas at the end of a list.
-/

import Triage.Json.Tree

namespace Triage.Json.Reader

/-! ### Numbers -/

/-- How far the number under way has come. -/
inductive NumberPlace where
  | sign
  | zero
  | whole
  | point
  | fraction
  | exponentMark
  | exponentSign
  | exponent
  deriving DecidableEq

/-- A number under way; its digits stand in reverse. -/
structure NumberDraft where
  place : NumberPlace
  negative : Bool
  whole : List Nat
  fraction : List Nat
  exponentNegative : Bool
  exponent : Nat

namespace NumberDraft

/-- The value of a digit. -/
def digit? (character : Char) : Option Nat :=
  if character.isDigit then some (character.toNat - 48) else none

/-- A number that begins with a character. -/
def start? (character : Char) : Option NumberDraft :=
  if character = '-' then some ⟨.sign, true, [], [], false, 0⟩
  else (digit? character).map fun digit =>
    ⟨if digit = 0 then .zero else .whole, false, [digit], [], false, 0⟩

/-- The number with one more character, if the character can belong to it. -/
def push? (draft : NumberDraft) (character : Char) : Option NumberDraft :=
  match draft.place, digit? character with
  | .sign, some digit =>
    some { draft with place := if digit = 0 then .zero else .whole, whole := [digit] }
  | .whole, some digit => some { draft with whole := digit :: draft.whole }
  | .point, some digit | .fraction, some digit =>
    some { draft with place := .fraction, fraction := digit :: draft.fraction }
  | .exponentMark, some digit | .exponentSign, some digit | .exponent, some digit =>
    some { draft with place := .exponent, exponent := draft.exponent * 10 + digit }
  | .zero, none | .whole, none =>
    if character = '.' then some { draft with place := .point }
    else if character = 'e' ∨ character = 'E' then some { draft with place := .exponentMark }
    else none
  | .fraction, none =>
    if character = 'e' ∨ character = 'E' then some { draft with place := .exponentMark } else none
  | .exponentMark, none =>
    if character = '+' then some { draft with place := .exponentSign }
    else if character = '-' then
      some { draft with place := .exponentSign, exponentNegative := true }
    else none
  | _, _ => none

/-- The number, if it may end here. -/
def finish? (draft : NumberDraft) : Option Numeral :=
  let exponent : Int := if draft.exponentNegative then -(draft.exponent : Int) else draft.exponent
  let numeral (isReal : Bool) : Numeral :=
    ⟨draft.negative, draft.whole.reverse, draft.fraction.reverse, isReal, exponent⟩
  match draft.place with
  | .zero | .whole => some (numeral false)
  | .fraction | .exponent => some (numeral true)
  | _ => none

end NumberDraft

/-! ### Strings -/

/-- Where in an escape the reader stands. -/
inductive EscapePlace where
  | outside
  | backslash
  | hex (count value : Nat)

/-- A string under way: its characters in reverse, a high surrogate that waits for its low one,
and whether a surrogate has been found without its partner. -/
structure StringDraft where
  characters : List Char
  high : Option Nat
  unpaired : Bool
  escape : EscapePlace

namespace StringDraft

/-- An empty string under way. -/
def empty : StringDraft := ⟨[], none, false, .outside⟩

/-- Append a character, which leaves a waiting surrogate without its partner. -/
def append (draft : StringDraft) (character : Char) : StringDraft :=
  { draft with
    characters := character :: draft.characters
    high := none
    unpaired := draft.unpaired || draft.high.isSome
    escape := .outside }

/-- Append a code unit given by its number. Two surrogates in a row make one character. -/
def appendUnit (draft : StringDraft) (unit : Nat) : StringDraft :=
  if 0xd800 ≤ unit ∧ unit < 0xdc00 then
    { draft with
      high := some unit
      unpaired := draft.unpaired || draft.high.isSome
      escape := .outside }
  else if 0xdc00 ≤ unit ∧ unit < 0xe000 then
    match draft.high with
    | some high =>
      { draft with
        characters := Char.ofNat (0x10000 + (high - 0xd800) * 0x400 + (unit - 0xdc00)) ::
          draft.characters
        high := none
        escape := .outside }
    | none => { draft with unpaired := true, escape := .outside }
  else draft.append (Char.ofNat unit)

/-- The character that a letter after a backslash stands for. -/
def escaped? : Char → Option Char
  | '"' => some '"'
  | '\\' => some '\\'
  | '/' => some '/'
  | 'b' => some '\x08'
  | 'f' => some '\x0c'
  | 'n' => some '\n'
  | 'r' => some '\r'
  | 't' => some '\t'
  | _ => none

/-- The value of a hexadecimal digit. -/
def hexValue? (character : Char) : Option Nat :=
  if character.isDigit then some (character.toNat - 48)
  else if 'a' ≤ character ∧ character ≤ 'f' then some (character.toNat - 87)
  else if 'A' ≤ character ∧ character ≤ 'F' then some (character.toNat - 55)
  else none

/-- The string with one more character, other than the closing quotation mark. -/
def push? (draft : StringDraft) (character : Char) : Option StringDraft :=
  match draft.escape with
  | .outside =>
    if character = '\\' then some { draft with escape := .backslash }
    else if character.toNat < 32 then none
    else some (draft.append character)
  | .backslash =>
    if character = 'u' then some { draft with escape := .hex 0 0 }
    else (escaped? character).map draft.append
  | .hex count value => (hexValue? character).map fun digit =>
    if count = 3 then draft.appendUnit (value * 16 + digit)
    else { draft with escape := .hex (count + 1) (value * 16 + digit) }

/-- Does a quotation mark end the string here? -/
def isOpen (draft : StringDraft) : Bool :=
  match draft.escape with
  | .outside => true
  | _ => false

/-- The string; none if a surrogate is without its partner. -/
def finish (draft : StringDraft) : Option String :=
  if draft.unpaired || draft.high.isSome then none
  else some (String.ofList draft.characters.reverse)

end StringDraft

/-! ### Values -/

/-- An array or object that is open; what it holds so far stands in reverse. -/
inductive Frame where
  | array (items : List Tree)
  | object (members : List (Option String × Tree)) (key : Option String)

/-- What may come next. -/
inductive Place where
  | value
  | firstItem
  | firstKey (members : List (Option String × Tree))
  | nextKey (members : List (Option String × Tree))
  | key (members : List (Option String × Tree)) (draft : StringDraft)
  | colon (members : List (Option String × Tree)) (key : Option String)
  | word (rest : List Char) (tree : Tree)
  | text (draft : StringDraft)
  | number (draft : NumberDraft)
  | after (tree : Tree)

/-- The state of the reader. -/
structure State where
  stack : List Frame
  place : Place

/-- Nothing has been read. -/
def State.start : State := ⟨[], .value⟩

/-- Blanks between values. -/
def isSkipped (character : Char) : Bool :=
  character == ' ' || character == '\n' || character == '\t' || character == '\r'

/-- A value begins. -/
def beginValue (stack : List Frame) (character : Char) : Option State :=
  if character = '"' then some ⟨stack, .text .empty⟩
  else if character = '[' then some ⟨.array [] :: stack, .firstItem⟩
  else if character = '{' then some ⟨stack, .firstKey []⟩
  else if character = 'n' then some ⟨stack, .word ['u', 'l', 'l'] .null⟩
  else if character = 't' then some ⟨stack, .word ['r', 'u', 'e'] (.bool true)⟩
  else if character = 'f' then some ⟨stack, .word ['a', 'l', 's', 'e'] (.bool false)⟩
  else (NumberDraft.start? character).map fun draft => ⟨stack, .number draft⟩

/-- A character after a value that has ended: a comma, or the end of what is open. -/
def afterValue (stack : List Frame) (tree : Tree) (character : Char) : Option State :=
  if isSkipped character then some ⟨stack, .after tree⟩
  else match stack with
    | .array items :: outer =>
      if character = ',' then some ⟨.array (tree :: items) :: outer, .value⟩
      else if character = ']' then some ⟨outer, .after (.array (tree :: items).reverse)⟩
      else none
    | .object members key :: outer =>
      if character = ',' then some ⟨outer, .nextKey ((key, tree) :: members)⟩
      else if character = '}' then
        some ⟨outer, .after (.object ((key, tree) :: members).reverse)⟩
      else none
    | [] => none

/-- Read one character. -/
def step (state : State) (character : Char) : Option State :=
  match state.place with
  | .value =>
    if isSkipped character then some state else beginValue state.stack character
  | .firstItem =>
    if isSkipped character then some state
    else if character = ']' then some ⟨state.stack.tail, .after (.array [])⟩
    else beginValue state.stack character
  | .firstKey members =>
    if isSkipped character then some state
    else if character = '}' then some ⟨state.stack, .after (.object [])⟩
    else if character = '"' then some ⟨state.stack, .key members .empty⟩
    else none
  | .nextKey members =>
    if isSkipped character then some state
    else if character = '"' then some ⟨state.stack, .key members .empty⟩
    else none
  | .key members draft =>
    if draft.isOpen && character == '"' then some ⟨state.stack, .colon members draft.finish⟩
    else (draft.push? character).map fun draft => ⟨state.stack, .key members draft⟩
  | .colon members key =>
    if isSkipped character then some state
    else if character = ':' then some ⟨.object members key :: state.stack, .value⟩
    else none
  | .word rest tree =>
    match rest with
    | [] => none
    | expected :: rest =>
      if character = expected then
        some ⟨state.stack, if rest.isEmpty then .after tree else .word rest tree⟩
      else none
  | .text draft =>
    if draft.isOpen && character == '"' then some ⟨state.stack, .after (.text draft.finish)⟩
    else (draft.push? character).map fun draft => ⟨state.stack, .text draft⟩
  | .number draft =>
    match draft.push? character with
    | some longer => some ⟨state.stack, .number longer⟩
    | none => match draft.finish? with
      | some numeral => afterValue state.stack (.number numeral) character
      | none => none
  | .after tree => afterValue state.stack tree character

/-- The value that has been read, if the text may end here. -/
def State.finish? (state : State) : Option Tree :=
  match state.stack, state.place with
  | [], .after tree => some tree
  | [], .number draft => draft.finish?.map .number
  | _, _ => none

end Reader

/-- What a JSON text says, if it is one. -/
def Tree.parse? (text : String) : Option Tree :=
  (text.toList.foldlM Reader.step Reader.State.start).bind (·.finish?)

end Triage.Json
